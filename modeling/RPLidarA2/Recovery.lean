import RPLidarA2.Timing

/-!
# RPLIDAR A2 driver - Getting back to scans

Every decoder state but {lit}`rp_health` can still be led back to
{lit}`rp_measurements` by bytes from the lidar: a scan descriptor from
{lit}`rp_unknown` or from an empty descriptor buffer, the rest of a started
descriptor first, and, from {lit}`rp_resetted`, the rest of the device
information or enough stray bytes for the decoder to give up.  In
{lit}`rp_health` no byte has any effect, so it is the one state the driver never
leaves.

Main results:

- Theorem {lit}`feed_completeDescriptor`: the bytes that complete a descriptor
  are handed to {lit}`parse_response_descriptor` behind the bytes already
  stored.
- Theorem {lit}`canScan_iff`: a decoder satisfying the invariant can be brought
  to {lit}`rp_measurements` exactly when it is not in {lit}`rp_health`.
- Theorem {lit}`run_recoverable`: the same for the driver after any run from its
  construction, once {lit}`initialise` has reset the lidar.
-/

namespace RPLidarA2

/-! ## Completing a descriptor -/

/-- In {lit}`rp_responding`, the bytes that complete a descriptor started by the
first of them or before are handed to {lit}`parse_response_descriptor` behind the
bytes already stored. -/
theorem feed_completeDescriptor (P : Params) (now : Nat) :
    ∀ (bs : List UInt8) (s : Decoder), s.rpState = .rpResponding →
      (bs.head? = some rplidarPreamble ∨ s.descriptorData = true) → s.byteCount < 7 →
      s.byteCount + bs.length = 7 →
      ∃ d : Nat → UInt8, (∀ i < 7, d i = if i < s.byteCount then s.descriptor i
          else bs.getD (i - s.byteCount) 0) ∧
        feed P s (bs.map fun c => (now, c)) =
          ({ parseResponseDescriptor now { s with descriptorData := true, descriptor := d
                                                  byteCount := 7, responseType := .descriptor }
             with byteCount := 0 }, [.parseDescriptor ((List.range 7).map d)])
  | [], _, _, _, _, hlen => by simp at hlen; omega
  | [c], s, hs, h, _, hlen => by
    have h6 : s.byteCount = 6 := by simpa using hlen
    have h' : c = rplidarPreamble ∨ s.descriptorData = true := by simpa using h
    refine ⟨Function.update s.descriptor 6 c, fun i hi => ?_, ?_⟩
    · rcases Nat.lt_or_ge i 6 with hi6 | hi6
      · rw [if_pos (by omega), Function.update_noteq (by omega)]
      · rw [if_neg (by omega), show i = 6 by omega, h6]
        simp
    · rw [List.map_cons, List.map_nil, feed_cons, stepByte_responding hs,
        onResponding_complete h' h6]
      rfl
  | c :: c' :: rest, s, hs, h, _, hlen => by
    have h' : c = rplidarPreamble ∨ s.descriptorData = true := by simpa using h
    simp only [List.length_cons] at hlen
    rw [List.map_cons, feed_cons, stepByte_responding hs, onResponding_collect h' (by omega)]
    obtain ⟨d, hd, hfeed⟩ := feed_completeDescriptor P now (c' :: rest)
      { s with descriptorData := true, descriptor := Function.update s.descriptor s.byteCount c
               byteCount := s.byteCount + 1 } hs (.inr rfl) (by simp; omega) (by simp; omega)
    refine ⟨d, fun i hi => ?_, by rw [hfeed]; rfl⟩
    rw [hd i hi]
    simp only
    rcases Nat.lt_trichotomy i s.byteCount with hlt | rfl | hgt
    · rw [if_pos (by omega), if_pos hlt, Function.update_noteq (by omega)]
    · simp
    · rw [if_neg (by omega), if_neg (by omega),
        show i - s.byteCount = (i - (s.byteCount + 1)) + 1 by omega]
      rfl

/-- A scan descriptor read from an empty descriptor buffer is handed to
{lit}`parse_response_descriptor` and enters {lit}`rp_measurements` with an empty
scan payload, the clock becoming the time of the last distance. -/
theorem feed_scanDescriptor (P : Params) (now : Nat) {s : Decoder}
    (hs : s.rpState = .rpResponding) (hbc : s.byteCount = 0) :
    ∃ d : Nat → UInt8, feed P s (scanDescriptor.map fun c => (now, c)) =
      ({ s with descriptorData := true, descriptor := d, byteCount := 0, responseType := .scan
                payloadLength := 5, lastDistanceReceivedMs := now, rpState := .rpMeasurements },
        [.parseDescriptor scanDescriptor]) := by
  obtain ⟨d, hd, hfeed⟩ := feed_completeDescriptor P now scanDescriptor s hs (.inl rfl)
    (by omega) (by simp [scanDescriptor, hbc])
  simp only [hbc, Nat.not_lt_zero, if_false, Nat.sub_zero] at hd
  refine ⟨d, ?_⟩
  rw [hfeed]
  simp [parseResponseDescriptor, hd 0 (by norm_num), hd 1 (by norm_num), hd 2 (by norm_num),
    hd 3 (by norm_num), hd 4 (by norm_num), hd 5 (by norm_num), hd 6 (by norm_num), scanDescriptor,
    rplidarPreamble, List.range_succ]

/-- A descriptor whose last byte is {lit}`00` matches neither template: it leaves
the state, or enters {lit}`rp_unknown`. -/
theorem parseResponseDescriptor_last_zero (now : Nat) (s : Decoder) (h6 : s.descriptor 6 = 0) :
    (parseResponseDescriptor now s).rpState = .rpUnknown ∨
      (parseResponseDescriptor now s).rpState = s.rpState := by
  unfold parseResponseDescriptor
  split_ifs <;> simp_all

/-! ## Every state but rp_health can get back to scans -/

/-- In {lit}`rp_health` every byte is read and dropped. -/
theorem feed_health (P : Params) {s : Decoder} (hs : s.rpState = .rpHealth)
    (bs : List (Nat × UInt8)) : feed P s bs = (s, []) := by
  induction bs with
  | nil => rfl
  | cons b bs ih =>
    obtain ⟨now, c⟩ := b
    rw [feed_cons, stepByte_health hs, ih]
    rfl

/-- Some block of bytes read at clock {lit}`now` brings the decoder to
{lit}`rp_measurements`. -/
def CanScan (P : Params) (now : Nat) (s : Decoder) : Prop :=
  ∃ cs : List UInt8, (feed P s (cs.map fun c => (now, c))).1.rpState = .rpMeasurements

/-- A decoder that some bytes lead to one that can get back to scans can itself. -/
theorem CanScan.of_feed {P : Params} {now : Nat} {s : Decoder} (cs : List UInt8)
    (h : CanScan P now (feed P s (cs.map fun c => (now, c))).1) : CanScan P now s := by
  obtain ⟨ds, hds⟩ := h
  exact ⟨cs ++ ds, by rw [List.map_append, feed_append]; exact hds⟩

/-- With an empty descriptor buffer in {lit}`rp_responding`, the scan descriptor
leads to scans. -/
theorem canScan_of_empty (P : Params) (now : Nat) {s : Decoder} (hs : s.rpState = .rpResponding)
    (hbc : s.byteCount = 0) : CanScan P now s := by
  obtain ⟨d, hd⟩ := feed_scanDescriptor P now hs hbc
  exact ⟨scanDescriptor, by rw [hd]⟩

/-- From {lit}`rp_unknown`, the scan descriptor leads to scans. -/
theorem canScan_of_unknown (P : Params) (now : Nat) {s : Decoder} (hs : s.rpState = .rpUnknown)
    (hbc : s.byteCount = 0) : CanScan P now s := by
  have hstep : stepByte P now s 0xA5 = stepByte P now { s with rpState := .rpResponding } 0xA5 := by
    simp [stepByte, hs, onUnknown, rplidarPreamble]
  have h : (feed P { s with rpState := .rpResponding }
      (scanDescriptor.map fun c => (now, c))).1.rpState = .rpMeasurements := by
    obtain ⟨d, hd⟩ := feed_scanDescriptor P now
      (show ({ s with rpState := .rpResponding } : Decoder).rpState = .rpResponding from rfl) hbc
    rw [hd]
  refine ⟨scanDescriptor, ?_⟩
  rwa [scanDescriptor, List.map_cons, feed_cons, ← hstep] at h

/-- From {lit}`rp_responding`, the rest of the started descriptor and then the
scan descriptor lead to scans. -/
theorem canScan_of_responding (P : Params) (now : Nat) {s : Decoder} (h : Inv s)
    (hs : s.rpState = .rpResponding) : CanScan P now s := by
  have hst : s.byteCount < 7 ∧ (s.descriptorData = false → s.byteCount = 0) := by
    simpa [StateInv, hs] using h.state
  cases hdd : s.descriptorData
  · exact canScan_of_empty P now hs (hst.2 hdd)
  -- the started descriptor is completed with zeros, which match neither template
  obtain ⟨d, hd, hfeed⟩ := feed_completeDescriptor P now (List.replicate (7 - s.byteCount) 0) s
    hs (.inr hdd) hst.1 (by simp; omega)
  refine CanScan.of_feed (List.replicate (7 - s.byteCount) 0) ?_
  have h6 : ({ s with descriptorData := true, descriptor := d, byteCount := 7
                      responseType := .descriptor } : Decoder).descriptor 6 = 0 := by
    show d 6 = 0
    rw [hd 6 (by norm_num), if_neg (by omega)]
    simp [List.getD_eq_getElem?_getD, List.getElem?_replicate, show 6 - s.byteCount < 7 - s.byteCount by omega]
  rw [hfeed]
  rcases parseResponseDescriptor_last_zero now _ h6 with hu | hr
  · exact canScan_of_unknown P now hu rfl
  · exact canScan_of_empty P now (hr.trans hs) rfl

/-- Without device information, stray bytes make the decoder give up to
{lit}`rp_unknown`, from where a scan descriptor is accepted. -/
theorem canScan_of_stray (P : Params) (now : Nat) :
    ∀ (n : Nat) (s : Decoder), 6 - s.cnt ≤ n → s.rpState = .rpResetted →
      s.informationData = false → s.byteCount = 0 → CanScan P now s
  | n, s, hn, hs, hinfo, hbc => by
    refine CanScan.of_feed [0] ?_
    have h1 : ¬(((0 : UInt8) = 0x52 ∨ s.informationData = true) ∧ s.byteCount < 62) := by
      simp [hinfo]
    rw [List.map_cons, List.map_nil, feed_cons, feed_nil, stepByte_resetted hs]
    by_cases hc : 5 < s.cnt
    · rw [onResetted_giveUp h1 hinfo hc]
      exact canScan_of_unknown P now rfl hbc
    · rw [onResetted_stray h1 hinfo (by omega)]
      cases n with
      | zero => omega
      | succ n => exact canScan_of_stray P now n _ (by simp; omega) hs hinfo hbc

/-- From {lit}`rp_resetted`, the rest of the device information, or stray bytes
until the decoder gives up, lead to a state that can get back to scans. -/
theorem canScan_of_resetted (P : Params) (now : Nat) {s : Decoder} (h : Inv s)
    (hs : s.rpState = .rpResetted) : CanScan P now s := by
  have hst : s.byteCount ≤ 62 ∧ (s.informationData = false → s.byteCount = 0) := by
    simpa [StateInv, hs] using h.state
  cases hinfo : s.informationData
  · exact canScan_of_stray P now _ s le_rfl hs hinfo (hst.2 hinfo)
  -- the rest of the device information, then the byte that requests scan mode
  let block := List.replicate (62 - s.byteCount) (0 : UInt8)
  obtain ⟨h1, h2, h3, -⟩ := feed_information P s hs hinfo (block.map fun c => (now, c))
    (by simp [block]; omega)
  refine CanScan.of_feed block (CanScan.of_feed [0] ?_)
  have hfull : ¬(((0 : UInt8) = 0x52 ∨ (feed P s (block.map fun c => (now, c))).1.informationData =
      true) ∧ (feed P s (block.map fun c => (now, c))).1.byteCount < 62) := by
    simp only [h3, List.length_map, List.length_replicate, block]
    omega
  rw [List.map_cons, List.map_nil, feed_cons, feed_nil, stepByte_resetted h1,
    onResetted_scanMode hfull h2]
  exact canScan_of_empty P now rfl rfl

/-- A decoder satisfying the invariant can be brought to {lit}`rp_measurements`
by bytes read at any one clock reading exactly when it is not in
{lit}`rp_health`. -/
theorem canScan_iff (P : Params) (now : Nat) {s : Decoder} (h : Inv s) :
    CanScan P now s ↔ s.rpState ≠ .rpHealth := by
  refine ⟨fun ⟨cs, hcs⟩ hs => ?_, fun hs => ?_⟩
  · rw [feed_health P hs] at hcs
    exact absurd (hs.symm.trans hcs) (by decide)
  · cases hst : s.rpState
    case rpUnknown => exact canScan_of_unknown P now hst (by simpa [StateInv, hst] using h.state)
    case rpResetted => exact canScan_of_resetted P now h hst
    case rpResponding => exact canScan_of_responding P now h hst
    case rpMeasurements => exact ⟨[], hst⟩
    case rpHealth => exact absurd hst hs

/-! ## The driver -/

/-- Once an update has found the driver initialised, it has drained the UART. -/
theorem update_rx (P : Params) (now : Nat) (s : Driver)
    (h : (update P now s).1.initialised = true) : (update P now s).1.rx = [] := by
  cases hi : s.initialised
  · cases hsec : s.sectorInitialised
    · rw [update_first hi hsec] at h
      exact absurd h Bool.false_ne_true
    · rw [update_reset hi hsec]
      rfl
  · rw [update_of_initialised hi]
    rfl

/-- Once initialised, a driver ends every update with an empty UART queue, so after
any run an initialised driver has drained it. -/
theorem run_rx (P : Params) (ticks : List (Nat × List UInt8)) :
    ∀ s : Driver, (s.initialised = true → s.rx = []) →
      (run P s ticks).1.initialised = true → (run P s ticks).1.rx = [] := by
  induction ticks with
  | nil => exact fun s h => h
  | cons t ts ih => exact fun s _ => ih (tick P s t).1 (update_rx P t.1 _)

/-- An update of an initialised driver with a drained UART reads the bytes that
arrived at its clock and reports the status from the time of the last distance. -/
theorem tick_of_initialised (P : Params) {s : Driver} (hi : s.initialised = true)
    (hrx : s.rx = []) (now : Nat) (bytes : List UInt8) :
    tick P s (now, bytes) =
      ({ s with decoder := (feed P s.decoder (bytes.map fun c => (now, c))).1, rx := []
                status := statusAt now
                  (feed P s.decoder (bytes.map fun c => (now, c))).1.lastDistanceReceivedMs },
        (feed P s.decoder (bytes.map fun c => (now, c))).2) := by
  rw [tick, update_of_initialised (by exact hi)]
  simp [getReadings, hrx]

/-- Along every run from the constructed driver, once {lit}`initialise` has reset
the lidar, some block of bytes in the next update brings the decoder back to
{lit}`rp_measurements` exactly when it is not in {lit}`rp_health`: that state is
the one the driver never leaves. -/
theorem run_recoverable (P : Params) (ticks : List (Nat × List UInt8))
    (hi : (run P Driver.construct ticks).1.initialised = true) (now : Nat) :
    (run P Driver.construct ticks).1.decoder.rpState ≠ .rpHealth ↔
      ∃ bytes : List UInt8,
        (tick P (run P Driver.construct ticks).1 (now, bytes)).1.decoder.rpState =
          .rpMeasurements := by
  have hinv := (run_safe P ticks DriverInv.construct).1.decoder
  have hrx := run_rx P ticks Driver.construct (fun h => absurd h (by decide)) hi
  simp only [tick_of_initialised P hi hrx]
  exact (canScan_iff P now hinv).symm

/-- The driver after the reset of {lit}`initialise`. -/
theorem run_recoverable_initialised :
    (run Params.plain Driver.construct [(1, []), (2, [])]).1.initialised = true ∧
      ((run Params.plain Driver.construct [(1, []), (2, [])]).1.decoder.rpState ≠ .rpHealth ↔
        ∃ bytes : List UInt8,
          (tick Params.plain (run Params.plain Driver.construct [(1, []), (2, [])]).1
            (3, bytes)).1.decoder.rpState = .rpMeasurements) :=
  ⟨by decide, run_recoverable Params.plain _ (by decide) 3⟩

end RPLidarA2
