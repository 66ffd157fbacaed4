import RPLidarA2.Driver

/-!
# RPLIDAR A2 driver - The decoder invariant and buffer bounds

The three buffers of {lit}`get_readings` are written at {lit}`_byte_count`, and only
the write into {lit}`_rp_systeminfo` is guarded where it happens.  The other two
writes are in bounds because no path leaves {lit}`_byte_count` stale when the
decoder changes state.  {lit}`Inv` states this per decoder state, together with
the bounds that keep the {lit}`uint8_t` counters from wrapping.

Main results:

- Theorem {lit}`stepByte_safe`: one byte in any state satisfying the invariant
  keeps it and writes inside its buffer.
- Theorem {lit}`feed_safe`: the same for every byte stream, at any clock readings.
- Theorem {lit}`run_safe`: the same for every run of {lit}`update` calls from a
  driver satisfying {lit}`DriverInv`, which the constructed driver does.
- Theorem {lit}`run_inv_inBounds`: along every run of {lit}`update` calls from the
  constructed driver, the invariant holds and no write leaves its buffer.
-/

namespace RPLidarA2

/-! ## The invariant -/

/-- Where {lit}`_byte_count` may stand in each decoder state. -/
def StateInv (s : Decoder) : Prop :=
  match s.rpState with
  | .rpResetted => s.byteCount ≤ 62 ∧ (s.informationData = false → s.byteCount = 0)
  | .rpResponding => s.byteCount < 7 ∧ (s.descriptorData = false → s.byteCount = 0)
  | .rpUnknown => s.byteCount = 0
  | .rpMeasurements => s.payloadLength = 5 ∧ s.responseType = .scan ∧ s.byteCount < 5 ∧
      (s.syncError ≠ 0 → s.byteCount = 0)
  | .rpHealth => True

/-- The decoder invariant: the per-state bounds on {lit}`_byte_count`,
{lit}`_information_data` only in {lit}`rp_resetted`, and the counter bounds. -/
structure Inv (s : Decoder) : Prop where
  state : StateInv s
  information : s.informationData = true → s.rpState = .rpResetted
  syncError_le : s.syncError ≤ 1
  cnt_le : s.cnt ≤ 10

/-- {lit}`_information_data` is clear outside {lit}`rp_resetted`. -/
theorem Inv.informationData_false {s : Decoder} (h : Inv s) (hs : s.rpState ≠ .rpResetted) :
    s.informationData = false := by
  cases hi : s.informationData
  · rfl
  · exact absurd (h.information hi) hs

/-- A step result that keeps the invariant and writes only inside its buffers. -/
def Safe (r : Decoder × List Call) : Prop := Inv r.1 ∧ ∀ x ∈ r.2, x.inBounds

/-! ## Commands and parsers -/

/-- A reset from a cleared {lit}`_byte_count` keeps the invariant. -/
theorem resetRplidar_safe {s : Decoder} (now : Nat) (h : Inv s) (hbc : s.byteCount = 0) :
    Safe (resetRplidar now s) :=
  ⟨⟨by simp [resetRplidar, StateInv, hbc], by simp [resetRplidar], h.syncError_le, h.cnt_le⟩,
    by simp [resetRplidar, Call.inBounds]⟩

/-- What {lit}`parse_response_descriptor` can do: enter {lit}`rp_measurements` with
a scan payload, enter {lit}`rp_health` or {lit}`rp_unknown`, or leave the state;
the counters and flags stay. -/
theorem parseResponseDescriptor_cases (now : Nat) (s : Decoder) :
    let r := parseResponseDescriptor now s
    ((r.rpState = .rpMeasurements ∧ r.payloadLength = 5 ∧ r.responseType = .scan) ∨
      r.rpState = .rpHealth ∨ r.rpState = .rpUnknown ∨ r.rpState = s.rpState) ∧
    r.syncError = s.syncError ∧ r.cnt = s.cnt ∧ r.informationData = s.informationData := by
  simp only [parseResponseDescriptor]
  split_ifs <;> simp_all

/-- A descriptor completed in {lit}`rp_responding` leaves a state satisfying the
invariant once {lit}`_byte_count` is cleared. -/
theorem parseResponseDescriptor_inv (now : Nat) {t : Decoder} (hst : t.rpState = .rpResponding)
    (hinfo : t.informationData = false) (hse : t.syncError ≤ 1) (hcnt : t.cnt ≤ 10) :
    Inv { parseResponseDescriptor now t with byteCount := 0 } := by
  obtain ⟨hcases, hse', hcnt', hinfo'⟩ := parseResponseDescriptor_cases now t
  refine ⟨?_, by simp [hinfo', hinfo], by simpa [hse'] using hse, by simpa [hcnt'] using hcnt⟩
  rcases hcases with ⟨h1, h2, h3⟩ | h1 | h1 | h1 <;> simp [StateInv, h1, hst, *]

/-- {lit}`parse_response_data` writes only the sample members, the time of the
last distance and the sync error. -/
theorem parseResponseData_fst (P : Params) (now : Nat) (s : Decoder) :
    (parseResponseData P now s).1 =
      { s with lastDistanceReceivedMs := (parseResponseData P now s).1.lastDistanceReceivedMs
               samples := (parseResponseData P now s).1.samples
               syncError := (parseResponseData P now s).1.syncError } := by
  unfold parseResponseData
  split
  · split_ifs <;> rfl
  · rfl

/-- A scan payload that fails the start/check-bit test raises the sync error. -/
theorem parseResponseData_syncError (P : Params) (now : Nat) {s : Decoder}
    (hrt : s.responseType = .scan) :
    (parseResponseData P now s).1.syncError =
      if (SensorScan.ofBytes s.payload).valid then s.syncError else (s.syncError + 1) % 256 := by
  simp only [parseResponseData, hrt]
  split_ifs <;> rfl

/-- {lit}`parse_response_data` makes no buffer write. -/
theorem parseResponseData_inBounds (P : Params) (now : Nat) (s : Decoder) :
    ∀ x ∈ (parseResponseData P now s).2, x.inBounds := by
  simp only [parseResponseData]
  split
  · split_ifs
    · simp only [SampleState.sample, SectorWrite.calls]
      split <;> simp [Call.inBounds]
    · simp
  · simp

/-! ## One byte in each state -/

section Handlers

variable {P : Params} {now : Nat} {s : Decoder} {c : UInt8}

/-- A byte in {lit}`rp_resetted` keeps the invariant and writes inside
{lit}`_rp_systeminfo`. -/
theorem onResetted_safe (h : Inv s) (hs : s.rpState = .rpResetted) : Safe (onResetted s c) := by
  have hst := h.state
  simp only [StateInv, hs] at hst
  obtain ⟨hbc, hbc0⟩ := hst
  by_cases h1 : (c = 0x52 ∨ s.informationData = true) ∧ s.byteCount < 62
  · rw [onResetted_store h1]
    exact ⟨⟨by simp [StateInv, hs]; omega, by simp [hs], h.syncError_le, h.cnt_le⟩, by simp⟩
  cases hi : s.informationData
  · by_cases hc : 5 < s.cnt
    · rw [onResetted_giveUp h1 hi hc]
      exact ⟨⟨by simp [StateInv, hbc0 hi], by simp [hi], h.syncError_le, by simp⟩, by simp⟩
    · rw [onResetted_stray h1 hi (by omega)]
      exact ⟨⟨by simp [StateInv, hs, hbc0 hi], by simp [hi], h.syncError_le, by simp; omega⟩,
        by simp⟩
  · rw [onResetted_scanMode h1 hi]
    exact ⟨⟨by simp [StateInv], by simp, h.syncError_le, h.cnt_le⟩, by simp [Call.inBounds]⟩

/-- A byte in {lit}`rp_responding` keeps the invariant and writes inside
{lit}`_descriptor`. -/
theorem onResponding_safe (h : Inv s) (hs : s.rpState = .rpResponding) :
    Safe (onResponding now s c) := by
  have hst := h.state
  simp only [StateInv, hs] at hst
  obtain ⟨hbc, hbc0⟩ := hst
  have hinfo := h.informationData_false (by simp [hs])
  by_cases ha : c = rplidarPreamble ∨ s.descriptorData = true
  · by_cases h6 : s.byteCount = 6
    · rw [onResponding_complete ha h6]
      exact ⟨parseResponseDescriptor_inv now (by simp [hs]) (by simp [hinfo]) h.syncError_le
        h.cnt_le, by simp [Call.inBounds]⟩
    · rw [onResponding_collect ha (by omega)]
      exact ⟨⟨by simp [StateInv, hs]; omega, by simp [hinfo], h.syncError_le, h.cnt_le⟩, by simp⟩
  · rw [onResponding_reject ha]
    have hbc' : s.byteCount = 0 := hbc0 (by simpa using (not_or.1 ha).2)
    exact ⟨⟨by simp [StateInv, hbc'], by simp [hinfo], h.syncError_le, h.cnt_le⟩, by simp⟩

/-- A payload byte in a state without sync error keeps the invariant and writes
inside {lit}`payload`. -/
theorem storePayload_safe (hs : s.rpState = .rpMeasurements) (hpl : s.payloadLength = 5)
    (hrt : s.responseType = .scan) (hbc : s.byteCount < 5) (hse : s.syncError = 0)
    (hinfo : s.informationData = false) (hcnt : s.cnt ≤ 10) : Safe (storePayload P now s c) := by
  by_cases hfull : s.byteCount + 1 = s.payloadLength
  · rw [storePayload_full hbc hfull]
    refine ⟨?_, ?_⟩ <;> dsimp only
    · have hrt' : ({ s with payload := Function.update s.payload s.byteCount c
                            byteCount := s.byteCount + 1 } : Decoder).responseType = .scan := hrt
      rw [parseResponseData_fst, parseResponseData_syncError P now hrt']
      refine ⟨by simp [StateInv, hs, hpl, hrt], by simp [hinfo], ?_, hcnt⟩
      split_ifs <;> simp [hse]
    · simp only [List.mem_cons]
      rintro x (rfl | hx)
      exacts [trivial, parseResponseData_inBounds P now _ x hx]
  · rw [storePayload_incomplete hbc hfull]
    exact ⟨⟨by simp [StateInv, hs, hpl, hrt, hse]; omega, by simp [hinfo], by simp [hse], hcnt⟩,
      by simp⟩

/-- A byte in {lit}`rp_measurements` keeps the invariant and writes inside
{lit}`payload`. -/
theorem onMeasurements_safe (h : Inv s) (hs : s.rpState = .rpMeasurements) :
    Safe (onMeasurements P now s c) := by
  have hst := h.state
  simp only [StateInv, hs] at hst
  obtain ⟨hpl, hrt, hbc, hbc0⟩ := hst
  have hinfo := h.informationData_false (by simp [hs])
  by_cases hse : s.syncError = 0
  · rw [onMeasurements_store hse]
    exact storePayload_safe hs hpl hrt hbc hse hinfo h.cnt_le
  cases hc : isResyncByte c
  · by_cases ht : millisSince now s.lastDistanceReceivedMs > resyncTimeout
    · rw [onMeasurements_timeout hse hc ht]
      exact resetRplidar_safe now h (hbc0 hse)
    · rw [onMeasurements_wait hse hc ht]
      exact ⟨h, by simp⟩
  · rw [onMeasurements_resync hse hc]
    exact storePayload_safe hs hpl hrt hbc rfl hinfo h.cnt_le

/-- A byte in {lit}`rp_unknown` keeps the invariant and writes inside
{lit}`_descriptor`. -/
theorem onUnknown_safe (h : Inv s) (hs : s.rpState = .rpUnknown) : Safe (onUnknown now s c) := by
  have hbc : s.byteCount = 0 := by simpa [StateInv, hs] using h.state
  have hinfo := h.informationData_false (by simp [hs])
  have hcnt := h.cnt_le
  by_cases hc : c = rplidarPreamble
  · rw [onUnknown_preamble hc]
    exact onResponding_safe ⟨by simp [StateInv, hbc], by simp [hinfo], h.syncError_le, hcnt⟩ rfl
  by_cases h10 : s.cnt = 10
  · rw [onUnknown_reset hc h10]
    exact ⟨⟨by simp [StateInv, hbc], by simp [hinfo], h.syncError_le, by simp⟩,
      by simp [Call.inBounds]⟩
  · rw [onUnknown_count hc (by omega)]
    exact ⟨⟨by simp [StateInv, hs, hbc], by simp [hinfo], h.syncError_le, by simp; omega⟩,
      by simp⟩

end Handlers

/-! ## Byte streams and runs -/

/-- One byte in any state satisfying the invariant keeps it and writes inside
its buffer. -/
theorem stepByte_safe (P : Params) (now : Nat) {s : Decoder} (c : UInt8) (h : Inv s) :
    Safe (stepByte P now s c) := by
  cases hs : s.rpState with
  | rpUnknown => rw [stepByte_unknown hs]; exact onUnknown_safe h hs
  | rpResetted => rw [stepByte_resetted hs]; exact onResetted_safe h hs
  | rpResponding => rw [stepByte_responding hs]; exact onResponding_safe h hs
  | rpMeasurements => rw [stepByte_measurements hs]; exact onMeasurements_safe h hs
  | rpHealth => rw [stepByte_health hs]; exact ⟨h, by simp⟩

/-- Every byte stream, at any clock readings, keeps the invariant and writes
inside its buffers. -/
theorem feed_safe (P : Params) {s : Decoder} (bs : List (Nat × UInt8)) (h : Inv s) :
    Safe (feed P s bs) := by
  induction bs generalizing s with
  | nil => exact ⟨h, by simp⟩
  | cons b bs ih =>
    obtain ⟨now, c⟩ := b
    obtain ⟨h1, hc1⟩ := stepByte_safe P now c h
    obtain ⟨h2, hc2⟩ := ih h1
    rw [feed_cons]
    exact ⟨h2, fun x hx => (List.mem_append.1 hx).elim (hc1 x) (hc2 x)⟩

/-- The driver invariant: the decoder invariant, and the decoder left in
{lit}`rp_unknown` until {lit}`initialise` has reset the lidar. -/
structure DriverInv (s : Driver) : Prop where
  decoder : Inv s.decoder
  fresh : s.initialised = false → s.decoder.rpState = .rpUnknown

/-- The constructed driver satisfies the driver invariant. -/
theorem DriverInv.construct : DriverInv Driver.construct :=
  ⟨⟨by simp [StateInv, Driver.construct, Decoder.construct], by simp [Driver.construct,
    Decoder.construct], by simp [Driver.construct, Decoder.construct],
    by simp [Driver.construct, Decoder.construct]⟩, fun _ => rfl⟩

/-- One {lit}`update` call keeps the driver invariant and writes inside its buffers. -/
theorem update_safe (P : Params) (now : Nat) {s : Driver} (h : DriverInv s) :
    DriverInv (update P now s).1 ∧ ∀ x ∈ (update P now s).2, x.inBounds := by
  cases hi : s.initialised
  · have hu := h.fresh hi
    cases hsec : s.sectorInitialised
    · rw [update_first hi hsec]
      exact ⟨⟨h.decoder, fun _ => hu⟩, by simp⟩
    · rw [update_reset hi hsec]
      have hbc : s.decoder.byteCount = 0 := by simpa [StateInv, hu] using h.decoder.state
      obtain ⟨hr, -⟩ := resetRplidar_safe now h.decoder hbc
      obtain ⟨hg, hcalls⟩ := feed_safe P (s.rx.map fun c => (now, c)) hr
      refine ⟨⟨hg, by simp [getReadings]⟩, ?_⟩
      simp only [List.mem_cons]
      rintro x (rfl | hx)
      exacts [trivial, hcalls x hx]
  · rw [update_of_initialised hi]
    obtain ⟨hg, hcalls⟩ := feed_safe P (s.rx.map fun c => (now, c)) h.decoder
    exact ⟨⟨hg, by simp [getReadings, hi]⟩, hcalls⟩

/-- Every run of {lit}`update` calls from a driver satisfying the invariant keeps it
and writes inside its buffers. -/
theorem run_safe (P : Params) {s : Driver} (ts : List (Nat × List UInt8)) (h : DriverInv s) :
    DriverInv (run P s ts).1 ∧ ∀ x ∈ (run P s ts).2, x.2.inBounds := by
  induction ts generalizing s with
  | nil => exact ⟨h, by simp [run]⟩
  | cons t ts ih =>
    have h0 : DriverInv { s with rx := s.rx ++ t.2 } := ⟨h.decoder, h.fresh⟩
    obtain ⟨h1, hc1⟩ := update_safe P t.1 h0
    obtain ⟨h2, hc2⟩ := ih h1
    refine ⟨h2, ?_⟩
    simp only [run, List.mem_append, List.mem_map]
    rintro x (⟨y, hy, rfl⟩ | hx)
    exacts [hc1 y hy, hc2 x hx]

/-- Along every run of {lit}`update` calls from the constructed driver, with the
bytes split across the calls in any way, the decoder invariant holds and no write
leaves its buffer. -/
theorem run_inv_inBounds (P : Params) (ticks : List (Nat × List UInt8)) :
    Inv (run P Driver.construct ticks).1.decoder ∧
      ∀ x ∈ (run P Driver.construct ticks).2, x.2.inBounds :=
  let h := run_safe P ticks DriverInv.construct
  ⟨h.1.decoder, h.2⟩

end RPLidarA2
