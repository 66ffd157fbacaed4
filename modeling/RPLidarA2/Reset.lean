import RPLidarA2.Framing

/-!
# RPLIDAR A2 driver - What a reset leaves behind

{lit}`reset_rplidar` writes {lit}`A5 40`, records the clock and sets the decoder
state to {lit}`rp_resetted`; it clears none of the decoder's own members.  The
reset in {lit}`rp_unknown` clears {lit}`_cnt` after it, the one in
{lit}`rp_measurements` nothing.  So a reset that ends a sync error leaves the sync
error pending, and {lit}`_descriptor_data`, set by the first descriptor byte, is
never cleared by any path.

Main results:

- Theorem {lit}`reset_keeps_sync_error`: after a reset on the resync timeout, the
  decoder drops the first payload byte of the next scan, which the decoder left
  by the first reset of {lit}`initialise` stores.
- Theorem {lit}`feed_alike`: decoders that agree on what {lit}`get_readings` reads
  pass through the same states on every byte stream and hand the same bytes to
  the parsers.
- Theorem {lit}`reset_cleared_like_fresh`: a reset from a decoder whose byte
  count, flags and counters are clear cannot be told apart from the first reset.
-/

namespace RPLidarA2

/-- A call that hands bytes to {lit}`parse_response_descriptor` or
{lit}`parse_response_data`. -/
def Call.isParse : Call → Bool
  | .parseDescriptor _ | .parseData _ => true
  | _ => false

/-- A scan descriptor at 3 ms and a sample failing the start/check-bit test raise a
sync error, and a byte {lit}`00` at 5010 ms resets the lidar.  The sync error and
{lit}`_descriptor_data` survive the reset.  On the continuation of seven stray
bytes, a scan descriptor and five bytes {lit}`00`, the decoder passes through the
same states as the one the first reset of {lit}`initialise` leaves, but hands no
payload to {lit}`parse_response_data` where that one hands one. -/
theorem reset_keeps_sync_error :
    let d : Decoder := (run Params.plain Driver.construct
      [(1, []), (2, []), (3, List.replicate 7 0 ++ scanDescriptor ++ List.replicate 5 0)]).1.decoder
    let reset := stepByte Params.plain 5010 d 0
    let fresh := (resetRplidar 2 Decoder.construct).1
    let bs := (List.replicate 7 0 ++ scanDescriptor ++ List.replicate 5 0).map fun c => (5011, c)
    reset.2 = [.write rplidarCmdReset] ∧ reset.1.rpState = .rpResetted ∧
      reset.1.syncError = 1 ∧ reset.1.descriptorData = true ∧
      fresh.syncError = 0 ∧ fresh.descriptorData = false ∧
      trail Params.plain reset.1 bs = trail Params.plain fresh bs ∧
      (feed Params.plain reset.1 bs).2.filter Call.isParse = [.parseDescriptor scanDescriptor] ∧
      (feed Params.plain fresh bs).2.filter Call.isParse =
        [.parseDescriptor scanDescriptor, .parseData (List.replicate 5 0)] := by
  decide

/-! ## What a reset must clear -/

/-- Two decoders {lit}`get_readings` cannot tell apart: they agree on the state, the
counters and the flags, and, where the state reads them, on the descriptor or
payload bytes already stored, the payload layout and the time of the last
distance.  The sample members may differ. -/
structure SameControl (s t : Decoder) : Prop where
  rpState : s.rpState = t.rpState
  byteCount : s.byteCount = t.byteCount
  informationData : s.informationData = t.informationData
  descriptorData : s.descriptorData = t.descriptorData
  cnt : s.cnt = t.cnt
  syncError : s.syncError = t.syncError
  descriptor : s.rpState = .rpResponding → ∀ i < s.byteCount, s.descriptor i = t.descriptor i
  measurements : s.rpState = .rpMeasurements → s.payloadLength = t.payloadLength ∧
    s.responseType = t.responseType ∧ s.lastDistanceReceivedMs = t.lastDistanceReceivedMs ∧
    ∀ i < s.byteCount, s.payload i = t.payload i

/-- Step results {lit}`get_readings` cannot tell apart: related decoders, and the
same bytes handed to the parsers. -/
def Alike (r r' : Decoder × List Call) : Prop :=
  SameControl r.1 r'.1 ∧ r.2.filter Call.isParse = r'.2.filter Call.isParse

/-- Buffers that agree below {lit}`n` agree below {lit}`n + 1` once both store the same
byte at {lit}`n`. -/
theorem update_agree {f g : Nat → UInt8} {n : Nat} (h : ∀ i < n, f i = g i) (c : UInt8) :
    ∀ i < n + 1, Function.update f n c i = Function.update g n c i := by
  intro i hi
  rcases Nat.lt_succ_iff_lt_or_eq.1 hi with hi | rfl
  · rw [Function.update_noteq hi.ne, Function.update_noteq hi.ne, h i hi]
  · simp

/-- With nothing stored, the stored bytes do not count. -/
theorem SameControl.of_empty {s t : Decoder} (hrs : s.rpState = t.rpState)
    (hbc : s.byteCount = 0) (hbc' : t.byteCount = 0) (hinfo : s.informationData = t.informationData)
    (hdd : s.descriptorData = t.descriptorData) (hcnt : s.cnt = t.cnt)
    (hse : s.syncError = t.syncError)
    (hm : s.rpState = .rpMeasurements → s.payloadLength = t.payloadLength ∧
      s.responseType = t.responseType ∧ s.lastDistanceReceivedMs = t.lastDistanceReceivedMs) :
    SameControl s t :=
  ⟨hrs, hbc.trans hbc'.symm, hinfo, hdd, hcnt, hse, fun _ i hi => absurd hi (by omega),
    fun h => ⟨(hm h).1, (hm h).2.1, (hm h).2.2, fun i hi => absurd hi (by omega)⟩⟩

/-- A completed descriptor read by two related decoders leaves related decoders. -/
theorem parseResponseDescriptor_sameControl (now : Nat) {s t : Decoder} (hst : SameControl s t)
    (hs : s.rpState = .rpResponding) (hbc : s.byteCount = 7) :
    SameControl { parseResponseDescriptor now s with byteCount := 0 }
      { parseResponseDescriptor now t with byteCount := 0 } := by
  have hd := hst.descriptor hs
  obtain ⟨hrs, -, hinfo, hdd, hcnt, hse, -, -⟩ := hst
  simp only [parseResponseDescriptor, apply_ite Decoder.descriptor, ite_self, ← hd 0 (by omega),
    ← hd 1 (by omega), ← hd 2 (by omega), ← hd 3 (by omega), ← hd 4 (by omega), ← hd 5 (by omega),
    ← hd 6 (by omega)]
  split_ifs <;> refine SameControl.of_empty ?_ rfl rfl hinfo hdd hcnt hse ?_
  all_goals first
    | rfl | exact hrs | exact fun _ => ⟨rfl, rfl, rfl⟩
    | exact fun h => RpState.noConfusion (hs.symm.trans h) | exact fun h => RpState.noConfusion h

section Handlers

variable {P : Params} {now : Nat} {s t : Decoder} {c : UInt8}

/-- In {lit}`rp_resetted`, decoders that agree on control make alike steps. -/
theorem onResetted_alike (h : Inv s) (hs : s.rpState = .rpResetted) (hst : SameControl s t) :
    Alike (onResetted s c) (onResetted t c) := by
  obtain ⟨hrs, hbc, hinfo, hdd, hcnt, hse, -, -⟩ := hst
  have hcnt10 := h.cnt_le
  by_cases h1 : (c = 0x52 ∨ s.informationData = true) ∧ s.byteCount < 62
  · rw [onResetted_store h1, onResetted_store (by rwa [← hinfo, ← hbc])]
    constructor <;> [constructor; rfl] <;> simp_all
  cases hi : s.informationData
  · by_cases hc : 5 < s.cnt
    · rw [onResetted_giveUp h1 hi hc, onResetted_giveUp (by rwa [← hinfo, ← hbc]) (hinfo ▸ hi)
        (hcnt ▸ hc)]
      constructor <;> [constructor; rfl] <;> simp_all
    · rw [onResetted_stray h1 hi (by omega), onResetted_stray (by rwa [← hinfo, ← hbc])
        (hinfo ▸ hi) (by omega)]
      constructor <;> [constructor; rfl] <;> simp_all
  · rw [onResetted_scanMode h1 hi, onResetted_scanMode (by rwa [← hinfo, ← hbc]) (hinfo ▸ hi)]
    constructor <;> [constructor; rfl] <;> simp_all

/-- In {lit}`rp_responding`, decoders that agree on control make alike steps. -/
theorem onResponding_alike (hs : s.rpState = .rpResponding) (hbc : s.byteCount < 7)
    (hst : SameControl s t) : Alike (onResponding now s c) (onResponding now t c) := by
  have hd := hst.descriptor hs
  obtain ⟨hrs, hbc', hinfo, hdd, hcnt, hse, -, -⟩ := hst
  by_cases h1 : c = rplidarPreamble ∨ s.descriptorData = true
  · have h1' : c = rplidarPreamble ∨ t.descriptorData = true := by rwa [← hdd]
    by_cases h6 : s.byteCount = 6
    · have hd6 : ∀ i < 6 + 1, Function.update s.descriptor 6 c i = Function.update t.descriptor 6 c i :=
        update_agree (h6 ▸ hd) c
      rw [onResponding_complete h1 h6, onResponding_complete h1' (hbc' ▸ h6)]
      refine ⟨parseResponseDescriptor_sameControl now
        ⟨hrs, rfl, hinfo, rfl, hcnt, hse, fun _ => hd6, fun h => by simp_all⟩ hs rfl, ?_⟩
      exact congrArg (fun b => [Call.parseDescriptor b].filter Call.isParse)
        (List.map_congr_left fun i hi => hd6 i (List.mem_range.1 hi))
    · rw [onResponding_collect h1 (by omega), onResponding_collect h1' (by omega), ← hbc']
      exact ⟨⟨hrs, rfl, hinfo, rfl, hcnt, hse, fun _ => update_agree hd c, fun h => by simp_all⟩, rfl⟩
  · rw [onResponding_reject h1, onResponding_reject (by rwa [← hdd])]
    exact ⟨⟨rfl, hbc', hinfo, hdd, hcnt, hse, nofun, nofun⟩, rfl⟩

/-- {lit}`parse_response_data` hands nothing more to a parser. -/
theorem parseResponseData_isParse (P : Params) (now : Nat) (s : Decoder) :
    (parseResponseData P now s).2.filter Call.isParse = [] := by
  unfold parseResponseData
  split
  · split_ifs
    · simp only [SampleState.sample, SectorWrite.calls]
      split <;> rfl
    · rfl
  · rfl

/-- Two related decoders read a completed scan payload alike. -/
theorem parseResponseData_sameControl (P : Params) (now : Nat) (hst : SameControl s t)
    (hs : s.rpState = .rpMeasurements) (hbc : s.byteCount = 5) (hrt : s.responseType = .scan) :
    SameControl { (parseResponseData P now s).1 with byteCount := 0 }
      { (parseResponseData P now t).1 with byteCount := 0 } := by
  obtain ⟨hpl, hrt', hldr, hpay⟩ := hst.measurements hs
  have hscan : SensorScan.ofBytes s.payload = SensorScan.ofBytes t.payload :=
    SensorScan.ofBytes_congr fun i hi => hpay i (by omega)
  obtain ⟨hrs, -, hinfo, hdd, hcnt, hse, -, -⟩ := hst
  unfold parseResponseData
  rw [← hrt', hrt, ← hscan]
  split_ifs <;> constructor <;> simp_all

/-- Decoders that agree on control store a payload byte alike. -/
theorem storePayload_alike (hs : s.rpState = .rpMeasurements) (hpl : s.payloadLength = 5)
    (hbc : s.byteCount < 5) (hrt : s.responseType = .scan) (hst : SameControl s t) :
    Alike (storePayload P now s c) (storePayload P now t c) := by
  obtain ⟨hpl', hrt', hldr, hpay⟩ := hst.measurements hs
  obtain ⟨hrs, hbc', hinfo, hdd, hcnt, hse, -, -⟩ := hst
  by_cases h5 : s.byteCount + 1 = 5
  · have hp : ∀ i < s.byteCount + 1,
        Function.update s.payload s.byteCount c i = Function.update t.payload s.byteCount c i :=
      update_agree hpay c
    rw [storePayload_full hbc (by omega), storePayload_full (by omega) (by omega), ← hbc']
    refine ⟨parseResponseData_sameControl P now
      ⟨hrs, rfl, hinfo, hdd, hcnt, hse, fun h => by simp_all, fun _ => ⟨hpl', hrt', hldr, hp⟩⟩
      hs h5 hrt, ?_⟩
    have hpb : (List.range s.payloadLength).map (Function.update s.payload s.byteCount c) =
        (List.range t.payloadLength).map (Function.update t.payload s.byteCount c) := by
      rw [← hpl', hpl]
      exact List.map_congr_left fun i hi => hp i (by simp at hi; omega)
    simp only [List.filter_cons, Call.isParse, if_true, parseResponseData_isParse,
      Decoder.payloadBytes, hpb]
  · rw [storePayload_incomplete hbc (by omega), storePayload_incomplete (by omega) (by omega), ← hbc']
    exact ⟨⟨hrs, rfl, hinfo, hdd, hcnt, hse, fun h => by simp_all,
      fun _ => ⟨hpl', hrt', hldr, update_agree hpay c⟩⟩, rfl⟩

/-- In {lit}`rp_measurements`, decoders that agree on control make alike steps. -/
theorem onMeasurements_alike (h : Inv s) (hs : s.rpState = .rpMeasurements)
    (hst : SameControl s t) : Alike (onMeasurements P now s c) (onMeasurements P now t c) := by
  have hinv := h.state
  simp only [StateInv, hs] at hinv
  obtain ⟨hpl, hrt, hbc, -⟩ := hinv
  by_cases hse0 : s.syncError = 0
  · rw [onMeasurements_store hse0, onMeasurements_store (by rwa [← hst.syncError])]
    exact storePayload_alike hs hpl hbc hrt hst
  have hse0' : t.syncError ≠ 0 := by rwa [← hst.syncError]
  cases hc : isResyncByte c
  · by_cases ht : millisSince now s.lastDistanceReceivedMs > resyncTimeout
    · have ht' : millisSince now t.lastDistanceReceivedMs > resyncTimeout := by
        rwa [← (hst.measurements hs).2.2.1]
      rw [onMeasurements_timeout hse0 hc ht, onMeasurements_timeout hse0' hc ht']
      exact ⟨⟨rfl, hst.byteCount, hst.informationData, hst.descriptorData, hst.cnt, hst.syncError,
        nofun, nofun⟩, rfl⟩
    · have ht' : ¬millisSince now t.lastDistanceReceivedMs > resyncTimeout := by
        rwa [← (hst.measurements hs).2.2.1]
      rw [onMeasurements_wait hse0 hc ht, onMeasurements_wait hse0' hc ht']
      exact ⟨hst, rfl⟩
  · rw [onMeasurements_resync hse0 hc, onMeasurements_resync hse0' hc]
    exact storePayload_alike hs hpl hbc hrt ⟨hst.rpState, hst.byteCount, hst.informationData,
      hst.descriptorData, hst.cnt, rfl, hst.descriptor, hst.measurements⟩

/-- In {lit}`rp_unknown`, decoders that agree on control make alike steps. -/
theorem onUnknown_alike (h : Inv s) (hs : s.rpState = .rpUnknown) (hst : SameControl s t) :
    Alike (onUnknown now s c) (onUnknown now t c) := by
  have hbc0 : s.byteCount = 0 := by simpa [StateInv, hs] using h.state
  have hcnt := h.cnt_le
  by_cases hc : c = rplidarPreamble
  · rw [onUnknown_preamble hc, onUnknown_preamble hc]
    exact onResponding_alike rfl (by simp [hbc0]) ⟨rfl, hst.byteCount, hst.informationData,
      hst.descriptorData, hst.cnt, hst.syncError, fun _ i hi => absurd hi (by simp [hbc0]), nofun⟩
  by_cases h10 : s.cnt = 10
  · rw [onUnknown_reset hc h10, onUnknown_reset hc (by rwa [← hst.cnt])]
    exact ⟨⟨rfl, hst.byteCount, hst.informationData, hst.descriptorData, rfl, hst.syncError,
      nofun, nofun⟩, rfl⟩
  · rw [onUnknown_count hc (by omega), onUnknown_count hc (by rw [← hst.cnt]; omega)]
    exact ⟨⟨hst.rpState, hst.byteCount, hst.informationData, hst.descriptorData,
      by simp [hst.cnt], hst.syncError, fun h => by simp_all, fun h => by simp_all⟩, rfl⟩

end Handlers

/-- One byte read by two related decoders, the first satisfying the invariant,
leaves related decoders and hands the same bytes to the parsers. -/
theorem stepByte_alike (P : Params) (now : Nat) (c : UInt8) {s t : Decoder} (h : Inv s)
    (hst : SameControl s t) : Alike (stepByte P now s c) (stepByte P now t c) := by
  have hrs := hst.rpState
  cases hs : s.rpState
  case rpUnknown =>
    rw [stepByte_unknown hs, stepByte_unknown (hrs.symm.trans hs)]
    exact onUnknown_alike h hs hst
  case rpResetted =>
    rw [stepByte_resetted hs, stepByte_resetted (hrs.symm.trans hs)]
    exact onResetted_alike h hs hst
  case rpResponding =>
    have hbc : s.byteCount < 7 := by
      have := h.state
      simp only [StateInv, hs] at this
      exact this.1
    rw [stepByte_responding hs, stepByte_responding (hrs.symm.trans hs)]
    exact onResponding_alike hs hbc hst
  case rpMeasurements =>
    rw [stepByte_measurements hs, stepByte_measurements (hrs.symm.trans hs)]
    exact onMeasurements_alike h hs hst
  case rpHealth =>
    rw [stepByte_health hs, stepByte_health (hrs.symm.trans hs)]
    exact ⟨hst, rfl⟩

/-- Two related decoders, the first satisfying the invariant, pass through the same
states on every byte stream and hand the same bytes to the parsers. -/
theorem feed_alike (P : Params) {s t : Decoder} (h : Inv s) (hst : SameControl s t)
    (bs : List (Nat × UInt8)) :
    trail P s bs = trail P t bs ∧
      (feed P s bs).2.filter Call.isParse = (feed P t bs).2.filter Call.isParse := by
  induction bs generalizing s t with
  | nil => exact ⟨rfl, rfl⟩
  | cons b bs ih =>
    obtain ⟨now, c⟩ := b
    obtain ⟨hst', hcalls⟩ := stepByte_alike P now c h hst
    obtain ⟨ih1, ih2⟩ := ih (stepByte_safe P now c h).1 hst'
    constructor
    · simp only [trail, hst'.rpState, ih1]
    · simp only [feed_cons, List.filter_append, hcalls, ih2]

/-- A reset from a decoder whose {lit}`_byte_count`, {lit}`_information_data`,
{lit}`_descriptor_data`, {lit}`_cnt` and {lit}`_sync_error` are clear cannot be told
apart from the first reset of {lit}`initialise`, whatever the decoder's other
members hold: on every byte stream the two pass through the same states and hand
the same bytes to the parsers. -/
theorem reset_cleared_like_fresh (P : Params) {d : Decoder} (hbc : d.byteCount = 0)
    (hinfo : d.informationData = false) (hdd : d.descriptorData = false) (hcnt : d.cnt = 0)
    (hse : d.syncError = 0) (now now0 : Nat) (bs : List (Nat × UInt8)) :
    trail P (resetRplidar now d).1 bs = trail P (resetRplidar now0 Decoder.construct).1 bs ∧
      (feed P (resetRplidar now d).1 bs).2.filter Call.isParse =
        (feed P (resetRplidar now0 Decoder.construct).1 bs).2.filter Call.isParse := by
  refine feed_alike P ?_ ?_ bs
  · exact ⟨by simp [StateInv, resetRplidar, hbc], by simp [resetRplidar, hinfo],
      by simp [resetRplidar, hse], by simp [resetRplidar, hcnt]⟩
  · exact ⟨rfl, hbc, hinfo, hdd, hcnt, hse, nofun, nofun⟩

/-- A decoder holding stale descriptor and payload bytes, the health layout and an
old time of the last distance, reset at 5 ms, against the first reset at 2 ms. -/
theorem reset_cleared_like_fresh_stale :
    let d : Decoder := { Decoder.construct with descriptor := fun _ => 0xA5, payload := fun _ => 0x3E
                                                payloadLength := 3, responseType := .health
                                                lastDistanceReceivedMs := 77 }
    let bs : List (Nat × UInt8) := [(6, 0xA5), (6, 0x5A)]
    trail Params.plain (resetRplidar 5 d).1 bs =
      trail Params.plain (resetRplidar 2 Decoder.construct).1 bs := by
  intro d bs
  exact (reset_cleared_like_fresh Params.plain rfl rfl rfl rfl rfl 5 2 bs).1

end RPLidarA2
