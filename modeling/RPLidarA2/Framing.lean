import RPLidarA2.Invariant

/-!
# RPLIDAR A2 driver - Payload framing in rp_measurements

In {lit}`rp_measurements` the decoder stores bytes at {lit}`payload[_byte_count]`,
hands every fifth to {lit}`parse_response_data`, and after a chunk that fails the
start/check-bit test waits for a byte whose low two bits are {lit}`01`.  This
module states that behaviour as a list function, {lit}`frames`, over the bytes
already pending and the stream to come, and proves that the decoder refines it:
the chunks handed to the parser, the calls made, and the sample members left
behind are those of the reference.

Main results:

- Lemmas {lit}`frames_skip`, {lit}`frames_resync`, {lit}`frames_pend` and
  {lit}`frames_complete`: the reference one byte at a time.
- Theorem {lit}`stepByte_pending`: everything one byte can do to a decoder with
  pending payload bytes, when the resync timeout does not fire.
- Theorem {lit}`feed_pending`: the decoder and the reference agree on every
  stream.
- Theorem {lit}`feed_frames`: the same from every state satisfying the decoder
  invariant in {lit}`rp_measurements`.
- Theorem {lit}`feed_valid_no_reset`: without a sync error, a stream whose frames
  all pass the start/check-bit test never fires the resync timeout.
- Theorem {lit}`feed_sectors`: on the same streams, the decoder's sector block and
  estimators are those run over the samples of the valid frames.
-/

namespace RPLidarA2

/-! ## The framing reference -/

/-- {lit}`Frames(q, e, bs)`: with no sync error pending, cut {lit}`q ++ bs` into
consecutive five-byte chunks, and after a chunk that fails the start/check-bit
test continue as {lit}`Frames([], true, rest)`; with one pending, drop the bytes
before the first whose low two bits are {lit}`01` and continue as
{lit}`Frames([], false, ...)` from that byte on. -/
def frames : List UInt8 → Bool → List UInt8 → List (List UInt8)
  | _, true, bs => frames [] false (bs.dropWhile fun c => !isResyncByte c)
  | q, false, bs =>
    if _h : (q ++ bs).length < 5 then []
    else (q ++ bs).take 5 :: frames [] (!chunkValid ((q ++ bs).take 5)) ((q ++ bs).drop 5)
termination_by q e bs => 2 * (q.length + bs.length) + if e then 1 else 0
decreasing_by
  all_goals simp_wf
  · have : (bs.dropWhile fun c => !isResyncByte c).length ≤ bs.length :=
      (List.dropWhile_sublist _).length_le
    omega
  · simp only [List.length_append] at _h
    split <;> omega

/-- With a sync error pending, the bytes before the next resync byte are dropped. -/
theorem frames_true (q bs : List UInt8) :
    frames q true bs = frames [] false (bs.dropWhile fun c => !isResyncByte c) := by
  rw [frames]

/-- Without a sync error, the pending bytes are read ahead of the stream. -/
theorem frames_false (q bs : List UInt8) : frames q false bs = frames [] false (q ++ bs) := by
  rw [frames, frames, List.nil_append]

/-- Fewer than five bytes make no chunk. -/
theorem frames_short {q bs : List UInt8} (h : (q ++ bs).length < 5) : frames q false bs = [] := by
  rw [frames, dif_pos h]

/-- An empty stream completes no chunk. -/
theorem frames_nil {q : List UInt8} (e : Bool) (hq : q.length < 5) : frames q e [] = [] := by
  cases e
  · exact frames_short (by simpa using hq)
  · rw [frames_true, List.dropWhile_nil]
    exact frames_short (by simp)

section Bytes

variable {q bs : List UInt8} {c : UInt8}

/-- While a sync error is pending, a byte that cannot start a sample is dropped. -/
theorem frames_skip (hc : isResyncByte c = false) : frames q true (c :: bs) = frames [] true bs := by
  rw [frames_true, frames_true, List.dropWhile_cons_of_pos (by simp [hc])]

/-- While a sync error is pending, a byte that can start a sample starts a chunk. -/
theorem frames_resync (hc : isResyncByte c = true) : frames q true (c :: bs) = frames [c] false bs := by
  rw [frames_true, List.dropWhile_cons_of_neg (by simp [hc]), frames_false [c]]
  rfl

/-- Without a sync error, a byte joins the pending bytes. -/
theorem frames_pend : frames q false (c :: bs) = frames (q ++ [c]) false bs := by
  rw [frames_false, frames_false (q ++ [c]), List.append_assoc, List.singleton_append]

/-- The byte after four pending ones completes a chunk. -/
theorem frames_complete (hq : q.length = 4) :
    frames q false (c :: bs) = (q ++ [c]) :: frames [] (!chunkValid (q ++ [c])) bs := by
  have htake : (q ++ c :: bs).take 5 = q ++ [c] := by
    rw [← List.singleton_append, ← List.append_assoc, List.take_append_of_le_length (by simp [hq]),
      List.take_of_length_le (by simp [hq])]
  have hdrop : (q ++ c :: bs).drop 5 = bs := by
    rw [← List.singleton_append, ← List.append_assoc, List.drop_append_of_le_length (by simp [hq]),
      List.drop_of_length_le (by simp [hq]), List.nil_append]
  rw [frames, dif_neg (by simp; omega), htake, hdrop]

end Bytes

/-- Without a sync error, five bytes make a chunk. -/
theorem frames_five (a b c d e : UInt8) (bs : List UInt8) :
    frames [] false (a :: b :: c :: d :: e :: bs) =
      [a, b, c, d, e] :: frames [] (!chunkValid [a, b, c, d, e]) bs := by
  rw [frames_pend, frames_pend, frames_pend, frames_pend,
    frames_complete (show ([] ++ [a] ++ [b] ++ [c] ++ [d] : List UInt8).length = 4 from rfl)]
  rfl


/-- What the reference does with one frame: one that passes the start/check-bit
test is a sample. -/
def absorbFrame (P : Params) (r : SampleState) (f : List UInt8) : SampleState × List Call :=
  if chunkValid f then r.sample P (SensorScan.ofBytes (bytesAt f)) else (r, [])

/-- The reference's effect of a frame sequence: each frame is handed to
{lit}`parse_response_data`, in order, and absorbed. -/
def absorb (P : Params) : SampleState → List (List UInt8) → SampleState × List Call
  | r, [] => (r, [])
  | r, f :: fs =>
    let step := absorbFrame P r f
    let rest := absorb P step.1 fs
    (rest.1, .parseData f :: step.2 ++ rest.2)

/-- The payload a call hands to {lit}`parse_response_data`. -/
def Call.parsedData : Call → Option (List UInt8)
  | .parseData p => some p
  | _ => none

/-- Absorbing a frame hands nothing more to the parser. -/
theorem absorbFrame_parsedData (P : Params) (r : SampleState) (f : List UInt8) :
    (absorbFrame P r f).2.filterMap Call.parsedData = [] := by
  unfold absorbFrame
  split
  · simp only [SampleState.sample, SectorWrite.calls]
    split <;> rfl
  · rfl

/-- The reference hands exactly its frames to the parser. -/
theorem absorb_parsedData (P : Params) (r : SampleState) (fs : List (List UInt8)) :
    (absorb P r fs).2.filterMap Call.parsedData = fs := by
  induction fs generalizing r with
  | nil => rfl
  | cons f fs ih =>
    simp only [absorb, List.filterMap_cons, Call.parsedData, List.filterMap_append,
      absorbFrame_parsedData, ih, List.nil_append, List.singleton_append]

/-! ## The payload buffer -/

/-- Writing a buffer at its length appends the byte to its contents. -/
theorem range_map_update (f : Nat → UInt8) (n : Nat) (c : UInt8) :
    (List.range (n + 1)).map (Function.update f n c) = (List.range n).map f ++ [c] := by
  rw [List.range_succ, List.map_append, List.map_singleton, Function.update_same]
  congr 1
  exact List.map_congr_left fun i hi => Function.update_noteq (List.mem_range.1 hi).ne _ _

/-- The contents of a buffer, read back by index. -/
theorem bytesAt_range_map (f : Nat → UInt8) {n i : Nat} (hi : i < n) :
    bytesAt ((List.range n).map f) i = f i := by
  simp [bytesAt, List.getD_eq_getElem?_getD, hi]

/-- A sample reads only the first five bytes of the payload. -/
theorem SensorScan.ofBytes_congr {b b' : Nat → UInt8} (h : ∀ i < 5, b i = b' i) :
    SensorScan.ofBytes b = SensorScan.ofBytes b' := by
  simp only [SensorScan.ofBytes, h 0 (by norm_num), h 1 (by norm_num), h 2 (by norm_num),
    h 3 (by norm_num), h 4 (by norm_num)]

/-! ## A decoder with pending payload bytes -/

/-- A decoder in {lit}`rp_measurements` whose first {lit}`_byte_count` payload bytes
are {lit}`q`, with sync-error flag {lit}`e`. -/
structure Pending (s : Decoder) (q : List UInt8) (e : Bool) : Prop where
  state : s.rpState = .rpMeasurements
  payloadLength : s.payloadLength = 5
  responseType : s.responseType = .scan
  byteCount : s.byteCount = q.length
  short : q.length < 5
  payload : (List.range q.length).map s.payload = q
  error : (s.syncError != 0) = e
  resync : e = true → q = []

/-- Every state satisfying the decoder invariant in {lit}`rp_measurements` has its
first {lit}`_byte_count` payload bytes pending. -/
theorem Pending.of_inv {s : Decoder} (h : Inv s) (hs : s.rpState = .rpMeasurements) :
    Pending s ((List.range s.byteCount).map s.payload) (s.syncError != 0) := by
  have hst := h.state
  simp only [StateInv, hs] at hst
  obtain ⟨hpl, hrt, hbc, hbc0⟩ := hst
  refine ⟨hs, hpl, hrt, by simp, by simpa using hbc, by simp, rfl, fun he => ?_⟩
  rw [hbc0 (by simpa using he), List.range_zero, List.map_nil]

section Step

variable {P : Params} {now : Nat} {s : Decoder} {q : List UInt8} {c : UInt8}

/-- A payload byte that does not complete a chunk joins the pending bytes. -/
theorem Pending.store (hp : Pending s q false) (hq : q.length + 1 < 5) :
    Pending { s with payload := Function.update s.payload s.byteCount c
                     byteCount := s.byteCount + 1 } (q ++ [c]) false := by
  refine ⟨hp.state, hp.payloadLength, hp.responseType, by simp [hp.byteCount], by simpa using hq,
    ?_, hp.error, nofun⟩
  simp only [List.length_append, List.length_singleton, hp.byteCount, range_map_update, hp.payload]

/-- A byte that completes the pending chunk hands it to {lit}`parse_response_data`
and leaves no byte pending. -/
theorem storePayload_complete (hp : Pending s q false) (hq : q.length = 4) :
    Pending (storePayload P now s c).1 [] (!chunkValid (q ++ [c])) ∧
      (storePayload P now s c).2 = .parseData (q ++ [c]) :: (absorbFrame P s.samples (q ++ [c])).2 ∧
      (storePayload P now s c).1.samples = (absorbFrame P s.samples (q ++ [c])).1 := by
  have hbytes : (List.range 5).map (Function.update s.payload s.byteCount c) = q ++ [c] := by
    rw [hp.byteCount, hq, range_map_update, ← hq, hp.payload]
  have hscan : SensorScan.ofBytes (Function.update s.payload s.byteCount c) =
      SensorScan.ofBytes (bytesAt (q ++ [c])) :=
    SensorScan.ofBytes_congr fun i hi => by rw [← hbytes, bytesAt_range_map _ hi]
  have hse : s.syncError = 0 := by simpa using hp.error
  rw [storePayload_full (by rw [hp.byteCount]; omega) (by rw [hp.byteCount, hp.payloadLength, hq])]
  simp only [parseResponseData, hp.responseType, Decoder.payloadBytes, hp.payloadLength, hbytes,
    hscan, absorbFrame, chunkValid]
  split_ifs with hv <;>
    exact ⟨⟨hp.state, rfl, rfl, rfl, by simp, rfl, by simp [hse, hv], fun _ => rfl⟩, rfl, rfl⟩

/-- Everything one byte can do to a decoder with pending payload bytes when the
resync timeout does not fire: the frames to come are unchanged and nothing is
called, or the pending chunk is completed, handed to the parser and absorbed. -/
theorem stepByte_pending {e : Bool} (hp : Pending s q e)
    (hno : Call.write rplidarCmdReset ∉ (stepByte P now s c).2) :
    ∃ q' e', Pending (stepByte P now s c).1 q' e' ∧
      (((∀ bs, frames q e (c :: bs) = frames q' e' bs) ∧ (stepByte P now s c).2 = [] ∧
          (stepByte P now s c).1.samples = s.samples) ∨
        ((∀ bs, frames q e (c :: bs) = (q ++ [c]) :: frames q' e' bs) ∧
          (stepByte P now s c).2 = .parseData (q ++ [c]) :: (absorbFrame P s.samples (q ++ [c])).2 ∧
          (stepByte P now s c).1.samples = (absorbFrame P s.samples (q ++ [c])).1)) := by
  rw [stepByte_measurements hp.state] at hno ⊢
  cases e with
  | false =>
    have hse : s.syncError = 0 := by simpa using hp.error
    rw [onMeasurements_store hse]
    by_cases hq : q.length = 4
    · obtain ⟨hp', hcalls⟩ : Pending (storePayload P now s c).1 [] _ ∧ _ :=
        storePayload_complete hp hq
      exact ⟨[], _, hp', .inr ⟨fun _ => frames_complete hq, hcalls⟩⟩
    · have hbc : s.byteCount < 5 := hp.byteCount ▸ hp.short
      rw [storePayload_incomplete hbc (by rw [hp.byteCount, hp.payloadLength]; omega)]
      exact ⟨_, _, hp.store (by have := hp.short; omega), .inl ⟨fun _ => frames_pend, rfl, rfl⟩⟩
  | true =>
    have hq := hp.resync rfl
    subst hq
    have hse : s.syncError ≠ 0 := by simpa using hp.error
    cases hc : isResyncByte c
    · by_cases ht : millisSince now s.lastDistanceReceivedMs > resyncTimeout
      · rw [onMeasurements_timeout hse hc ht] at hno
        simp [resetRplidar] at hno
      · rw [onMeasurements_wait hse hc ht]
        exact ⟨[], true, hp, .inl ⟨fun _ => frames_skip hc, rfl, rfl⟩⟩
    · have hp0 : Pending { s with syncError := 0 } [] false :=
        { hp with error := by simp, resync := fun _ => rfl }
      rw [onMeasurements_resync hse hc, storePayload_incomplete (by simp [hp.byteCount])
        (by simp [hp.byteCount, hp.payloadLength])]
      exact ⟨_, _, hp0.store (by simp), .inl ⟨fun _ => frames_resync hc, rfl, rfl⟩⟩

end Step

/-! ## Whole streams -/

/-- From a decoder with pending payload bytes, every stream on which the resync
timeout does not fire makes the reference's calls, leaves the reference's sample
members, and stays in {lit}`rp_measurements`. -/
theorem feed_pending (P : Params) {s : Decoder} {q : List UInt8} {e : Bool}
    (hp : Pending s q e) (bs : List (Nat × UInt8))
    (hno : Call.write rplidarCmdReset ∉ (feed P s bs).2) :
    (feed P s bs).2 = (absorb P s.samples (frames q e (bs.map Prod.snd))).2 ∧
      (feed P s bs).1.samples = (absorb P s.samples (frames q e (bs.map Prod.snd))).1 ∧
      ∀ st ∈ trail P s bs, st = .rpMeasurements := by
  induction bs generalizing s q e with
  | nil => simp [frames_nil e hp.short, absorb, trail]
  | cons b bs ih =>
    obtain ⟨now, c⟩ := b
    rw [feed_cons, List.mem_append, not_or] at hno
    obtain ⟨q', e', hp', hcase⟩ := stepByte_pending hp hno.1
    obtain ⟨ih1, ih2, ih3⟩ := ih hp' hno.2
    have htrail : ∀ st ∈ trail P s ((now, c) :: bs), st = .rpMeasurements := by
      simp only [trail, List.mem_cons]
      rintro st (rfl | hst)
      exacts [hp'.state, ih3 st hst]
    simp only [feed_cons, List.map_cons]
    rcases hcase with ⟨hf, hc, hsm⟩ | ⟨hf, hc, hsm⟩
    · rw [hf, hc, ih1, ih2, hsm]
      exact ⟨rfl, rfl, htrail⟩
    · rw [hf, hc, ih1, ih2, hsm]
      exact ⟨rfl, rfl, htrail⟩

/-- From every state satisfying the decoder invariant in {lit}`rp_measurements`,
with the first {lit}`_byte_count` payload bytes pending and flag
{lit}`_sync_error != 0`, every stream on which the resync timeout does not fire
hands exactly the reference's frames to {lit}`parse_response_data`, makes the
reference's calls, leaves the reference's sample members, and keeps the decoder
in {lit}`rp_measurements` after every byte. -/
theorem feed_frames (P : Params) {s : Decoder} (h : Inv s) (hs : s.rpState = .rpMeasurements)
    (bs : List (Nat × UInt8)) (hno : Call.write rplidarCmdReset ∉ (feed P s bs).2) :
    let q := (List.range s.byteCount).map s.payload
    let reference := absorb P s.samples (frames q (s.syncError != 0) (bs.map Prod.snd))
    (feed P s bs).2.filterMap Call.parsedData = frames q (s.syncError != 0) (bs.map Prod.snd) ∧
      (feed P s bs).2 = reference.2 ∧ (feed P s bs).1.samples = reference.1 ∧
      ∀ st ∈ trail P s bs, st = .rpMeasurements := by
  obtain ⟨h1, h2, h3⟩ := feed_pending P (Pending.of_inv h hs) bs hno
  exact ⟨by rw [h1, absorb_parsedData], h1, h2, h3⟩

/-- Without a sync error, a stream whose frames all pass the start/check-bit test
never raises one, so the resync timeout never fires. -/
theorem feed_valid_no_reset (P : Params) {s : Decoder} {q : List UInt8} (hp : Pending s q false)
    (bs : List (Nat × UInt8)) (hv : ∀ f ∈ frames q false (bs.map Prod.snd), chunkValid f = true) :
    Call.write rplidarCmdReset ∉ (feed P s bs).2 := by
  induction bs generalizing s q with
  | nil => simp
  | cons b bs ih =>
    obtain ⟨now, c⟩ := b
    have hse : s.syncError = 0 := by simpa using hp.error
    rw [List.map_cons] at hv
    rw [feed_cons, stepByte_measurements hp.state, onMeasurements_store hse, List.mem_append, not_or]
    refine ⟨storePayload_no_write P now s c _, ?_⟩
    by_cases hq : q.length = 4
    · rw [frames_complete hq] at hv
      have hvalid := hv _ (List.mem_cons_self _ _)
      have hp' : Pending (storePayload P now s c).1 [] (!chunkValid (q ++ [c])) :=
        (storePayload_complete hp hq).1
      rw [hvalid] at hp' hv
      exact ih hp' fun f hf => hv f (List.mem_cons_of_mem _ hf)
    · rw [frames_pend] at hv
      rw [storePayload_incomplete (hp.byteCount ▸ hp.short)
        (by rw [hp.byteCount, hp.payloadLength]; have := hp.short; omega)]
      exact ih (hp.store (by have := hp.short; omega)) hv

/-- The decoder that has just accepted a scan descriptor, with nothing else set,
satisfies the invariant. -/
theorem inv_scanStart :
    Inv { Decoder.construct with rpState := .rpMeasurements, payloadLength := 5,
                                 responseType := .scan } :=
  ⟨by simp [StateInv, Decoder.construct], by simp [Decoder.construct],
    by simp [Decoder.construct], by simp [Decoder.construct]⟩

/-- A decoder that has just accepted a scan descriptor hands its first five
payload bytes to {lit}`parse_response_data` as one frame, and stays in
{lit}`rp_measurements`. -/
theorem feed_frames_scan_start :
    let s : Decoder := { Decoder.construct with rpState := .rpMeasurements, payloadLength := 5,
                                                responseType := .scan }
    let bs : List (Nat × UInt8) := [(0, 0x3E), (0, 0x01), (0, 0x80), (0, 0x10), (0, 0x27)]
    Inv s ∧ Call.write rplidarCmdReset ∉ (feed Params.plain s bs).2 ∧
      (feed Params.plain s bs).2.filterMap Call.parsedData = [[0x3E, 0x01, 0x80, 0x10, 0x27]] ∧
      ∀ st ∈ trail Params.plain s bs, st = .rpMeasurements := by
  intro s bs
  have hs : Inv s := inv_scanStart
  have hfr : frames [] false (bs.map Prod.snd) = [[0x3E, 0x01, 0x80, 0x10, 0x27]] := by
    rw [show bs.map Prod.snd = [0x3E, 0x01, 0x80, 0x10, 0x27] from rfl, frames_five,
      frames_nil _ (by decide)]
  have hp : Pending s [] false := Pending.of_inv hs rfl
  have hno := feed_valid_no_reset Params.plain hp bs (by rw [hfr]; decide)
  obtain ⟨h1, -, -, h4⟩ := feed_frames Params.plain hs rfl bs hno
  exact ⟨hs, hno, h1.trans hfr, h4⟩

/-! ## What the frames feed -/

/-- The samples, as (angle, distance), of the frames that pass the start/check-bit
test. -/
def frameSamples (fs : List (List UInt8)) : List (ℚ × ℚ) :=
  (fs.filter chunkValid).map fun f =>
    ((SensorScan.ofBytes (bytesAt f)).angleDeg, (SensorScan.ofBytes (bytesAt f)).distanceM)

/-- The sector a call hands to {lit}`update_boundary_for_sector`. -/
def Call.boundary : Call → Option Nat
  | .updateBoundary sector => some sector
  | _ => none

/-- A frame that passes the start/check-bit test gives its sample. -/
theorem frameSamples_valid {f : List UInt8} (fs : List (List UInt8)) (hv : chunkValid f = true) :
    frameSamples (f :: fs) =
      ((SensorScan.ofBytes (bytesAt f)).angleDeg, (SensorScan.ofBytes (bytesAt f)).distanceM) ::
        frameSamples fs := by
  simp [frameSamples, List.filter_cons_of_pos hv]

/-- A frame that fails the start/check-bit test gives no sample. -/
theorem frameSamples_invalid {f : List UInt8} (fs : List (List UInt8)) (hv : chunkValid f = false) :
    frameSamples (f :: fs) = frameSamples fs := by
  simp [frameSamples, List.filter_cons_of_neg (by simp [hv] : ¬chunkValid f = true)]

/-- An optional write is the writes of its list. -/
theorem SectorArrays.applyOpt_eq_foldl (arrays : SectorArrays) (w : Option SectorWrite) :
    arrays.applyOpt w = w.toList.foldl SectorArrays.apply arrays := by
  cases w <;> rfl

/-- The boundary update of a write is the sector it commits. -/
theorem SectorWrite.calls_boundary (w : Option SectorWrite) :
    (SectorWrite.calls w).filterMap Call.boundary =
      (w.toList.filterMap SectorWrite.committed).map Reading.sector := by
  rcases w with _ | _ | _ <;> rfl

/-- The reference's sample members are the sector block and the two estimators
run over the samples of the valid frames, and its boundary updates are the
sectors the block commits, in order. -/
theorem absorb_sectors (P : Params) (r : SampleState) (fs : List (List UInt8)) :
    let agg := aggregateAll P.convertAngleToSector r.last (frameSamples fs)
    (absorb P r fs).1 =
      ⟨agg.1, agg.2.foldl SectorArrays.apply r.arrays,
        (frameSamples fs).foldl (fun w x => frontObstacle P.trig w x.1 x.2) r.front,
        (frameSamples fs).foldl (fun w x => backObstacle P.trig w x.1 x.2) r.back⟩ ∧
      (absorb P r fs).2.filterMap Call.boundary =
        (agg.2.filterMap SectorWrite.committed).map Reading.sector := by
  induction fs generalizing r with
  | nil => exact ⟨rfl, rfl⟩
  | cons f fs ih =>
    cases hv : chunkValid f
    · simpa only [absorb, absorbFrame, hv, frameSamples_invalid fs hv, Bool.false_eq_true,
        if_false] using ih r
    · obtain ⟨h1, h2⟩ := ih (r.sample P (SensorScan.ofBytes (bytesAt f))).1
      simp only [absorb, absorbFrame, hv, if_true, frameSamples_valid fs hv]
      refine ⟨?_, ?_⟩
      · rw [h1]
        simp [aggregateAll, SampleState.sample, SectorArrays.applyOpt_eq_foldl, List.foldl_append]
      · simp only [List.cons_append, List.filterMap_cons, Call.boundary, List.filterMap_append, h2]
        simp only [SampleState.sample, SectorWrite.calls_boundary, aggregateAll, List.filterMap_append,
          List.map_append]

/-- From every state satisfying the decoder invariant in {lit}`rp_measurements`,
on every stream on which the resync timeout does not fire, the decoder's open
sector, sector arrays and obstacle estimators are the sector block and the
estimators run over the samples of the valid frames of the framing reference,
and its boundary updates are the sectors the block commits, in order. -/
theorem feed_sectors (P : Params) {s : Decoder} (h : Inv s) (hs : s.rpState = .rpMeasurements)
    (bs : List (Nat × UInt8)) (hno : Call.write rplidarCmdReset ∉ (feed P s bs).2) :
    let xs := frameSamples
      (frames ((List.range s.byteCount).map s.payload) (s.syncError != 0) (bs.map Prod.snd))
    let agg := aggregateAll P.convertAngleToSector s.samples.last xs
    (feed P s bs).1.samples.last = agg.1 ∧
      (feed P s bs).1.samples.arrays = agg.2.foldl SectorArrays.apply s.samples.arrays ∧
      (feed P s bs).1.samples.front = xs.foldl (fun w x => frontObstacle P.trig w x.1 x.2) s.samples.front ∧
      (feed P s bs).1.samples.back = xs.foldl (fun w x => backObstacle P.trig w x.1 x.2) s.samples.back ∧
      (feed P s bs).2.filterMap Call.boundary = (agg.2.filterMap SectorWrite.committed).map Reading.sector := by
  obtain ⟨h1, h2, -⟩ := feed_pending P (Pending.of_inv h hs) bs hno
  obtain ⟨a1, a2⟩ := absorb_sectors P s.samples
    (frames ((List.range s.byteCount).map s.payload) (s.syncError != 0) (bs.map Prod.snd))
  rw [h2, a1]
  exact ⟨rfl, rfl, rfl, rfl, by rw [h1, a2]⟩

/-- With sectors split at 180°, frames at (300°, 1 m) and (100°, 2 m) fed to a
decoder that has just accepted a scan descriptor commit the zero-initialised open
sector 0, then sector 1 at 1 m, and leave sector 0 open at 2 m. -/
theorem feed_sectors_scan_start :
    let P : Params := ⟨fun a => if a < 180 then some 0 else some 1, Trig.linear⟩
    let s : Decoder := { Decoder.construct with rpState := .rpMeasurements, payloadLength := 5,
                                                responseType := .scan }
    let bs : List (Nat × UInt8) := [(0, 0x3E), (0, 0x01), (0, 0x96), (0, 0xA0), (0, 0x0F),
      (0, 0x3E), (0, 0x01), (0, 0x32), (0, 0x40), (0, 0x1F)]
    Inv s ∧ Call.write rplidarCmdReset ∉ (feed P s bs).2 ∧
      (feed P s bs).1.samples.last = ⟨0, 100, 2⟩ ∧
      (feed P s bs).2.filterMap Call.boundary = [0, 1] := by
  intro P s bs
  have hs : Inv s := inv_scanStart
  have hfr : frames [] false (bs.map Prod.snd) =
      [[0x3E, 0x01, 0x96, 0xA0, 0x0F], [0x3E, 0x01, 0x32, 0x40, 0x1F]] := by
    rw [show bs.map Prod.snd = [0x3E, 0x01, 0x96, 0xA0, 0x0F, 0x3E, 0x01, 0x32, 0x40, 0x1F] from rfl,
      frames_five, show chunkValid [0x3E, 0x01, 0x96, 0xA0, 0x0F] = true by decide, Bool.not_true, frames_five,
      frames_nil _ (by decide)]
  have hp : Pending s [] false := Pending.of_inv hs rfl
  have hno := feed_valid_no_reset P hp bs (by rw [hfr]; decide)
  have hxs : frameSamples (frames [] false (bs.map Prod.snd)) = [(300, 1), (100, 2)] := by
    have h1 : SensorScan.ofBytes (bytesAt [0x3E, 0x01, 0x96, 0xA0, 0x0F]) =
        ⟨false, true, true, 19200, 4000⟩ := by decide
    have h2 : SensorScan.ofBytes (bytesAt [0x3E, 0x01, 0x32, 0x40, 0x1F]) =
        ⟨false, true, true, 6400, 8000⟩ := by decide
    rw [hfr, frameSamples_valid _ (show chunkValid [0x3E, 0x01, 0x96, 0xA0, 0x0F] = true by decide),
      frameSamples_valid _ (show chunkValid [0x3E, 0x01, 0x32, 0x40, 0x1F] = true by decide), h1, h2]
    norm_num [frameSamples, SensorScan.angleDeg, SensorScan.distanceM]
  have hagg : aggregateAll P.convertAngleToSector Reading.initial [(300, 1), (100, 2)] =
      (⟨0, 100, 2⟩, [.commit ⟨0, 0, 0⟩, .commit ⟨1, 300, 1⟩]) := by
    norm_num [aggregateAll, aggregate, Reading.initial, distanceMin, P]
  obtain ⟨h1, -, -, -, h5⟩ := feed_sectors P hs rfl bs hno
  refine ⟨hs, hno, h1.trans ?_, h5.trans ?_⟩
  · show (aggregateAll P.convertAngleToSector Reading.initial
      (frameSamples (frames [] false (bs.map Prod.snd)))).1 = _
    rw [hxs, hagg]
  · show ((aggregateAll P.convertAngleToSector Reading.initial
      (frameSamples (frames [] false (bs.map Prod.snd)))).2.filterMap SectorWrite.committed).map
        Reading.sector = _
    rw [hxs, hagg]
    rfl

end RPLidarA2
