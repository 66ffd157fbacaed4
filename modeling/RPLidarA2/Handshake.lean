import RPLidarA2.Invariant

/-!
# RPLIDAR A2 driver - The reset handshake and descriptor assembly

After {lit}`reset_rplidar` the decoder waits in {lit}`rp_resetted` for the device
information block, stores up to 62 bytes of it, and requests scan mode on the
byte after; without information it gives up to {lit}`rp_unknown` after more than
five stray bytes.  In {lit}`rp_responding` it assembles seven descriptor bytes
and classifies them with {lit}`parse_response_descriptor`.  Both handshakes are
characterised here for every state satisfying the decoder invariant.

Main results:

- Theorem {lit}`resetted_handshake`: every way a byte can leave
  {lit}`rp_resetted` ({lit}`onResetted_exits`), and the byte on which a
  device-information block is answered with {lit}`set_scan_mode`
  ({lit}`feed_informationBlock`).
- Theorem {lit}`handshake_not_always_scans`: a one-byte information block is not
  answered, and seven stray bytes leave {lit}`rp_resetted` without a command.
- Theorem {lit}`feed_scanRequest`: in any byte stream, every request for scan
  mode follows a whole 62-byte information block starting with {lit}`0x52`, read
  in {lit}`rp_resetted` with no call in between.
- Theorem {lit}`descriptor_assembly_stale`: after a descriptor with a valid header
  and an unknown template, the decoder stays in {lit}`rp_responding` and takes
  the next byte, whatever it is, as a descriptor's first byte.
- Theorem {lit}`feed_descriptorParsed`: in any byte stream, every descriptor
  handed to {lit}`parse_response_descriptor` is exactly the last seven bytes read.
-/

namespace RPLidarA2

/-! ## Leaving rp_resetted -/

/-- Device-information bytes only count up while fewer than 62 are stored. -/
theorem feed_information_eq (P : Params) (s : Decoder) (hs : s.rpState = .rpResetted)
    (hinfo : s.informationData = true) (block : List (Nat × UInt8))
    (hlen : s.byteCount + block.length ≤ 62) :
    feed P s block = ({ s with byteCount := s.byteCount + block.length }, []) := by
  induction block generalizing s with
  | nil => rfl
  | cons b block ih =>
    obtain ⟨now, c⟩ := b
    simp only [List.length_cons] at hlen
    rw [feed_cons, stepByte_resetted hs, onResetted_store ⟨.inr hinfo, by omega⟩,
      ih { s with informationData := true, byteCount := s.byteCount + 1 } hs rfl (by simp; omega)]
    cases s
    simp only at hinfo
    subst hinfo
    simp only [List.length_cons, List.nil_append, Prod.mk.injEq, and_true]
    congr 1
    omega

/-- Device-information bytes are stored with no call while fewer than 62 are
stored. -/
theorem feed_information (P : Params) (s : Decoder) (hs : s.rpState = .rpResetted)
    (hinfo : s.informationData = true) (block : List (Nat × UInt8))
    (hlen : s.byteCount + block.length ≤ 62) :
    (feed P s block).1.rpState = .rpResetted ∧ (feed P s block).1.informationData = true ∧
      (feed P s block).1.byteCount = s.byteCount + block.length ∧ (feed P s block).2 = [] := by
  rw [feed_information_eq P s hs hinfo block hlen]
  exact ⟨hs, hinfo, rfl, rfl⟩

/-- From a state in {lit}`rp_resetted` satisfying the invariant, a byte either
keeps the decoder there with no call, or calls {lit}`set_scan_mode` once 62 bytes
of device information are stored, or, with no information, moves to
{lit}`rp_unknown` without a command on a byte other than {lit}`0x52` after more
than five stray ones. -/
theorem onResetted_exits {s : Decoder} (h : Inv s) (hs : s.rpState = .rpResetted) (c : UInt8) :
    ((onResetted s c).1.rpState = .rpResetted ∧ (onResetted s c).2 = []) ∨
      ((onResetted s c).1.rpState = .rpResponding ∧ (onResetted s c).2 = [.write rplidarCmdScan] ∧
        s.informationData = true ∧ s.byteCount = 62) ∨
      ((onResetted s c).1.rpState = .rpUnknown ∧ (onResetted s c).2 = [] ∧
        s.informationData = false ∧ c ≠ 0x52 ∧ 5 < s.cnt) := by
  have hst := h.state
  simp only [StateInv, hs] at hst
  by_cases h1 : (c = 0x52 ∨ s.informationData = true) ∧ s.byteCount < 62
  · rw [onResetted_store h1]
    exact .inl ⟨hs, rfl⟩
  cases hi : s.informationData
  · have hc : c ≠ 0x52 := fun hc => h1 ⟨.inl hc, by rw [hst.2 hi]; norm_num⟩
    by_cases hcnt : 5 < s.cnt
    · rw [onResetted_giveUp h1 hi hcnt]
      exact .inr (.inr ⟨rfl, rfl, rfl, hc, hcnt⟩)
    · rw [onResetted_stray h1 hi (by omega)]
      exact .inl ⟨hs, rfl⟩
  · rw [onResetted_scanMode h1 hi]
    exact .inr (.inl ⟨rfl, rfl, rfl, by simp only [hi, or_true, true_and] at h1; omega⟩)

/-- From a state a reset has just entered, a device-information block of at most
62 bytes starting with {lit}`0x52` is stored with no call, and the byte after the
62nd is answered with {lit}`set_scan_mode`. -/
theorem feed_informationBlock (P : Params) {s : Decoder} (h : Inv s)
    (hs : s.rpState = .rpResetted) (hinfo : s.informationData = false)
    (block : List (Nat × UInt8)) (now : Nat) (c : UInt8)
    (hhead : (block.map Prod.snd).head? = some 0x52) (hlen : block.length ≤ 62) :
    (feed P s block).1.rpState = .rpResetted ∧ (feed P s block).2 = [] ∧
      (block.length = 62 →
        (stepByte P now (feed P s block).1 c).1.rpState = .rpResponding ∧
        (stepByte P now (feed P s block).1 c).2 = [.write rplidarCmdScan]) := by
  cases block with
  | nil => simp at hhead
  | cons b rest =>
    obtain ⟨now0, c0⟩ := b
    have hc0 : c0 = 0x52 := by simpa using hhead
    have hbc : s.byteCount = 0 := by
      have hst := h.state
      simp only [StateInv, hs] at hst
      exact hst.2 hinfo
    rw [feed_cons, stepByte_resetted hs, onResetted_store ⟨.inl hc0, by omega⟩]
    simp only [List.length_cons] at hlen
    obtain ⟨h1, h2, h3, h4⟩ := feed_information P
      { s with informationData := true, byteCount := s.byteCount + 1 } hs rfl rest (by simp; omega)
    generalize feed P { s with informationData := true, byteCount := s.byteCount + 1 } rest = t
      at h1 h2 h3 h4 ⊢
    refine ⟨h1, by rw [h4]; rfl, fun h62 => ?_⟩
    have hfull : ¬((c = 0x52 ∨ t.1.informationData = true) ∧ t.1.byteCount < 62) := by
      simp only [h3, List.length_cons] at h62 ⊢
      omega
    rw [stepByte_resetted h1, onResetted_scanMode hfull h2]
    exact ⟨rfl, rfl⟩

/-- From a state in {lit}`rp_resetted` satisfying the invariant, a byte either
keeps the decoder there with no call, or calls {lit}`set_scan_mode` (writing
{lit}`A5 20` and entering {lit}`rp_responding`) once 62 bytes of device
information are stored, or, with no information, moves to {lit}`rp_unknown`
without a command on a byte other than {lit}`0x52` after more than five stray
ones.  From a state a reset has just entered, a device-information block of at
most 62 bytes starting with {lit}`0x52` is stored with no call, and the byte after
the 62nd is answered with {lit}`set_scan_mode`. -/
theorem resetted_handshake (P : Params) {s : Decoder} (h : Inv s)
    (hs : s.rpState = .rpResetted) :
    (∀ now c,
      ((stepByte P now s c).1.rpState = .rpResetted ∧ (stepByte P now s c).2 = []) ∨
      ((stepByte P now s c).1.rpState = .rpResponding ∧
        (stepByte P now s c).2 = [.write rplidarCmdScan] ∧
        s.informationData = true ∧ s.byteCount = 62) ∨
      ((stepByte P now s c).1.rpState = .rpUnknown ∧ (stepByte P now s c).2 = [] ∧
        s.informationData = false ∧ c ≠ 0x52 ∧ 5 < s.cnt)) ∧
    (s.informationData = false → ∀ (block : List (Nat × UInt8)) now c,
      (block.map Prod.snd).head? = some 0x52 → block.length ≤ 62 →
      (feed P s block).1.rpState = .rpResetted ∧ (feed P s block).2 = [] ∧
      (block.length = 62 →
        (stepByte P now (feed P s block).1 c).1.rpState = .rpResponding ∧
        (stepByte P now (feed P s block).1 c).2 = [.write rplidarCmdScan])) :=
  ⟨fun now c => by rw [stepByte_resetted hs]; exact onResetted_exits h hs c,
    fun hinfo block now c => feed_informationBlock P h hs hinfo block now c⟩

/-- A state a reset has just entered, as the first reset of {lit}`initialise`
leaves it: every byte has one of the three effects, and the block {lit}`52`
followed by 61 zeros is stored with no call and answered on the byte after it. -/
theorem resetted_handshake_fresh :
    Inv (resetRplidar 0 Decoder.construct).1 ∧
      (resetRplidar 0 Decoder.construct).1.rpState = .rpResetted ∧
      (∀ now c,
        let r := stepByte Params.plain now (resetRplidar 0 Decoder.construct).1 c
        (r.1.rpState = .rpResetted ∧ r.2 = []) ∨
        (r.1.rpState = .rpResponding ∧ r.2 = [.write rplidarCmdScan] ∧
          (resetRplidar 0 Decoder.construct).1.informationData = true ∧
          (resetRplidar 0 Decoder.construct).1.byteCount = 62) ∨
        (r.1.rpState = .rpUnknown ∧ r.2 = [] ∧
          (resetRplidar 0 Decoder.construct).1.informationData = false ∧ c ≠ 0x52 ∧
          5 < (resetRplidar 0 Decoder.construct).1.cnt)) ∧
      (let block : List (Nat × UInt8) := (0x52 :: List.replicate 61 0).map fun c => (0, c)
        let t := feed Params.plain (resetRplidar 0 Decoder.construct).1 block
        t.1.rpState = .rpResetted ∧ t.2 = [] ∧
          (stepByte Params.plain 0 t.1 0).1.rpState = .rpResponding ∧
          (stepByte Params.plain 0 t.1 0).2 = [.write rplidarCmdScan]) := by
  have h : Inv (resetRplidar 0 Decoder.construct).1 :=
    (resetRplidar_safe 0 DriverInv.construct.decoder rfl).1
  have hfresh := resetted_handshake Params.plain h rfl
  obtain ⟨h1, h2, h3⟩ := hfresh.2 rfl ((0x52 :: List.replicate 61 0).map fun c => (0, c)) 0 0 rfl
    (by simp)
  exact ⟨h, rfl, hfresh.1, h1, h2, h3 (by simp)⟩

/-- Every exit from {lit}`rp_resetted` is {lit}`set_scan_mode`, which writes
{lit}`A5 20` and enters {lit}`rp_responding`. -/
def ExitsOnlyByScanMode (P : Params) (s : Decoder) : Prop :=
  ∀ (bs : List (Nat × UInt8)) now c, (feed P s bs).1.rpState = .rpResetted →
    (stepByte P now (feed P s bs).1 c).1.rpState ≠ .rpResetted →
    (stepByte P now (feed P s bs).1 c).1.rpState = .rpResponding ∧
      Call.write rplidarCmdScan ∈ (stepByte P now (feed P s bs).1 c).2

/-- A device-information block of 1 to 62 bytes starting with {lit}`0x52` has
been answered with {lit}`set_scan_mode` by the time its last byte is read. -/
def InformationAnswered (P : Params) (s : Decoder) : Prop :=
  ∀ block : List (Nat × UInt8), (block.map Prod.snd).head? = some 0x52 → 1 ≤ block.length →
    block.length ≤ 62 → Call.write rplidarCmdScan ∈ (feed P s block).2

/-- From the first reset, seven stray bytes reach {lit}`rp_unknown` with no
command, and the one-byte block {lit}`52` leaves the decoder waiting in
{lit}`rp_resetted`. -/
theorem handshake_not_always_scans :
    ¬ ExitsOnlyByScanMode Params.plain (resetRplidar 0 Decoder.construct).1 ∧
      ¬ InformationAnswered Params.plain (resetRplidar 0 Decoder.construct).1 := by
  refine ⟨fun h => ?_, fun h => ?_⟩
  · have := (h (List.replicate 6 (0, 0)) 0 0 (by decide) (by decide)).2
    revert this
    decide
  · have := h [(0, 0x52)] rfl le_rfl (by decide)
    revert this
    decide

/-! ## Scan requests over whole streams -/

section ScanRequest

variable {P : Params} {now : Nat} {s : Decoder} {c : UInt8}

/-- A buffer write calls at most its overrun. -/
theorem Buffer.check_calls {b : Buffer} {i : Nat} {x : Call} (h : x ∈ b.check i) :
    x = .overrun b i := by
  unfold Buffer.check at h
  split at h <;> simp_all

/-- The only calls of {lit}`parse_response_data` are boundary updates. -/
theorem parseResponseData_calls {x : Call} (h : x ∈ (parseResponseData P now s).2) :
    ∃ k, x = .updateBoundary k := by
  unfold parseResponseData at h
  split at h
  · split_ifs at h
    · simp only [SampleState.sample, SectorWrite.calls] at h
      split at h <;> simp_all
    · simp at h
  · simp at h

/-- {lit}`parse_response_data` keeps the decoder state. -/
theorem parseResponseData_rpState (P : Params) (now : Nat) (s : Decoder) :
    (parseResponseData P now s).1.rpState = s.rpState := by
  rw [parseResponseData_fst]

/-- What a byte in {lit}`rp_measurements` can do: reset the lidar, or keep the
decoder state and {lit}`_information_data` with no command and no descriptor. -/
theorem onMeasurements_cases (P : Params) (now : Nat) (s : Decoder) (c : UInt8) :
    onMeasurements P now s c = resetRplidar now s ∨
      ((onMeasurements P now s c).1.rpState = s.rpState ∧
        (onMeasurements P now s c).1.informationData = s.informationData ∧
        ∀ x ∈ (onMeasurements P now s c).2, (∀ b, x ≠ .write b) ∧ ∀ d, x ≠ .parseDescriptor d) := by
  have hstore : ∀ t : Decoder, (storePayload P now t c).1.rpState = t.rpState ∧
      (storePayload P now t c).1.informationData = t.informationData ∧
      ∀ x ∈ (storePayload P now t c).2, (∀ b, x ≠ .write b) ∧ ∀ d, x ≠ .parseDescriptor d := by
    intro t
    unfold storePayload
    dsimp only
    split
    · refine ⟨parseResponseData_rpState P now _, by rw [parseResponseData_fst], fun x hx => ?_⟩
      rcases List.mem_append.1 hx with hx | hx
      · rw [Buffer.check_calls hx]; simp
      · rcases List.mem_cons.1 hx with rfl | hx
        · simp
        · obtain ⟨k, rfl⟩ := parseResponseData_calls hx; simp
    · exact ⟨rfl, rfl, fun x hx => by rw [Buffer.check_calls hx]; simp⟩
  unfold onMeasurements
  split_ifs
  · exact .inr (hstore _)
  · exact .inl rfl
  · exact .inr ⟨rfl, rfl, by simp⟩
  · exact .inr (hstore s)

/-- The {lit}`rp_responding` handler writes nothing to the UART. -/
theorem onResponding_no_write (now : Nat) (s : Decoder) (c b : UInt8) :
    Call.write b ∉ (onResponding now s c).2 := by
  unfold onResponding
  dsimp only
  split_ifs <;> simp [Buffer.check_no_write]

/-- Only {lit}`set_scan_mode` in {lit}`rp_resetted` requests scan mode, on the byte
after 62 stored bytes of device information. -/
theorem stepByte_scan (hinv : Inv s) (h : Call.write rplidarCmdScan ∈ (stepByte P now s c).2) :
    s.rpState = .rpResetted ∧ s.informationData = true ∧ s.byteCount = 62 := by
  cases hs : s.rpState with
  | rpResetted =>
    rw [stepByte_resetted hs] at h
    rcases onResetted_exits hinv hs c with ⟨-, h0⟩ | ⟨-, -, hi, hbc⟩ | ⟨-, h0, -⟩
    · simp [h0] at h
    · exact ⟨rfl, hi, hbc⟩
    · simp [h0] at h
  | rpResponding =>
    rw [stepByte_responding hs] at h
    exact absurd h (onResponding_no_write _ _ _ _)
  | rpMeasurements =>
    rw [stepByte_measurements hs] at h
    rcases onMeasurements_cases P now s c with h' | ⟨-, -, hcalls⟩
    · simp [h', resetRplidar, rplidarCmdReset, rplidarCmdScan] at h
    · exact absurd rfl ((hcalls _ h).1 _)
  | rpHealth => simp [stepByte, hs] at h
  | rpUnknown =>
    rw [stepByte_unknown hs] at h
    unfold onUnknown at h
    split_ifs at h
    · exact absurd h (onResponding_no_write _ _ _ _)
    all_goals simp [resetRplidar, rplidarCmdReset, rplidarCmdScan] at h

/-- The {lit}`rp_responding` handler keeps {lit}`_information_data`. -/
theorem onResponding_informationData (now : Nat) (s : Decoder) (c : UInt8) :
    (onResponding now s c).1.informationData = s.informationData := by
  unfold onResponding
  dsimp only
  split_ifs
  · exact (parseResponseDescriptor_cases now _).2.2.2
  all_goals rfl

/-- Outside {lit}`rp_resetted` a byte leaves {lit}`_information_data` as it is. -/
theorem stepByte_informationData (hs : s.rpState ≠ .rpResetted) :
    (stepByte P now s c).1.informationData = s.informationData := by
  cases h : s.rpState with
  | rpResetted => exact absurd h hs
  | rpResponding => rw [stepByte_responding h, onResponding_informationData]
  | rpMeasurements =>
    rw [stepByte_measurements h]
    rcases onMeasurements_cases P now s c with h' | ⟨-, hi, -⟩
    · rw [h']; rfl
    · exact hi
  | rpHealth => simp [stepByte, h]
  | rpUnknown =>
    rw [stepByte_unknown h]
    unfold onUnknown
    split_ifs
    · exact onResponding_informationData _ _ _
    all_goals rfl

/-- A byte that leaves the decoder in {lit}`rp_resetted` holding device
information was stored there as part of the block. -/
theorem stepByte_stores (h : Inv s) (hs : (stepByte P now s c).1.rpState = .rpResetted)
    (hi : (stepByte P now s c).1.informationData = true) :
    s.rpState = .rpResetted ∧ (c = 0x52 ∨ s.informationData = true) ∧ s.byteCount < 62 := by
  by_cases hst : s.rpState = .rpResetted
  · rw [stepByte_resetted hst] at hs hi
    by_cases h1 : (c = 0x52 ∨ s.informationData = true) ∧ s.byteCount < 62
    · exact ⟨hst, h1⟩
    cases hinfo : s.informationData
    · by_cases hcnt : 5 < s.cnt
      · rw [onResetted_giveUp h1 hinfo hcnt] at hs
        cases hs
      · rw [onResetted_stray h1 hinfo (by omega)] at hi
        exact absurd (hinfo.symm.trans hi) Bool.false_ne_true
    · rw [onResetted_scanMode h1 hinfo] at hs
      cases hs
  · rw [stepByte_informationData hst, h.informationData_false hst] at hi
    exact absurd hi Bool.false_ne_true

/-- While the decoder holds device information in {lit}`rp_resetted`, the stream
ends with the block it is reading: {lit}`_byte_count` bytes, the first
{lit}`0x52`, read in {lit}`rp_resetted` from a state holding no information, with
no call. -/
theorem feed_informationBlock_read (P : Params) {s : Decoder} (h : Inv s)
    (hinfo : s.informationData = false) (pre : List (Nat × UInt8))
    (hs : (feed P s pre).1.rpState = .rpResetted) (hi : (feed P s pre).1.informationData = true) :
    ∃ before block, pre = before ++ block ∧ block.length = (feed P s pre).1.byteCount ∧
      (block.map Prod.snd).head? = some 0x52 ∧
      (feed P s before).1.rpState = .rpResetted ∧ (feed P s before).1.informationData = false ∧
      (feed P (feed P s before).1 block).2 = [] ∧
      ∀ st ∈ trail P (feed P s before).1 block, st = .rpResetted := by
  induction pre using List.reverseRecOn with
  | nil => exact absurd (hinfo.symm.trans hi) Bool.false_ne_true
  | append_singleton pre x ih =>
    obtain ⟨now, c⟩ := x
    set t := (feed P s pre).1 with ht
    have htinv : Inv t := (feed_safe P pre h).1
    rw [feed_concat] at hs hi ⊢
    obtain ⟨hts, hstore⟩ := stepByte_stores htinv hs hi
    have hstep : stepByte P now t c = ({ t with informationData := true, byteCount := t.byteCount + 1 }, []) := by
      rw [stepByte_resetted hts, onResetted_store hstore]
    rw [hstep]
    cases htinfo : t.informationData
    · -- the byte starts the block
      have hc : c = 0x52 := hstore.1.resolve_right (by simp [htinfo])
      have hbc : t.byteCount = 0 := by
        have hst := htinv.state
        simp only [StateInv, hts] at hst
        exact hst.2 htinfo
      refine ⟨pre, [(now, c)], rfl, by simp [hbc], by simp [hc], hts, htinfo, ?_, ?_⟩
      · rw [feed_cons, hstep]; rfl
      · simp [trail, hstep, hts]
    · -- the byte continues the block
      obtain ⟨before, block, rfl, hlen, hhead, hb1, hb2, hcalls, htrail⟩ := ih hts htinfo
      have hfeed : (feed P (feed P s before).1 block).1 = t := by rw [ht, feed_append]
      refine ⟨before, block ++ [(now, c)], List.append_assoc _ _ _, by simp [hlen], ?_, hb1, hb2,
        ?_, ?_⟩
      · obtain ⟨b, bs, rfl⟩ := List.exists_cons_of_ne_nil (show block ≠ [] by rintro rfl; simp at hhead)
        simpa using hhead
      · rw [feed_concat, hcalls, hfeed, hstep]
        rfl
      · rw [trail_append, hfeed]
        intro st hst
        rcases List.mem_append.1 hst with hst | hst
        · exact htrail st hst
        · simpa [trail, hstep, hts] using hst

/-- In any byte stream read from a decoder that holds no device information,
every request for scan mode comes on the byte after a block of 62 bytes that
starts with {lit}`0x52` and is read in {lit}`rp_resetted`, from a state holding no
information, with no call in between: no scan request without a whole
information block since the last reset. -/
theorem feed_scanRequest (P : Params) {s : Decoder} (h : Inv s) (hinfo : s.informationData = false)
    (pre : List (Nat × UInt8)) (now : Nat) (c : UInt8)
    (hscan : Call.write rplidarCmdScan ∈ (stepByte P now (feed P s pre).1 c).2) :
    ∃ before block, pre = before ++ block ∧ block.length = 62 ∧
      (block.map Prod.snd).head? = some 0x52 ∧
      (feed P s before).1.rpState = .rpResetted ∧ (feed P s before).1.informationData = false ∧
      (feed P (feed P s before).1 block).2 = [] ∧
      ∀ st ∈ trail P (feed P s before).1 block, st = .rpResetted := by
  obtain ⟨hs, hi, hbc⟩ := stepByte_scan (feed_safe P pre h).1 hscan
  rw [← hbc]
  exact feed_informationBlock_read P h hinfo pre hs hi

/-- After the first reset, the block {lit}`52` followed by 61 bytes {lit}`00` is
answered with a scan request on the next byte, and that block is the one the
request follows. -/
theorem feed_scanRequest_block :
    let s : Decoder := (resetRplidar 0 Decoder.construct).1
    let pre : List (Nat × UInt8) := (0x52 :: List.replicate 61 0).map fun c => (0, c)
    Inv s ∧ s.informationData = false ∧
      Call.write rplidarCmdScan ∈ (stepByte Params.plain 0 (feed Params.plain s pre).1 0).2 ∧
      ∃ before block, pre = before ++ block ∧ block.length = 62 := by
  intro s pre
  have h : Inv s := (resetRplidar_safe 0 DriverInv.construct.decoder rfl).1
  have hscan : Call.write rplidarCmdScan ∈ (stepByte Params.plain 0 (feed Params.plain s pre).1 0).2 := by
    rw [((feed_informationBlock Params.plain h rfl rfl pre 0 0 rfl (by simp [pre])).2.2
      (by simp [pre])).2]
    exact List.mem_singleton_self _
  obtain ⟨before, block, h1, h2, -⟩ := feed_scanRequest Params.plain h rfl pre 0 0 hscan
  exact ⟨h, rfl, hscan, before, block, h1, h2⟩

end ScanRequest

/-! ## Descriptor assembly -/

/-- The seven descriptor bytes, one by one. -/
theorem Decoder.descriptorBytes_eq (s : Decoder) :
    s.descriptorBytes = [s.descriptor 0, s.descriptor 1, s.descriptor 2, s.descriptor 3,
      s.descriptor 4, s.descriptor 5, s.descriptor 6] := rfl

/-- After seven stray bytes from the first reset, the descriptor
{lit}`A5 5A 00 00 00 00 00` leaves the decoder in {lit}`rp_responding`, and the
byte {lit}`00` after it is stored as the first byte of a new descriptor. -/
theorem descriptor_assembly_stale :
    let r : Driver × List (Nat × Call) := run Params.plain Driver.construct
      [(1, []), (2, []), (3, List.replicate 7 0 ++ [0xA5, 0x5A, 0, 0, 0, 0, 0])]
    let d := r.1.decoder
    .parseDescriptor [0xA5, 0x5A, 0, 0, 0, 0, 0] ∈ r.2.map Prod.snd ∧ d.rpState = .rpResponding ∧
      (stepByte Params.plain 4 d 0).1.rpState = .rpResponding ∧
      (stepByte Params.plain 4 d 0).1.byteCount = 1 ∧
      (stepByte Params.plain 4 d 0).1.descriptor 0 = 0 := by
  decide

/-! ## Descriptors over whole streams -/

section DescriptorStream

variable {P : Params} {now : Nat} {s : Decoder} {c : UInt8}

/-- Only a descriptor completed in {lit}`rp_responding` is handed to
{lit}`parse_response_descriptor`, and it is the six stored bytes followed by the
byte just read. -/
theorem onResponding_parseDescriptor {d : List UInt8} (hbc : s.byteCount < 7)
    (h : .parseDescriptor d ∈ (onResponding now s c).2) :
    s.byteCount = 6 ∧ d = (List.range 7).map (Function.update s.descriptor 6 c) := by
  by_cases hc : c = rplidarPreamble ∨ s.descriptorData = true
  · rcases Nat.lt_or_ge (s.byteCount + 1) 7 with h7 | h7
    · rw [onResponding_collect hc h7] at h
      simp at h
    · have h6 : s.byteCount = 6 := by omega
      rw [onResponding_complete hc h6, List.mem_singleton, Call.parseDescriptor.injEq] at h
      exact ⟨h6, h⟩
  · rw [onResponding_reject hc] at h
    simp at h

/-- A descriptor is parsed only in {lit}`rp_responding`, on its seventh byte, and
is the six bytes stored followed by that byte. -/
theorem stepByte_parseDescriptor {d : List UInt8} (hinv : Inv s)
    (h : .parseDescriptor d ∈ (stepByte P now s c).2) :
    s.rpState = .rpResponding ∧ s.byteCount = 6 ∧
      d = (List.range 7).map (Function.update s.descriptor 6 c) := by
  have hst := hinv.state
  cases hs : s.rpState with
  | rpResponding =>
    simp only [StateInv, hs] at hst
    rw [stepByte_responding hs] at h
    exact ⟨rfl, onResponding_parseDescriptor hst.1 h⟩
  | rpUnknown =>
    simp only [StateInv, hs] at hst
    rw [stepByte_unknown hs] at h
    unfold onUnknown at h
    split_ifs at h
    · have h6 := (onResponding_parseDescriptor (by simp [hst]) h).1
      simp [hst] at h6
    all_goals simp [resetRplidar] at h
  | rpResetted =>
    rw [stepByte_resetted hs] at h
    rcases onResetted_exits hinv hs c with ⟨-, h0⟩ | ⟨-, h0, -⟩ | ⟨-, h0, -⟩ <;> simp [h0] at h
  | rpMeasurements =>
    rw [stepByte_measurements hs] at h
    rcases onMeasurements_cases P now s c with h' | ⟨-, -, hcalls⟩
    · simp [h', resetRplidar] at h
    · exact absurd rfl ((hcalls _ h).2 _)
  | rpHealth => simp [stepByte, hs] at h

/-- In {lit}`rp_responding`, a byte that leaves descriptor bytes stored is stored
behind them, with no call. -/
theorem onResponding_collects (hbc : s.byteCount < 7)
    (hr : (onResponding now s c).1.rpState = .rpResponding)
    (hne : (onResponding now s c).1.byteCount ≠ 0) :
    (onResponding now s c).1.byteCount = s.byteCount + 1 ∧
      (onResponding now s c).1.descriptor = Function.update s.descriptor s.byteCount c ∧
      (onResponding now s c).2 = [] := by
  by_cases hc : c = rplidarPreamble ∨ s.descriptorData = true
  · rcases Nat.lt_or_ge (s.byteCount + 1) 7 with h7 | h7
    · rw [onResponding_collect hc h7]
      exact ⟨rfl, rfl, rfl⟩
    · rw [onResponding_complete hc (by omega)] at hne
      exact absurd rfl hne
  · rw [onResponding_reject hc] at hr
    cases hr

/-- A byte after which the decoder is in {lit}`rp_responding` with descriptor bytes
stored has stored it behind the ones before, with no call; it was read in
{lit}`rp_responding` or started the descriptor. -/
theorem stepByte_collects (hinv : Inv s) (hr : (stepByte P now s c).1.rpState = .rpResponding)
    (hbc : (stepByte P now s c).1.byteCount ≠ 0) :
    (s.rpState = .rpResponding ∨ s.byteCount = 0) ∧
      (stepByte P now s c).1.byteCount = s.byteCount + 1 ∧
      (stepByte P now s c).1.descriptor = Function.update s.descriptor s.byteCount c ∧
      (stepByte P now s c).2 = [] := by
  have hst := hinv.state
  cases hs : s.rpState with
  | rpResponding =>
    simp only [StateInv, hs] at hst
    rw [stepByte_responding hs] at hr hbc ⊢
    exact ⟨.inl rfl, onResponding_collects hst.1 hr hbc⟩
  | rpUnknown =>
    simp only [StateInv, hs] at hst
    rw [stepByte_unknown hs] at hr hbc ⊢
    unfold onUnknown at hr hbc ⊢
    split_ifs at hr hbc ⊢
    · exact ⟨.inr hst, onResponding_collects (by simp [hst]) hr hbc⟩
    all_goals simp [resetRplidar, hs] at hr
  | rpResetted =>
    rw [stepByte_resetted hs] at hr hbc
    rcases onResetted_exits hinv hs c with ⟨h1, -⟩ | ⟨-, -, hi, h62⟩ | ⟨h1, -⟩
    · rw [h1] at hr; cases hr
    · rw [onResetted_scanMode (fun h => absurd h.2 (by omega)) hi] at hbc
      exact absurd rfl hbc
    · rw [h1] at hr; cases hr
  | rpMeasurements =>
    rw [stepByte_measurements hs] at hr
    rcases onMeasurements_cases P now s c with h' | ⟨h', -, -⟩
    · rw [h'] at hr; cases hr
    · rw [h', hs] at hr; cases hr
  | rpHealth => simp [stepByte, hs] at hr

/-- While the decoder is in {lit}`rp_responding`, its first {lit}`_byte_count`
descriptor bytes are the last bytes of the stream, read with no call. -/
theorem feed_descriptor_read (P : Params) {s : Decoder} (h : Inv s)
    (hs : s.rpState = .rpResponding → s.byteCount = 0) (pre : List (Nat × UInt8))
    (ht : (feed P s pre).1.rpState = .rpResponding) :
    ∃ before block, pre = before ++ block ∧ block.length = (feed P s pre).1.byteCount ∧
      (∀ i < block.length, (feed P s pre).1.descriptor i = (block.map Prod.snd).getD i 0) ∧
      (feed P (feed P s before).1 block).2 = [] := by
  induction pre using List.reverseRecOn with
  | nil => exact ⟨[], [], rfl, (hs ht).symm, nofun, rfl⟩
  | append_singleton pre x ih =>
    obtain ⟨now, c⟩ := x
    set t := (feed P s pre).1 with htdef
    rw [feed_concat] at ht ⊢
    by_cases hbc : (stepByte P now t c).1.byteCount = 0
    · exact ⟨pre ++ [(now, c)], [], by simp, by simp [hbc], by simp, rfl⟩
    obtain ⟨hsrc, hbc', hdesc, hcalls⟩ := stepByte_collects (feed_safe P pre h).1 ht hbc
    -- the block read so far: the one the decoder was reading, or none
    obtain ⟨before, block, hpre, hlen, hblock, hfeed⟩ : ∃ before block, pre = before ++ block ∧
        block.length = t.byteCount ∧
        (∀ i < block.length, t.descriptor i = (block.map Prod.snd).getD i 0) ∧
        (feed P (feed P s before).1 block).2 = [] := by
      by_cases h0 : t.byteCount = 0
      · exact ⟨pre, [], by simp, by simp [h0], by simp, rfl⟩
      · exact ih (hsrc.resolve_right h0)
    have hend : (feed P (feed P s before).1 block).1 = t := by rw [htdef, hpre, feed_append]
    refine ⟨before, block ++ [(now, c)], by rw [hpre, List.append_assoc], by simp [hlen, hbc'],
      fun i hi => ?_, by rw [feed_concat, hfeed, hend, hcalls]; rfl⟩
    rw [hdesc]
    rcases Nat.lt_or_ge i block.length with hlt | hge
    · rw [Function.update_noteq (show i ≠ t.byteCount by omega), hblock i hlt, List.map_append,
        List.getD_append _ _ _ _ (by simpa using hlt)]
    · obtain rfl : i = block.length := by simp at hi; omega
      rw [← hlen, Function.update_same, List.map_append, List.getD_append_right _ _ _ _ (by simp)]
      simp

/-- In any byte stream read from a decoder that is not in the middle of a
descriptor, every descriptor handed to {lit}`parse_response_descriptor` is exactly
the last seven bytes read, the first six of them read with no call. -/
theorem feed_descriptorParsed (P : Params) {s : Decoder} (h : Inv s)
    (hs : s.rpState = .rpResponding → s.byteCount = 0) (pre : List (Nat × UInt8)) (now : Nat)
    (c : UInt8) (d : List UInt8) (hd : .parseDescriptor d ∈ (stepByte P now (feed P s pre).1 c).2) :
    ∃ before block, pre = before ++ block ∧ block.length = 6 ∧ d = block.map Prod.snd ++ [c] ∧
      (feed P (feed P s before).1 block).2 = [] := by
  obtain ⟨hr, h6, rfl⟩ := stepByte_parseDescriptor (feed_safe P pre h).1 hd
  obtain ⟨before, block, hpre, hlen, hblock, hcalls⟩ := feed_descriptor_read P h hs pre hr
  refine ⟨before, block, hpre, hlen.trans h6, ?_, hcalls⟩
  apply List.ext_getElem (by simp [hlen, h6])
  intro i h1 h2
  simp only [List.length_map, List.length_range] at h1
  rw [List.getElem_map, List.getElem_range]
  rcases Nat.lt_or_ge i 6 with hlt | hge
  · rw [Function.update_noteq (show i ≠ 6 by omega), hblock i (by omega), List.getElem_append_left
      (by simp [hlen, h6, hlt]), List.getD_eq_getElem _ _ (by simp [hlen, h6, hlt])]
  · obtain rfl : i = 6 := by omega
    rw [Function.update_same, List.getElem_append_right (by simp [hlen, h6])]
    simp [hlen, h6]

/-- From the constructed decoder, the scan descriptor reaches the parser as the
seven bytes just read. -/
theorem feed_descriptorParsed_scan :
    let pre : List (Nat × UInt8) := [0xA5, 0x5A, 0x05, 0x00, 0x00, 0x40].map fun c => (0, c)
    .parseDescriptor scanDescriptor ∈
        (stepByte Params.plain 0 (feed Params.plain Decoder.construct pre).1 0x81).2 ∧
      ∃ before block, pre = before ++ block ∧ block.length = 6 ∧
        scanDescriptor = block.map Prod.snd ++ [0x81] := by
  intro pre
  have hd : .parseDescriptor scanDescriptor ∈
      (stepByte Params.plain 0 (feed Params.plain Decoder.construct pre).1 0x81).2 := by
    decide
  obtain ⟨before, block, h1, h2, h3, -⟩ := feed_descriptorParsed Params.plain
    DriverInv.construct.decoder (fun _ => rfl) pre 0 0x81 scanDescriptor hd
  exact ⟨hd, before, block, h1, h2, h3⟩

end DescriptorStream

end RPLidarA2
