import RPLidarA2.Session

/-!
# RPLIDAR A2 driver - A lidar that sends only stray bytes

Two counters guard the handshake.  In {lit}`rp_resetted` a byte that starts no
device information raises {lit}`_cnt`, and the seventh such byte moves the decoder
to {lit}`rp_unknown` with the counter cleared.  There, a byte other than the
preamble raises it again, and the eleventh resets the lidar and returns to
{lit}`rp_resetted`, again with the counter cleared.  A lidar that sends only bytes
other than {lit}`0x52` and {lit}`0xA5` therefore keeps the driver in a cycle of
eighteen bytes with one reset per cycle, and touches nothing else.

Main results:

- Theorem {lit}`feed_stray`: from any point of the cycle, a stream of stray bytes
  read at any clocks moves the decoder along the cycle, sends one reset at the
  end of each cycle it completes, and changes no member but {lit}`_rp_state`,
  {lit}`_cnt` and {lit}`_last_reset_ms`.
- Theorem {lit}`run_stray`: a driver whose lidar sends only stray bytes is reset
  by {lit}`initialise` and then once every eighteen bytes, reports no data, and
  keeps every other decoder member of the first reset.
-/

namespace RPLidarA2

/-! ## The cycle -/

/-- A byte that starts neither the device information nor a descriptor. -/
def Stray (c : UInt8) : Prop := c ≠ 0x52 ∧ c ≠ rplidarPreamble

/-- Whether a byte is stray is decidable. -/
instance : DecidablePred Stray := fun c =>
  inferInstanceAs (Decidable (c ≠ 0x52 ∧ c ≠ rplidarPreamble))

/-- Where {lit}`_rp_state` and {lit}`_cnt` stand after {lit}`p` stray bytes from a
reset with a cleared counter: seven bytes in {lit}`rp_resetted`, then eleven in
{lit}`rp_unknown`. -/
def strayPosition (p : Nat) : RpState × Nat :=
  if p ≤ 6 then (.rpResetted, p) else (.rpUnknown, p - 7)

/-- The decoder {lit}`s` at position {lit}`p` of the cycle, with {lit}`t` the time
of its last reset. -/
def Decoder.atStray (s : Decoder) (p t : Nat) : Decoder :=
  { s with rpState := (strayPosition p).1, cnt := (strayPosition p).2, lastResetMs := t }

/-- One stray byte advances the decoder by one position, and the last byte of a
cycle resets the lidar at its clock. -/
theorem stepByte_stray (P : Params) (now : Nat) {s : Decoder} (hinfo : s.informationData = false)
    {p : Nat} (hp : p < 18) (t : Nat) {c : UInt8} (hc : Stray c) :
    stepByte P now (s.atStray p t) c =
      if p = 17 then (s.atStray 0 now, [.write rplidarCmdReset]) else (s.atStray (p + 1) t, []) := by
  obtain ⟨h52, hpre⟩ := hc
  have hno : ¬((c = 0x52 ∨ (s.atStray p t).informationData = true) ∧
      (s.atStray p t).byteCount < 62) := by
    simp [Decoder.atStray, h52, hinfo]
  rcases Nat.lt_or_ge p 7 with h7 | h7
  · rw [stepByte_resetted (by simp [Decoder.atStray, strayPosition, show p ≤ 6 by omega]),
      if_neg (by omega)]
    rcases Nat.lt_or_ge p 6 with h6 | h6
    · rw [onResetted_stray hno hinfo (by simp [Decoder.atStray, strayPosition, show p ≤ 6 by omega]; omega)]
      simp [Decoder.atStray, strayPosition, show p ≤ 6 by omega, show p + 1 ≤ 6 by omega]
    · obtain rfl : p = 6 := by omega
      rw [onResetted_giveUp hno hinfo (show 5 < 6 by decide)]
      rfl
  · rw [stepByte_unknown (by simp [Decoder.atStray, strayPosition, show ¬p ≤ 6 by omega])]
    rcases Nat.lt_or_ge p 17 with h17 | h17
    · rw [onUnknown_count hpre (by simp [Decoder.atStray, strayPosition, show ¬p ≤ 6 by omega]; omega),
        if_neg (by omega)]
      simp only [Decoder.atStray, strayPosition, show ¬p ≤ 6 by omega, show ¬p + 1 ≤ 6 by omega,
        if_false, Prod.mk.injEq, and_true]
      congr 1
      omega
    · obtain rfl : p = 17 := by omega
      rw [onUnknown_reset hpre rfl]
      rfl

/-- From any point of the cycle, a stream of stray bytes read at any clocks moves
the decoder along the cycle and resets the lidar once per completed cycle; no
other member changes. -/
theorem feed_stray (P : Params) {s : Decoder} (hinfo : s.informationData = false)
    (bs : List (Nat × UInt8)) (hbs : ∀ x ∈ bs, Stray x.2) {p : Nat} (hp : p < 18) (t : Nat) :
    ∃ t', feed P (s.atStray p t) bs =
      (s.atStray ((p + bs.length) % 18) t',
        List.replicate ((p + bs.length) / 18) (.write rplidarCmdReset)) := by
  induction bs generalizing p t with
  | nil => exact ⟨t, by simp [Nat.mod_eq_of_lt hp, Nat.div_eq_of_lt hp]⟩
  | cons x bs ih =>
    obtain ⟨now, c⟩ := x
    have hrest : ∀ x ∈ bs, Stray x.2 := fun x hx => hbs x (List.mem_cons_of_mem _ hx)
    rw [feed_cons, stepByte_stray P now hinfo hp t (hbs _ (List.mem_cons_self _ _))]
    split
    · next h17 =>
      obtain ⟨t', ht'⟩ := ih hrest (by omega : 0 < 18) now
      refine ⟨t', ?_⟩
      rw [ht', List.length_cons, h17, show 17 + (bs.length + 1) = (0 + bs.length) + 18 by omega,
        Nat.add_mod_right, Nat.add_div_right _ (by omega), List.replicate_succ]
      rfl
    · next h17 =>
      obtain ⟨t', ht'⟩ := ih hrest (by omega : p + 1 < 18) t
      refine ⟨t', ?_⟩
      rw [ht', List.length_cons, show p + 1 + bs.length = p + (bs.length + 1) by omega]
      rfl

/-! ## The driver -/

/-- The driver once {lit}`initialise` has reset the lidar at {lit}`t2`, with its
decoder at position {lit}`p` of the cycle. -/
def strayDriver (t2 p t : Nat) : Driver :=
  { decoder := (Decoder.afterReset t2).atStray p t, initialised := true, sectorInitialised := true
    status := .noData, rx := [] }

/-- One update that finds only stray bytes moves the driver along the cycle. -/
theorem tick_stray (P : Params) (t2 : Nat) {p : Nat} (hp : p < 18) (t now : Nat)
    (bytes : List UInt8) (hbytes : ∀ c ∈ bytes, Stray c) :
    ∃ t', tick P (strayDriver t2 p t) (now, bytes) =
      (strayDriver t2 ((p + bytes.length) % 18) t',
        List.replicate ((p + bytes.length) / 18) (.write rplidarCmdReset)) := by
  obtain ⟨t', ht'⟩ := feed_stray P (show (Decoder.afterReset t2).informationData = false from rfl)
    (bytes.map fun c => (now, c)) (by simpa using hbytes) hp t
  refine ⟨t', ?_⟩
  rw [tick_of_initialised P rfl rfl, show (strayDriver t2 p t).decoder =
    (Decoder.afterReset t2).atStray p t from rfl, ht', List.length_map]
  rfl

/-- Updates that find only stray bytes move the driver along the cycle. -/
theorem run_strayDriver (P : Params) (t2 : Nat) (ticks : List (Nat × List UInt8))
    (hstray : ∀ t ∈ ticks, ∀ c ∈ t.2, Stray c) {p : Nat} (hp : p < 18) (t : Nat) :
    ∃ t', (run P (strayDriver t2 p t) ticks).1 =
        strayDriver t2 ((p + (ticks.flatMap Prod.snd).length) % 18) t' ∧
      (run P (strayDriver t2 p t) ticks).2.map Prod.snd =
        List.replicate ((p + (ticks.flatMap Prod.snd).length) / 18) (.write rplidarCmdReset) := by
  induction ticks generalizing p t with
  | nil => exact ⟨t, by simp [run, Nat.mod_eq_of_lt hp, Nat.div_eq_of_lt hp]⟩
  | cons tk ticks ih =>
    obtain ⟨now, bytes⟩ := tk
    obtain ⟨t', ht'⟩ := tick_stray P t2 hp t now bytes (hstray _ (List.mem_cons_self _ _))
    obtain ⟨t'', h1, h2⟩ :=
      ih (fun x hx => hstray x (List.mem_cons_of_mem _ hx)) (Nat.mod_lt (p + bytes.length) (by omega)) t'
    refine ⟨t'', ?_, ?_⟩
    · simp only [run, ht', h1, List.flatMap_cons, List.length_append]
      congr 1
      omega
    · simp only [run, ht', List.map_append, List.map_map, Function.comp_def, List.map_replicate,
        h2, List.flatMap_cons, List.length_append, ← List.replicate_add]
      congr 1
      omega

/-- A lidar that sends only stray bytes is reset by {lit}`initialise` and then
once every eighteen bytes it sends, at whatever clocks the updates run; the
driver reports no data, and its decoder keeps every member of the first reset but
{lit}`_rp_state`, {lit}`_cnt` and {lit}`_last_reset_ms`. -/
theorem run_stray (P : Params) (t1 t2 : Nat) (ticks : List (Nat × List UInt8))
    (hstray : ∀ t ∈ ticks, ∀ c ∈ t.2, Stray c) :
    let r : Driver × List (Nat × Call) := run P Driver.construct ((t1, []) :: (t2, []) :: ticks)
    let n : Nat := (ticks.flatMap Prod.snd).length
    r.2.map Prod.snd = List.replicate (1 + n / 18) (.write rplidarCmdReset) ∧
      r.1.status = .noData ∧ ∃ t, r.1.decoder = (Decoder.afterReset t2).atStray (n % 18) t := by
  intro r n
  obtain ⟨t, h1, h2⟩ := run_strayDriver P t2 ticks hstray (by omega : 0 < 18) t2
  have hr : r = ((run P (strayDriver t2 0 t2) ticks).1,
      (t2, .write rplidarCmdReset) :: (run P (strayDriver t2 0 t2) ticks).2) := by
    rw [show r = run P Driver.construct ([(t1, []), (t2, [])] ++ ticks) from rfl, run_append,
      run_initialise]
    rfl
  rw [hr, h1]
  refine ⟨?_, rfl, t, by simp [strayDriver, n]⟩
  rw [List.map_cons, h2, Nat.zero_add, Nat.add_comm, List.replicate_succ]

/-- Forty zero bytes after the reset of {lit}`initialise` bring two more resets. -/
theorem run_stray_zeros :
    (∀ t ∈ [(3, List.replicate 40 (0 : UInt8))], ∀ c ∈ t.2, Stray c) ∧
      (run Params.plain Driver.construct [(1, []), (2, []), (3, List.replicate 40 0)]).2.map
        Prod.snd = List.replicate 3 (.write rplidarCmdReset) :=
  ⟨by decide, (run_stray Params.plain 1 2 [(3, List.replicate 40 0)] (by decide)).1⟩

end RPLidarA2
