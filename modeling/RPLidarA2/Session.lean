import RPLidarA2.Recovery

/-!
# RPLIDAR A2 driver - A whole session

From its construction the driver is set up by two updates: the first initialises
the sectors, the second resets the lidar.  An update that then finds in the UART
the lidar's device-information block, the scan descriptor and scan data leaves
the decoder in {lit}`rp_measurements`, the status Good, and the sector block and
obstacle estimators run over the samples of the data's valid 5-byte frames.
Every byte of one update is read at the same clock, which is the time of the
last distance from the descriptor on, so the resync timeout cannot fire.

Main results:

- Theorem {lit}`feed_oneClock`: bytes read at the clock of the last distance
  never fire the resync timeout.
- Theorem {lit}`feed_session`: from the reset of {lit}`initialise`, the
  handshake and the scan data reach the framing reference's state and calls.
- Theorem {lit}`run_session`: the whole driver, from its construction, ends a
  session with the sector block and estimators of the scan data.
-/

namespace RPLidarA2

/-! ## No timeout within one clock reading -/

/-- With a pending scan payload and the resync timeout not passed, a byte makes
no reset. -/
theorem stepByte_no_reset {P : Params} {now : Nat} {s : Decoder} {q : List UInt8} {e : Bool}
    (c : UInt8) (hp : Pending s q e)
    (ht : ¬millisSince now s.lastDistanceReceivedMs > resyncTimeout) :
    Call.write rplidarCmdReset ∉ (stepByte P now s c).2 := by
  rw [stepByte_measurements hp.state]
  unfold onMeasurements
  split_ifs <;> simp [storePayload_no_write, *]

/-- Bytes read at the clock of the last distance never fire the resync timeout,
and that clock stays the time of the last distance. -/
theorem feed_oneClock (P : Params) (now : Nat) :
    ∀ (cs : List UInt8) {s : Decoder} {q : List UInt8} {e : Bool}, Pending s q e → Inv s →
      s.lastDistanceReceivedMs = now →
      Call.write rplidarCmdReset ∉ (feed P s (cs.map fun c => (now, c))).2 ∧
        (feed P s (cs.map fun c => (now, c))).1.lastDistanceReceivedMs = now
  | [], _, _, _, _, _, ht => ⟨by simp [feed], ht⟩
  | c :: cs, s, _, _, hp, h, ht => by
    have hstep : Call.write rplidarCmdReset ∉ (stepByte P now s c).2 :=
      stepByte_no_reset c hp (by rw [ht, millisSince_self]; decide)
    obtain ⟨_, _, hp', -⟩ := stepByte_pending hp hstep
    have hldr : (stepByte P now s c).1.lastDistanceReceivedMs = now := by
      have := stepByte_refreshed P now c h
      unfold Refreshed at this
      rw [this, ht]
      split <;> rfl
    obtain ⟨ih1, ih2⟩ := feed_oneClock P now cs hp' (stepByte_safe P now c h).1 hldr
    rw [List.map_cons, feed_cons, List.mem_append, not_or]
    exact ⟨⟨hstep, ih1⟩, ih2⟩

/-- The state a stream ends in is the state it starts in or one it passes
through. -/
theorem feed_rpState_mem_trail (P : Params) (s : Decoder) (bs : List (Nat × UInt8)) :
    (feed P s bs).1.rpState ∈ s.rpState :: trail P s bs := by
  induction bs generalizing s with
  | nil => exact List.mem_singleton_self _
  | cons b bs ih =>
    obtain ⟨now, c⟩ := b
    rw [feed_cons, trail]
    exact List.mem_cons_of_mem _ (ih _)

/-! ## The handshake -/

/-- The decoder the reset of {lit}`initialise` leaves. -/
def Decoder.afterReset (now : Nat) : Decoder := (resetRplidar now Decoder.construct).1

/-- From the reset of {lit}`initialise`, a device-information block of 63 bytes
starting with {lit}`0x52` ends in {lit}`rp_responding` with an empty descriptor
buffer, having requested scan mode on its last byte. -/
theorem feed_informationBlock_eq (P : Params) (t2 now : Nat) (info : List UInt8)
    (hlen : info.length = 63) (hhead : info.head? = some 0x52) :
    feed P (Decoder.afterReset t2) (info.map fun c => (now, c)) =
      ({ Decoder.afterReset t2 with rpState := .rpResponding }, [.write rplidarCmdScan]) := by
  obtain ⟨c0, rest, rfl⟩ : ∃ c0 rest, info = c0 :: rest := List.exists_cons_of_ne_nil
    (by rintro rfl; simp at hlen)
  have hc0 : c0 = 0x52 := by simpa using hhead
  simp only [List.length_cons] at hlen
  obtain ⟨c62, hlast⟩ : ∃ c62, rest.drop 61 = [c62] := by
    have : (rest.drop 61).length = 1 := by simp; omega
    match rest.drop 61, this with
    | [c62], _ => exact ⟨c62, rfl⟩
  -- the first byte starts the block, the next 61 are stored, the last requests scan mode
  have h0 : stepByte P now (Decoder.afterReset t2) c0 =
      ({ Decoder.afterReset t2 with informationData := true, byteCount := 1 }, []) := by
    rw [stepByte_resetted rfl, onResetted_store ⟨.inl hc0, show (0 : Nat) < 62 by decide⟩]
    rfl
  have h1 : feed P { Decoder.afterReset t2 with informationData := true, byteCount := 1 }
      ((rest.take 61).map fun c => (now, c)) =
      ({ Decoder.afterReset t2 with informationData := true, byteCount := 62 }, []) := by
    have hl : ((rest.take 61).map fun c => (now, c)).length = 61 := by simp; omega
    rw [feed_information_eq P { Decoder.afterReset t2 with informationData := true, byteCount := 1 }
      rfl rfl _ (Nat.le_of_eq (by rw [hl])), hl]
  have h2 : stepByte P now { Decoder.afterReset t2 with informationData := true, byteCount := 62 }
      c62 = ({ Decoder.afterReset t2 with rpState := .rpResponding }, [.write rplidarCmdScan]) := by
    rw [stepByte_resetted rfl, onResetted_scanMode (by simp) rfl]
    rfl
  rw [← List.take_append_drop 61 rest, hlast, List.map_cons, feed_cons, h0, List.map_append,
    feed_append, h1, List.map_cons, List.map_nil, feed_cons, h2, feed_nil]
  rfl

/-- From the reset of {lit}`initialise`, a device-information block of 63 bytes
starting with {lit}`0x52`, the scan descriptor and scan data, all read at one
clock, leave the decoder in {lit}`rp_measurements` with that clock as the time of
the last distance.  Its sample members and calls after the descriptor are those
of the framing reference over the data's frames. -/
theorem feed_session (P : Params) (t2 now : Nat) (info data : List UInt8)
    (hlen : info.length = 63) (hhead : info.head? = some 0x52) :
    let r := feed P (Decoder.afterReset t2) ((info ++ scanDescriptor ++ data).map fun c => (now, c))
    r.1.rpState = .rpMeasurements ∧ r.1.lastDistanceReceivedMs = now ∧
      r.1.samples = (absorb P SampleState.initial (frames [] false data)).1 ∧
      r.2 = [.write rplidarCmdScan, .parseDescriptor scanDescriptor] ++
        (absorb P SampleState.initial (frames [] false data)).2 := by
  intro r
  obtain ⟨d, hd⟩ := feed_scanDescriptor P now
    (show ({ Decoder.afterReset t2 with rpState := .rpResponding } : Decoder).rpState =
      .rpResponding from rfl) rfl
  generalize hs : ({ Decoder.afterReset t2 with rpState := .rpResponding } : Decoder) = s1 at hd
  generalize hs2 : ({ s1 with descriptorData := true, descriptor := d, byteCount := 0
                              responseType := .scan, payloadLength := 5
                              lastDistanceReceivedMs := now
                              rpState := .rpMeasurements } : Decoder) = s2 at hd
  have hp : Pending s2 [] false := by
    subst hs hs2
    exact ⟨rfl, rfl, rfl, rfl, by decide, rfl, rfl, fun _ => rfl⟩
  have hinv : Inv s2 := by
    subst hs hs2
    exact ⟨by simp [StateInv], nofun, Nat.zero_le _, Nat.zero_le _⟩
  have hldr : s2.lastDistanceReceivedMs = now := by subst hs2; rfl
  obtain ⟨hno, hldr'⟩ := feed_oneClock P now data hp hinv hldr
  obtain ⟨hcalls, hsamples, htrail⟩ := feed_pending P hp (data.map fun c => (now, c)) hno
  have hsam : s2.samples = SampleState.initial := by subst hs hs2; rfl
  have hr : r = ((feed P s2 (data.map fun c => (now, c))).1,
      [.write rplidarCmdScan, .parseDescriptor scanDescriptor] ++
        (feed P s2 (data.map fun c => (now, c))).2) := by
    simp only [r, List.map_append, feed_append, feed_informationBlock_eq P t2 now info hlen hhead,
      hs, hd]
    rfl
  rw [hr]
  simp only [List.map_map, Function.comp_def, List.map_id'] at hcalls hsamples
  refine ⟨?_, hldr', by rw [hsamples, hsam], by rw [hcalls, hsam]⟩
  rcases List.mem_cons.1 (feed_rpState_mem_trail P s2 (data.map fun c => (now, c))) with h | h
  · exact h.trans hp.state
  · exact htrail _ h

/-! ## The whole driver -/

/-- The two updates of {lit}`initialise`: the first sets up the sectors, the
second resets the lidar. -/
theorem run_initialise (P : Params) (t1 t2 : Nat) :
    run P Driver.construct [(t1, []), (t2, [])] =
      ({ decoder := Decoder.afterReset t2, initialised := true, sectorInitialised := true
         status := .noData, rx := [] }, [(t2, .write rplidarCmdReset)]) := rfl

/-- After the two updates of {lit}`initialise`, an update that finds in the UART a
device-information block of 63 bytes starting with {lit}`0x52`, the scan
descriptor and any scan data leaves the driver in {lit}`rp_measurements` with the
status Good.  Its open sector, sector arrays and obstacle estimators are the
sector block and the estimators run over the samples of the data's valid 5-byte
frames; {lit}`parse_response_data` is handed exactly the data's frames, and the
boundary updates are the sectors the block commits, in order. -/
theorem run_session (P : Params) (t1 t2 t3 : Nat) (info data : List UInt8)
    (hlen : info.length = 63) (hhead : info.head? = some 0x52) (ht3 : 0 < t3) :
    let r : Driver × List (Nat × Call) :=
      run P Driver.construct [(t1, []), (t2, []), (t3, info ++ scanDescriptor ++ data)]
    let xs := frameSamples (frames [] false data)
    let agg := aggregateAll P.convertAngleToSector Reading.initial xs
    r.1.decoder.rpState = .rpMeasurements ∧ r.1.status = .good ∧
      r.1.decoder.samples =
        ⟨agg.1, agg.2.foldl SectorArrays.apply SampleState.initial.arrays,
          xs.foldl (fun w x => frontObstacle P.trig w x.1 x.2) Window.initial,
          xs.foldl (fun w x => backObstacle P.trig w x.1 x.2) Window.initial⟩ ∧
      (r.2.map Prod.snd).filterMap Call.parsedData = frames [] false data ∧
      (r.2.map Prod.snd).filterMap Call.boundary =
        (agg.2.filterMap SectorWrite.committed).map Reading.sector := by
  intro r xs agg
  obtain ⟨h1, h2, h3, h4⟩ := feed_session P t2 t3 info data hlen hhead
  obtain ⟨a1, a2⟩ := absorb_sectors P SampleState.initial (frames [] false data)
  set F := feed P (Decoder.afterReset t2) ((info ++ scanDescriptor ++ data).map fun c => (t3, c))
  have ht := tick_of_initialised P
    (show ({ decoder := Decoder.afterReset t2, initialised := true, sectorInitialised := true
             status := .noData, rx := [] } : Driver).initialised = true from rfl) rfl t3
    (info ++ scanDescriptor ++ data)
  have hr : r = ({ decoder := F.1, initialised := true, sectorInitialised := true
                   status := statusAt t3 F.1.lastDistanceReceivedMs, rx := [] },
                 (t2, .write rplidarCmdReset) :: F.2.map fun x => (t3, x)) := by
    rw [show r = run P Driver.construct
      ([(t1, []), (t2, [])] ++ [(t3, info ++ scanDescriptor ++ data)]) from rfl, run_append,
      run_initialise]
    simp only [run, ht, List.append_nil]
    rfl
  rw [hr]
  refine ⟨h1, ?_, h3.trans a1, ?_, ?_⟩
  · show statusAt t3 F.1.lastDistanceReceivedMs = .good
    rw [h2, statusAt, if_neg (by simp [millisSince_self]; omega)]
  · simp only [List.map_cons, List.map_map, Function.comp_def, List.map_id', h4,
      List.filterMap_cons, Call.parsedData, List.filterMap_append, absorb_parsedData]
    rfl
  · simp only [List.map_cons, List.map_map, Function.comp_def, List.map_id', h4,
      List.filterMap_cons, Call.boundary, List.filterMap_append, a2]
    rfl

/-- A device-information block of {lit}`52` and 62 bytes {lit}`00`, the scan
descriptor and one scan frame, read at 3 ms. -/
theorem run_session_frame :
    (0x52 :: List.replicate 62 0 : List UInt8).length = 63 ∧
      (0x52 :: List.replicate 62 0 : List UInt8).head? = some 0x52 ∧ 0 < 3 ∧
      (run Params.plain Driver.construct [(1, []), (2, []),
        (3, (0x52 :: List.replicate 62 0) ++ scanDescriptor ++ [0x3E, 0x01, 0x80, 0x10, 0x27])]).1.status =
        .good :=
  ⟨rfl, rfl, by decide, (run_session Params.plain 1 2 3 (0x52 :: List.replicate 62 0)
    [0x3E, 0x01, 0x80, 0x10, 0x27] rfl rfl (by decide)).2.1⟩

end RPLidarA2
