import RPLidarA2.Framing
import RPLidarA2.Handshake
import Mathlib.Data.List.Sort

/-!
# RPLIDAR A2 driver - Timeouts and the reported status

Two clocks steer the driver.  {lit}`update` reports {lit}`Proximity_Good` while
{lit}`_last_distance_received_ms` is nonzero and at most
{lit}`COMM_ACTIVITY_TIMEOUT_MS` back, and {lit}`rp_measurements` resets the lidar
when a sync error has lasted {lit}`RESYNC_TIMEOUT` since that time.  Both are
read only when {lit}`update` runs, and the second only when a byte arrives.

This module follows {lit}`_last_distance_received_ms` through every run: it is
the clock of the last call that hands a valid sample or a recognised descriptor
to a parser.

Main results:

- Theorem {lit}`silent_sync_error_no_reset`: a lidar that falls silent during a
  sync error is never reset.
- Theorem {lit}`run_lastDistance`: along every run, the time of the last distance
  is the clock of the last refreshing call.
- Theorem {lit}`run_status_fresh`: at nondecreasing positive clocks, the status is
  Good exactly when a valid sample or a recognised descriptor was handed to a
  parser at most 200 ms before.
- Theorem {lit}`status_good_without_sample`: a scan descriptor alone makes the
  status Good, although {lit}`_last_distance_received_ms` is documented as the
  time of the last distance measurement.
-/

namespace RPLidarA2

/-! ## A silent lidar -/

/-- A scan descriptor at 3 ms followed by a sample that fails the start/check-bit
test raises a sync error; when the lidar then falls silent, the update at
6000 ms finds the last distance and the last reset both more than
{lit}`RESYNC_TIMEOUT` back, and the only reset of the run is the one of
{lit}`initialise`. -/
theorem silent_sync_error_no_reset :
    let r : Driver × List (Nat × Call) := run Params.plain Driver.construct
      [(1, []), (2, []), (3, List.replicate 7 0 ++ scanDescriptor ++ List.replicate 5 0), (6000, [])]
    r.1.decoder.rpState = .rpMeasurements ∧ r.1.decoder.syncError = 1 ∧
      millisSince 6000 r.1.decoder.lastDistanceReceivedMs > resyncTimeout ∧
      millisSince 6000 r.1.decoder.lastResetMs > resyncTimeout ∧
      (r.2.filter fun x => x.2 == .write rplidarCmdReset) = [(2, .write rplidarCmdReset)] := by
  decide

/-! ## The time of the last distance -/

/-- A call after which {lit}`_last_distance_received_ms` holds the clock: a
recognised descriptor, or a scan payload that passes the start/check-bit test. -/
def Call.refreshes : Call → Bool
  | .parseDescriptor d => d == scanDescriptor || d == healthDescriptor
  | .parseData p => chunkValid p
  | _ => false

/-- The clock of the last refreshing call of a trace, {lit}`since` when there is
none. -/
def lastRefresh (since : Nat) (trace : List (Nat × Call)) : Nat :=
  trace.foldl (fun acc x => if x.2.refreshes then x.1 else acc) since

/-- A step that sets {lit}`_last_distance_received_ms` to the clock exactly when
it makes a refreshing call. -/
def Refreshed (now since : Nat) (r : Decoder × List Call) : Prop :=
  r.1.lastDistanceReceivedMs = if r.2.any Call.refreshes then now else since

/-- A boundary update does not refresh the time of the last distance. -/
theorem SectorWrite.calls_refreshes (w : Option SectorWrite) :
    (SectorWrite.calls w).any Call.refreshes = false := by
  unfold SectorWrite.calls
  split <;> rfl

/-- A buffer write does not refresh the time of the last distance. -/
theorem Buffer.check_refreshes (b : Buffer) (i : Nat) : (b.check i).any Call.refreshes = false := by
  unfold Buffer.check
  split <;> rfl

/-- A five-byte payload passes the test exactly when its sample does. -/
theorem chunkValid_range_map (f : Nat → UInt8) :
    chunkValid ((List.range 5).map f) = (SensorScan.ofBytes f).valid := by
  rw [chunkValid, SensorScan.ofBytes_congr fun i hi => bytesAt_range_map f hi]

/-- {lit}`parse_response_descriptor` sets the time of the last distance on the scan
and the health templates. -/
theorem parseResponseDescriptor_lastDistance (now : Nat) (s : Decoder) :
    (parseResponseDescriptor now s).lastDistanceReceivedMs =
      if s.descriptorBytes = scanDescriptor then now
      else if s.descriptorBytes = healthDescriptor then now
      else s.lastDistanceReceivedMs := by
  simp only [parseResponseDescriptor, Decoder.descriptorBytes_eq, scanDescriptor,
    healthDescriptor, List.cons.injEq, and_true, rplidarPreamble]
  split_ifs <;> simp_all

section Steps

variable {P : Params} {now : Nat} {s : Decoder} {c : UInt8}

/-- The {lit}`rp_resetted` handler never refreshes the time of the last distance. -/
theorem onResetted_refreshed : Refreshed now s.lastDistanceReceivedMs (onResetted s c) := by
  unfold onResetted
  split_ifs <;> simp [Refreshed, setScanMode, Buffer.check_refreshes, Call.refreshes]

/-- The {lit}`rp_responding` handler refreshes the time of the last distance exactly
when it completes a recognised descriptor. -/
theorem onResponding_refreshed (hbc : s.byteCount < 7) :
    Refreshed now s.lastDistanceReceivedMs (onResponding now s c) := by
  by_cases ha : c = rplidarPreamble ∨ s.descriptorData = true
  · by_cases h6 : s.byteCount = 6
    · rw [onResponding_complete ha h6]
      simp only [Refreshed, parseResponseDescriptor_lastDistance, List.any_cons, List.any_nil,
        Call.refreshes, Bool.or_false]
      split_ifs <;> simp_all [Decoder.descriptorBytes]
    · rw [onResponding_collect ha (by omega)]
      simp [Refreshed]
  · rw [onResponding_reject ha]
    simp [Refreshed]

/-- A payload byte refreshes the time of the last distance exactly when it completes
a valid sample. -/
theorem storePayload_refreshed (hpl : s.payloadLength = 5) (hrt : s.responseType = .scan)
    (hbc : s.byteCount < 5) : Refreshed now s.lastDistanceReceivedMs (storePayload P now s c) := by
  by_cases hfull : s.byteCount + 1 = s.payloadLength
  · rw [storePayload_full hbc hfull]
    simp only [Refreshed, parseResponseData, hrt, Decoder.payloadBytes, hpl]
    rcases Bool.eq_false_or_eq_true (SensorScan.ofBytes (Function.update s.payload s.byteCount c)).valid
      with hv | hv <;>
      simp [hv, Call.refreshes, chunkValid_range_map, SampleState.sample, SectorWrite.calls_refreshes]
  · rw [storePayload_incomplete hbc hfull]
    simp [Refreshed]

/-- The {lit}`rp_measurements` handler refreshes the time of the last distance exactly
when it completes a valid sample. -/
theorem onMeasurements_refreshed (h : Inv s) (hs : s.rpState = .rpMeasurements) :
    Refreshed now s.lastDistanceReceivedMs (onMeasurements P now s c) := by
  have hst := h.state
  simp only [StateInv, hs] at hst
  obtain ⟨hpl, hrt, hbc, -⟩ := hst
  by_cases hse : s.syncError = 0
  · rw [onMeasurements_store hse]
    exact storePayload_refreshed hpl hrt hbc
  cases hc : isResyncByte c
  · by_cases ht : millisSince now s.lastDistanceReceivedMs > resyncTimeout
    · rw [onMeasurements_timeout hse hc ht]
      simp [Refreshed, resetRplidar, Call.refreshes]
    · rw [onMeasurements_wait hse hc ht]
      simp [Refreshed]
  · rw [onMeasurements_resync hse hc]
    exact storePayload_refreshed hpl hrt hbc

/-- The {lit}`rp_unknown` handler refreshes the time of the last distance exactly when
it completes a recognised descriptor. -/
theorem onUnknown_refreshed (h : Inv s) (hs : s.rpState = .rpUnknown) :
    Refreshed now s.lastDistanceReceivedMs (onUnknown now s c) := by
  have hbc : s.byteCount = 0 := by simpa [StateInv, hs] using h.state
  by_cases hc : c = rplidarPreamble
  · rw [onUnknown_preamble hc]
    exact onResponding_refreshed (by simp [hbc])
  by_cases h10 : s.cnt = 10
  · rw [onUnknown_reset hc h10]
    simp [Refreshed, Call.refreshes]
  · rw [onUnknown_count hc (by have := h.cnt_le; omega)]
    simp [Refreshed]

end Steps

/-- One byte moves the time of the last distance to its clock exactly when it
completes a recognised descriptor or a valid sample. -/
theorem stepByte_refreshed (P : Params) (now : Nat) {s : Decoder} (c : UInt8) (h : Inv s) :
    Refreshed now s.lastDistanceReceivedMs (stepByte P now s c) := by
  cases hs : s.rpState with
  | rpUnknown => rw [stepByte_unknown hs]; exact onUnknown_refreshed h hs
  | rpResetted => rw [stepByte_resetted hs]; exact onResetted_refreshed
  | rpResponding =>
    rw [stepByte_responding hs]
    exact onResponding_refreshed (by have := h.state; simp only [StateInv, hs] at this; omega)
  | rpMeasurements => rw [stepByte_measurements hs]; exact onMeasurements_refreshed h hs
  | rpHealth => rw [stepByte_health hs]; simp [Refreshed]

/-- Bytes read at one clock refresh the time of the last distance exactly when one
of them completes a recognised descriptor or a valid sample. -/
theorem feed_refreshed (P : Params) (now : Nat) {s : Decoder} (h : Inv s) (cs : List UInt8) :
    Refreshed now s.lastDistanceReceivedMs (feed P s (cs.map fun c => (now, c))) := by
  induction cs generalizing s with
  | nil => simp [Refreshed]
  | cons c cs ih =>
    have h1 := stepByte_refreshed P now c h
    have h2 := ih (stepByte_safe P now c h).1
    simp only [Refreshed, List.map_cons, feed_cons, List.any_append] at h1 h2 ⊢
    rw [h2, h1]
    cases (stepByte P now s c).2.any Call.refreshes <;> simp

/-- One update moves the time of the last distance to its clock exactly when it
makes a refreshing call. -/
theorem update_refreshed (P : Params) (now : Nat) {s : Driver} (h : DriverInv s) :
    (update P now s).1.decoder.lastDistanceReceivedMs =
      if (update P now s).2.any Call.refreshes then now else s.decoder.lastDistanceReceivedMs := by
  cases hi : s.initialised
  · cases hsec : s.sectorInitialised
    · simp [update_first hi hsec]
    · have hbc : s.decoder.byteCount = 0 := by simpa [StateInv, h.fresh hi] using h.decoder.state
      rw [update_reset hi hsec]
      simpa [Refreshed, getReadings, Call.refreshes, resetRplidar] using
        feed_refreshed P now (resetRplidar_safe now h.decoder hbc).1 s.rx
  · rw [update_of_initialised hi]
    exact feed_refreshed P now h.decoder s.rx

/-- The last refresh of a trace split anywhere. -/
theorem lastRefresh_append (since : Nat) (a b : List (Nat × Call)) :
    lastRefresh since (a ++ b) = lastRefresh (lastRefresh since a) b :=
  List.foldl_append _ _ _ _

/-- The last refresh of calls made at one clock. -/
theorem lastRefresh_map_clock (since now : Nat) (l : List Call) :
    lastRefresh since (l.map fun c => (now, c)) = if l.any Call.refreshes then now else since := by
  induction l generalizing since with
  | nil => rfl
  | cons c l ih =>
    simp only [lastRefresh, List.map_cons, List.foldl_cons] at ih ⊢
    rw [ih, List.any_cons]
    cases c.refreshes <;> simp

/-- One update call, as a trace tagged with its clock. -/
theorem tick_refreshed (P : Params) {s : Driver} (h : DriverInv s) (t : Nat × List UInt8) :
    (tick P s t).1.decoder.lastDistanceReceivedMs =
      lastRefresh s.decoder.lastDistanceReceivedMs ((tick P s t).2.map (t.1, ·)) := by
  rw [lastRefresh_map_clock]
  exact update_refreshed P t.1 ⟨h.decoder, h.fresh⟩

/-- Along every run from a driver satisfying the invariant,
{lit}`_last_distance_received_ms` is the clock of the last refreshing call. -/
theorem run_lastDistance (P : Params) {s : Driver} (h : DriverInv s)
    (ts : List (Nat × List UInt8)) :
    (run P s ts).1.decoder.lastDistanceReceivedMs =
      lastRefresh s.decoder.lastDistanceReceivedMs (run P s ts).2 := by
  induction ts generalizing s with
  | nil => rfl
  | cons t ts ih =>
    obtain ⟨h1, -⟩ := update_safe P t.1 (⟨h.decoder, h.fresh⟩ : DriverInv { s with rx := s.rx ++ t.2 })
    show (run P (tick P s t).1 ts).1.decoder.lastDistanceReceivedMs =
      lastRefresh s.decoder.lastDistanceReceivedMs
        ((tick P s t).2.map (t.1, ·) ++ (run P (tick P s t).1 ts).2)
    rw [lastRefresh_append, ← tick_refreshed P h t]
    exact ih h1

/-! ## The reported status -/

/-- A run may be split between any two updates. -/
theorem run_append (P : Params) (s : Driver) (ts us : List (Nat × List UInt8)) :
    run P s (ts ++ us) =
      ((run P (run P s ts).1 us).1, (run P s ts).2 ++ (run P (run P s ts).1 us).2) := by
  induction ts generalizing s with
  | nil => rfl
  | cons t ts ih => simp [run, ih]

/-- Every call of a run is tagged with the clock of one of its updates. -/
theorem run_clock_mem (P : Params) (s : Driver) (ts : List (Nat × List UInt8)) :
    ∀ x ∈ (run P s ts).2, x.1 ∈ ts.map Prod.fst := by
  induction ts generalizing s with
  | nil => simp [run]
  | cons t ts ih =>
    simp only [run, List.mem_append, List.map_cons, List.mem_cons]
    rintro x (hx | hx)
    · obtain ⟨c, -, rfl⟩ := List.mem_map.1 hx
      exact .inl rfl
    · exact .inr (ih _ x hx)

/-- The last refreshing call is one of the trace's. -/
theorem lastRefresh_cases (since : Nat) (trace : List (Nat × Call)) :
    lastRefresh since trace = since ∨
      ∃ x ∈ trace, x.2.refreshes = true ∧ x.1 = lastRefresh since trace := by
  induction trace generalizing since with
  | nil => exact .inl rfl
  | cons x trace ih =>
    simp only [lastRefresh, List.foldl_cons, List.mem_cons] at ih ⊢
    split
    · rcases ih x.1 with h | ⟨y, hy, hr, he⟩
      · exact .inr ⟨x, .inl rfl, ‹_›, h.symm⟩
      · exact .inr ⟨y, .inr hy, hr, he⟩
    · rcases ih since with h | ⟨y, hy, hr, he⟩
      · exact .inl h
      · exact .inr ⟨y, .inr hy, hr, he⟩

/-- On a trace at clocks from {lit}`since` on, the last refresh is not before it. -/
theorem le_lastRefresh {since : Nat} {trace : List (Nat × Call)} (h : ∀ x ∈ trace, since ≤ x.1) :
    since ≤ lastRefresh since trace := by
  rcases lastRefresh_cases since trace with h0 | ⟨x, hx, -, hxl⟩
  · exact h0.ge
  · exact hxl ▸ h x hx

/-- At nondecreasing clocks, every refreshing call of a run lies at or before the
last one. -/
theorem run_le_lastRefresh (P : Params) (ts : List (Nat × List UInt8))
    (hsorted : (ts.map Prod.fst).Sorted (· ≤ ·)) (s : Driver) (since : Nat) :
    ∀ x ∈ (run P s ts).2, x.2.refreshes = true → x.1 ≤ lastRefresh since (run P s ts).2 := by
  induction ts generalizing s since with
  | nil => simp [run]
  | cons t ts ih =>
    simp only [List.map_cons, List.sorted_cons, List.mem_map] at hsorted
    simp only [run, lastRefresh_append, lastRefresh_map_clock, List.mem_append, List.mem_map]
    rintro x (⟨c, hc, rfl⟩ | hx) hr
    · have hany : (tick P s t).2.any Call.refreshes = true := List.any_eq_true.2 ⟨c, hc, hr⟩
      rw [hany, if_pos rfl]
      exact le_lastRefresh fun y hy => by
        obtain ⟨u, hu, hut⟩ := List.mem_map.1 (run_clock_mem P _ ts y hy)
        exact hut ▸ hsorted.1 _ ⟨u, hu, rfl⟩
    · exact ih hsorted.2 _ _ x hx hr

/-- The status is Good exactly when a distance was received and is at most
{lit}`COMM_ACTIVITY_TIMEOUT_MS` old. -/
theorem statusAt_good {now since : Nat} :
    statusAt now since = .good ↔ since ≠ 0 ∧ ¬millisSince now since > commActivityTimeoutMs := by
  unfold statusAt
  split_ifs with h
  · exact ⟨nofun, fun h' => absurd h (by omega)⟩
  · exact ⟨fun _ => by omega, fun _ => rfl⟩

/-- On a trace whose clocks are positive and at most {lit}`now`, and whose
refreshing calls all lie at or before the last one, the status computed from the
last refresh is {lit}`Proximity_Good` exactly when a refreshing call lies at most
{lit}`COMM_ACTIVITY_TIMEOUT_MS` back. -/
theorem statusAt_lastRefresh {now : Nat} {trace : List (Nat × Call)}
    (hclock : ∀ x ∈ trace, 0 < x.1 ∧ x.1 ≤ now)
    (hge : ∀ x ∈ trace, x.2.refreshes = true → x.1 ≤ lastRefresh 0 trace) (hwrap : now < 2 ^ 32) :
    statusAt now (lastRefresh 0 trace) = .good ↔
      ∃ x ∈ trace, x.2.refreshes = true ∧ now - x.1 ≤ commActivityTimeoutMs := by
  rw [statusAt_good]
  rcases lastRefresh_cases 0 trace with h0 | ⟨x, hx, hrx, hxl⟩
  · rw [h0]
    refine ⟨fun h => absurd rfl h.1, fun ⟨x, hx, hrx, _⟩ => ?_⟩
    have := hge x hx hrx
    have := (hclock x hx).1
    omega
  · rw [← hxl, millisSince_of_le (hclock x hx).2 hwrap]
    refine ⟨fun h => ⟨x, hx, hrx, by simpa [commActivityTimeoutMs] using h.2⟩,
      fun ⟨y, hy, hry, hly⟩ => ⟨(hclock x hx).1.ne', ?_⟩⟩
    have := hge y hy hry
    rw [← hxl] at this
    simp only [commActivityTimeoutMs] at hly ⊢
    omega

/-- At positive nondecreasing clocks ending at {lit}`now`, every call of the run
is tagged with a clock in {lit}`(0, now]`. -/
theorem run_clock_bounds (P : Params) (ticks : List (Nat × List UInt8)) (now : Nat)
    (bs : List UInt8) (hpos : ∀ t ∈ ticks, 0 < t.1) (hnow : 0 < now)
    (hsorted : (ticks.map Prod.fst ++ [now]).Sorted (· ≤ ·)) :
    ∀ x ∈ (run P Driver.construct (ticks ++ [(now, bs)])).2, 0 < x.1 ∧ x.1 ≤ now := by
  intro x hx
  have hmem := run_clock_mem P _ _ x hx
  rw [List.map_append, List.mem_append] at hmem
  rw [List.Sorted, List.pairwise_append] at hsorted
  rcases hmem with hm | hm
  · obtain ⟨t, ht, hteq⟩ := List.mem_map.1 hm
    exact ⟨hteq ▸ hpos t ht, hsorted.2.2 _ hm _ (List.mem_singleton_self _)⟩
  · rw [List.mem_singleton.1 hm]
    exact ⟨hnow, le_rfl⟩

/-- At positive, nondecreasing clocks below {lit}`2^32`, the status an update
reports is Good exactly when a valid scan sample or a recognised descriptor was
handed to a parser at most {lit}`COMM_ACTIVITY_TIMEOUT_MS` before. -/
theorem run_status_fresh (P : Params) (ticks : List (Nat × List UInt8)) (now : Nat)
    (bs : List UInt8) (hpos : ∀ t ∈ ticks, 0 < t.1) (hnow : 0 < now)
    (hsorted : (ticks.map Prod.fst ++ [now]).Sorted (· ≤ ·)) (hwrap : now < 2 ^ 32) :
    (run P Driver.construct (ticks ++ [(now, bs)])).1.status = .good ↔
      ∃ x ∈ (run P Driver.construct (ticks ++ [(now, bs)])).2, x.2.refreshes = true ∧
        now - x.1 ≤ commActivityTimeoutMs := by
  have hge := run_le_lastRefresh P (ticks ++ [(now, bs)])
    (by simpa only [List.map_append, List.map_cons, List.map_nil] using hsorted) Driver.construct 0
  have hlast : lastRefresh 0 (run P Driver.construct (ticks ++ [(now, bs)])).2 =
      (run P Driver.construct (ticks ++ [(now, bs)])).1.decoder.lastDistanceReceivedMs :=
    (run_lastDistance P DriverInv.construct _).symm
  have hstatus : (run P Driver.construct (ticks ++ [(now, bs)])).1.status =
      statusAt now (lastRefresh 0 (run P Driver.construct (ticks ++ [(now, bs)])).2) := by
    rw [hlast, run_append]
    rfl
  rw [hstatus]
  exact statusAt_lastRefresh (run_clock_bounds P ticks now bs hpos hnow hsorted) hge hwrap

/-- A scan descriptor completed at 3 ms, after the two updates of
{lit}`initialise`. -/
theorem run_status_fresh_descriptor :
    (∀ t ∈ [(1, ([] : List UInt8)), (2, [])], 0 < t.1) ∧ 0 < 3 ∧
      (([(1, ([] : List UInt8)), (2, [])].map Prod.fst ++ [3]).Sorted (· ≤ ·)) ∧ 3 < 2 ^ 32 ∧
      ((run Params.plain Driver.construct
          ([(1, []), (2, [])] ++ [(3, List.replicate 7 0 ++ scanDescriptor)])).1.status = .good ↔
        ∃ x ∈ (run Params.plain Driver.construct
          ([(1, []), (2, [])] ++ [(3, List.replicate 7 0 ++ scanDescriptor)])).2,
          x.2.refreshes = true ∧ 3 - x.1 ≤ commActivityTimeoutMs) :=
  ⟨by decide, by decide, by decide, by decide,
    run_status_fresh Params.plain [(1, []), (2, [])] 3 _ (by decide) (by decide) (by decide)
      (by decide)⟩

/-- A call that hands a scan sample passing the start/check-bit test to
{lit}`parse_response_data`. -/
def Call.isValidSample : Call → Bool
  | .parseData p => chunkValid p
  | _ => false

/-- The health flag as the specification states it: at positive, nondecreasing
clocks below {lit}`2^32`, Good exactly when a valid scan sample was decoded at
most {lit}`COMM_ACTIVITY_TIMEOUT_MS` before. -/
def StatusFreshFromSamples (P : Params) : Prop :=
  ∀ (ticks : List (Nat × List UInt8)) (now : Nat) (bs : List UInt8),
    (∀ t ∈ ticks, 0 < t.1) → 0 < now → (ticks.map Prod.fst ++ [now]).Sorted (· ≤ ·) →
    now < 2 ^ 32 →
    ((run P Driver.construct (ticks ++ [(now, bs)])).1.status = .good ↔
      ∃ x ∈ (run P Driver.construct (ticks ++ [(now, bs)])).2, x.2.isValidSample = true ∧
        now - x.1 ≤ commActivityTimeoutMs)

/-- Seven stray bytes and a scan descriptor at 3 ms, and no sample: the update at
3 ms reports Good. -/
theorem status_good_without_sample : ¬ StatusFreshFromSamples Params.plain := by
  intro h
  have := h [(1, []), (2, [])] 3 (List.replicate 7 0 ++ scanDescriptor) (by decide) (by decide)
    (by decide) (by decide)
  revert this
  decide

end RPLidarA2
