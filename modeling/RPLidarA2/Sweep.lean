import RPLidarA2.Obstacle

/-!
# RPLIDAR A2 driver - What the obstacle estimators hold over a sweep

The estimators of {lit}`parse_response_data` keep no list of rays, only a flag
({lit}`point_front_find`, {lit}`point_back_find`) and the first and last ray
recorded under it.  This module says which rays those are after any sequence of
valid samples.  A sample either lies in the estimator's window, lies where it
evaluates (below 60° in front, beyond 180° behind), or clears the flag (every
other angle, including the angles beyond 360° a 15-bit {lit}`angle_q6` can carry).
The window then holds the samples at 0.5 m or more inside it since the last
sample that cleared it, and every evaluation projects the first and the last of
them.

Main results:

- Theorem {lit}`obstacle_windows_held`: after every sequence of valid samples
  from the initial globals, each estimator's flag is set exactly when it has such
  a sample, and its first and last rays are the first and last of them.
- Theorem {lit}`obstacle_evaluations`: every evaluation projects the first and
  the last of these samples, and without one only sets
  {lit}`distance_object` to 133.
-/

namespace RPLidarA2

/-! ## The rays of the current sweep -/

/-- The front window, 270° to 360°. -/
def frontIn (a : ℚ) : Bool := decide (270 ≤ a ∧ a ≤ 360)

/-- The angles at which the front estimator drops its window: outside it and not
below 60°. -/
def frontClears (a : ℚ) : Bool := !frontIn a && !decide (a < 60)

/-- The back window, 90° to 180°. -/
def backIn (a : ℚ) : Bool := decide (90 ≤ a ∧ a ≤ 180)

/-- The angles at which the back estimator drops its window: outside it and not
beyond 180°. -/
def backClears (a : ℚ) : Bool := !backIn a && !decide (180 < a)

/-- The samples after the last one that clears a window. -/
def sinceLast (clears : ℚ → Bool) (xs : List (ℚ × ℚ)) : List (ℚ × ℚ) :=
  (xs.reverse.takeWhile fun x => !clears x.1).reverse

/-- The rays of the current sweep: the samples at 0.5 m or more inside the window
since the last sample that clears it, in stream order. -/
def heldRays (inWindow clears : ℚ → Bool) (xs : List (ℚ × ℚ)) : List Ray :=
  ((sinceLast clears xs).filter fun x => inWindow x.1 && decide (1 / 2 ≤ x.2)).map
    fun x => ⟨x.1, x.2⟩

/-- The rays of the current sweep after one more sample. -/
def heldStep (inWindow clears : ℚ → Bool) (rays : List Ray) (x : ℚ × ℚ) : List Ray :=
  if clears x.1 then []
  else if inWindow x.1 && decide (1 / 2 ≤ x.2) then rays ++ [⟨x.1, x.2⟩] else rays

/-- The rays of the current sweep after one more sample. -/
theorem heldRays_append (inWindow clears : ℚ → Bool) (xs : List (ℚ × ℚ)) (x : ℚ × ℚ) :
    heldRays inWindow clears (xs ++ [x]) = heldStep inWindow clears (heldRays inWindow clears xs) x := by
  unfold heldRays heldStep sinceLast
  rw [List.reverse_concat, List.takeWhile_cons]
  cases clears x.1
  · simp only [Bool.not_false, if_true, List.reverse_cons, List.filter_append, List.map_append,
      List.filter_cons, List.filter_nil]
    cases inWindow x.1 && decide (1 / 2 ≤ x.2) <;> simp
  · rfl

/-! ## Windows holding the rays -/

/-- A window holds a list of rays: its flag is set exactly when the list is not
empty, and then its first and last rays are the list's first and last. -/
def Window.Holds (w : Window) : List Ray → Prop
  | [] => w.pointFind = false
  | r :: rs => w.pointFind = true ∧ w.first = r ∧ w.last = (r :: rs).getLast (List.cons_ne_nil r rs)

/-- Holding rays depends only on the flag and the two rays. -/
theorem Window.Holds.congr {w w' : Window} {rays : List Ray} (h : w.Holds rays)
    (hp : w'.pointFind = w.pointFind) (hf : w'.first = w.first) (hl : w'.last = w.last) :
    w'.Holds rays := by
  cases rays with
  | nil => exact hp.trans h
  | cons r rs => exact ⟨hp.trans h.1, hf.trans h.2.1, hl.trans h.2.2⟩

/-- Recording a ray appends it to the held rays when it is at 0.5 m or more. -/
theorem Window.Holds.record {w : Window} {rays : List Ray} (h : w.Holds rays) (r : Ray) :
    (w.record r).Holds (if decide (1 / 2 ≤ r.distance) then rays ++ [r] else rays) := by
  unfold Window.record
  by_cases hd : 1 / 2 ≤ r.distance
  · simp only [ge_iff_le, hd, if_true, decide_True]
    cases rays with
    | nil => exact ⟨rfl, by simp [show w.pointFind = false from h], rfl⟩
    | cons r0 rs =>
      refine ⟨rfl, by simp [h.1, h.2.1], ?_⟩
      simp only [List.cons_append]
      exact (List.getLast_concat (r0 :: rs)).symm
  · simpa only [ge_iff_le, hd, if_false, decide_False, Bool.false_eq_true] using h

/-- An estimator step that keeps the held rays of its sweep. -/
def KeepsSweep (inWindow clears : ℚ → Bool) (step : Window → ℚ × ℚ → Window) : Prop :=
  ∀ w rays x, w.Holds rays → (step w x).Holds (heldStep inWindow clears rays x)

/-- Over a whole sequence, from the initial globals, such a step holds the rays of
the current sweep. -/
theorem Window.holds_foldl {inWindow clears : ℚ → Bool} {step : Window → ℚ × ℚ → Window}
    (hstep : KeepsSweep inWindow clears step) (xs : List (ℚ × ℚ)) :
    (xs.foldl step Window.initial).Holds (heldRays inWindow clears xs) := by
  induction xs using List.reverseRecOn with
  | nil => rfl
  | append_singleton xs x ih =>
    rw [List.foldl_concat, heldRays_append]
    exact hstep _ _ x ih

/-! ## The two estimators -/

/-- The front estimator keeps the rays of its sweep. -/
theorem frontObstacle_keepsSweep (trig : Trig) :
    KeepsSweep frontIn frontClears fun w x => frontObstacle trig w x.1 x.2 := by
  intro w rays x h
  unfold frontObstacle heldStep frontClears frontIn
  by_cases hin : 270 ≤ x.1 ∧ x.1 ≤ 360
  · simpa [hin] using h.record ⟨x.1, x.2⟩
  by_cases hlt : x.1 < 60
  · simp only [ge_iff_le, hin, hlt, if_false, if_true, decide_False, decide_True, Bool.not_true,
      Bool.and_false, Bool.false_and]
    split <;> exact h.congr (by simp) (by simp) (by simp)
  · simp [hin, hlt, Window.Holds]

/-- The back estimator keeps the rays of its sweep. -/
theorem backObstacle_keepsSweep (trig : Trig) :
    KeepsSweep backIn backClears fun w x => backObstacle trig w x.1 x.2 := by
  intro w rays x h
  unfold backObstacle heldStep backClears backIn
  by_cases hin : 90 ≤ x.1 ∧ x.1 ≤ 180
  · simpa [hin] using h.record ⟨x.1, x.2⟩
  by_cases hgt : 180 < x.1
  · simp only [ge_iff_le, hin, hgt, if_false, if_true, decide_False, decide_True, Bool.not_true,
      Bool.and_false, Bool.false_and]
    split <;> exact h.congr (by simp) (by simp) (by simp)
  · simp [hin, hgt, Window.Holds]

/-- Over any sample sequence, the front window holds the rays of its sweep. -/
theorem frontRun_holds (trig : Trig) (xs : List (ℚ × ℚ)) :
    (frontRun trig xs).Holds (heldRays frontIn frontClears xs) :=
  Window.holds_foldl (frontObstacle_keepsSweep trig) xs

/-- Over any sample sequence, the back window holds the rays of its sweep. -/
theorem backRun_holds (trig : Trig) (xs : List (ℚ × ℚ)) :
    (backRun trig xs).Holds (heldRays backIn backClears xs) :=
  Window.holds_foldl (backObstacle_keepsSweep trig) xs

/-- After every sequence of valid samples from the initial globals, each
estimator's flag is set exactly when a sample since the last one that clears its
window lies in the window at 0.5 m or more, and its first and last rays are the
first and last such samples. -/
theorem obstacle_windows_held (trig : Trig) (xs : List (ℚ × ℚ)) :
    (frontRun trig xs).Holds (heldRays frontIn frontClears xs) ∧
      (backRun trig xs).Holds (heldRays backIn backClears xs) :=
  ⟨frontRun_holds trig xs, backRun_holds trig xs⟩

/-! ## What an evaluation projects -/

/-- Every evaluation projects the first and the last ray of the current sweep, and
without one only sets {lit}`distance_object` to 133. -/
theorem obstacle_evaluations (trig : Trig) (xs : List (ℚ × ℚ)) (a d : ℚ) :
    (a < 60 → frontObstacle trig (frontRun trig xs) a d =
      match heldRays frontIn frontClears xs with
      | [] => { frontRun trig xs with distanceObject := 133 }
      | r :: rs => (frontRun trig xs).evaluate trig 315 r
          ((r :: rs).getLast (List.cons_ne_nil r rs)) frontCommand) ∧
    (180 < a → backObstacle trig (backRun trig xs) a d =
      match heldRays backIn backClears xs with
      | [] => { backRun trig xs with distanceObject := 133 }
      | r :: rs => (backRun trig xs).evaluate trig 135
          ((r :: rs).getLast (List.cons_ne_nil r rs)) r backCommand) := by
  refine ⟨fun ha => ?_, fun ha => ?_⟩
  · have h := frontRun_holds trig xs
    generalize heldRays frontIn frontClears xs = rays at h ⊢
    cases rays with
    | nil =>
      have hin : ¬(a ≥ 270 ∧ a ≤ 360) := fun h => by linarith [h.1]
      simp [frontObstacle, hin, ha, show (frontRun trig xs).pointFind = false from h]
    | cons r rs => rw [frontObstacle_of_lt ha h.1, h.2.1, h.2.2]
  · have h := backRun_holds trig xs
    generalize heldRays backIn backClears xs = rays at h ⊢
    cases rays with
    | nil =>
      have hin : ¬(a ≥ 90 ∧ a ≤ 180) := fun h => by linarith [h.2]
      simp [backObstacle, hin, ha, show (backRun trig xs).pointFind = false from h]
    | cons r rs => rw [backObstacle_of_gt ha h.1, h.2.1, h.2.2]

/-- A front sweep cleared by a sample at 100° and refilled at 280° and 350° is
evaluated at 10° on the rays of the refill. -/
theorem obstacle_evaluations_refill :
    (10 : ℚ) < 60 ∧
      frontObstacle Trig.linear (frontRun Trig.linear [(300, 1), (100, 1), (280, 1), (350, 2)]) 10 1 =
        (frontRun Trig.linear [(300, 1), (100, 1), (280, 1), (350, 2)]).evaluate Trig.linear 315
          ⟨280, 1⟩ ⟨350, 2⟩ frontCommand := by
  have hheld : heldRays frontIn frontClears [(300, 1), (100, 1), (280, 1), (350, 2)] =
      [⟨280, 1⟩, ⟨350, 2⟩] := by
    norm_num [heldRays, sinceLast, frontClears, frontIn]
  have h := (obstacle_evaluations Trig.linear [(300, 1), (100, 1), (280, 1), (350, 2)] 10 1).1
    (by norm_num)
  rw [hheld] at h
  exact ⟨by norm_num, h⟩

end RPLidarA2
