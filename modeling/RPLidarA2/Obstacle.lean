import RPLidarA2.Protocol
import Mathlib.Data.Rat.Floor
import Mathlib.Data.Sign

/-!
# RPLIDAR A2 driver - Front and back obstacle estimators

Before the sector block, {lit}`parse_response_data` runs two heuristic
estimators on every valid sample.  Each records the first and the last ray at
0.5 m or more inside its sweep window (270° to 360° in front, 90° to 180°
behind).  Once the sweep has left the window (below 60° in front, beyond 180°
behind) it projects the two rays on the axis across the reference bearing (315°
and 135°), and, when the two lateral offsets differ, issues an avoidance
distance and direction.

The two estimators share their window bookkeeping ({lit}`Window.record`) and
their projection ({lit}`Window.evaluate`); they differ in which ray is called
left, in the comparison that starts the evaluation, and in the branches that
choose the command, so {lit}`frontCommand` and {lit}`backCommand` keep their own
bodies.  The single-precision {lit}`sinf` and {lit}`cosf`, and the {lit}`abs`
that a float argument resolves to, are parameters.

Main results:

- Theorem {lit}`frontRun_raysIn` and {lit}`backRun_raysIn`: whenever an
  estimator holds a window, both of its rays lie in the window at 0.5 m or more.
- Theorems {lit}`frontCommand_assigns` and {lit}`backCommand_assigns`: the sign
  patterns on which each branch list issues a command.
- Theorem {lit}`obstacle_commands_of_ordered`: with lateral offsets signed as the
  ray's offset from the reference bearing, an evaluation with distinct offsets
  issues a command whenever the window's rays are in sweep order and the last one
  is not on the reference bearing.
- Theorem {lit}`obstacle_command_missed`: a sweep whose last front ray lies
  exactly on 315° leaves the previous front command in place.
-/

namespace RPLidarA2

/-! ## Rays, windows and commands -/

/-- The floating-point library functions the estimators call: the
single-precision {lit}`sinf` and {lit}`cosf`, and {lit}`abs` on a float.  Which
{lit}`abs` that is depends on the headers in scope: the integer overload
truncates ({lit}`cAbs`), the floating-point one keeps the fraction. -/
structure Trig where
  sinf : ℚ → ℚ
  cosf : ℚ → ℚ
  abs : ℚ → ℚ

/-- {lit}`D2R`, degrees to radians as the source writes it. -/
def d2r : ℚ := 17453 / 1000000

/-- {lit}`abs` applied to a float through the integer overload, as the source's
comment notes: the magnitude truncated toward zero. -/
def cAbs (x : ℚ) : ℚ := ⌊|x|⌋

/-- A ray recorded by an estimator. -/
structure Ray where
  angle : ℚ
  distance : ℚ
deriving DecidableEq, Repr

/-- The globals {lit}`avoid_distance_*` and {lit}`avoid_direction_*`. -/
structure Command where
  avoidDistance : ℚ
  avoidDirection : ℚ
deriving DecidableEq, Repr

/-- The state of one estimator.  The front estimator calls its first ray
{lit}`*_left_front` and its last ray {lit}`*_right_front`; the back estimator calls
its first ray {lit}`*_right_back` and its last ray {lit}`*_left_back`. -/
structure Window where
  first : Ray
  last : Ray
  pointFind : Bool
  lLeft : ℚ
  lRight : ℚ
  distanceObject : ℚ
  command : Command
deriving DecidableEq, Repr

/-- Members and globals the constructor leaves zero. -/
def Window.initial : Window := ⟨⟨0, 0⟩, ⟨0, 0⟩, false, 0, 0, 0, ⟨0, 0⟩⟩

/-- A ray inside a window at 0.5 m or more becomes the first ray if none is
recorded and the last ray in any case. -/
def Window.record (w : Window) (r : Ray) : Window :=
  if r.distance ≥ 1 / 2 then
    { w with first := if w.pointFind then w.first else r, pointFind := true, last := r }
  else w

/-- {lit}`distant*sinf(D2R*(angle-reference))`. -/
def lateral (trig : Trig) (reference : ℚ) (r : Ray) : ℚ :=
  r.distance * trig.sinf (d2r * (r.angle - reference))

/-- {lit}`distant*cosf(D2R*(angle-reference))`. -/
def forward (trig : Trig) (reference : ℚ) (r : Ray) : ℚ :=
  r.distance * trig.cosf (d2r * (r.angle - reference))

/-- The projection both estimators make once the sweep has left the window: the
lateral offsets of the left and right rays, and, when they differ, the mean
clearance and the command chosen by {lit}`decide` with the library's {lit}`abs`. -/
def Window.evaluate (trig : Trig) (reference : ℚ) (left right : Ray)
    (decide : (ℚ → ℚ) → ℚ → ℚ → Command → Command) (w : Window) : Window :=
  let lLeft := lateral trig reference left
  let lRight := lateral trig reference right
  if lLeft ≠ lRight then
    { w with
      lLeft, lRight
      distanceObject := (forward trig reference left + forward trig reference right) / 2
      command := decide trig.abs lLeft lRight w.command }
  else { w with lLeft, lRight }

/-- The three branches of the front estimator, applied in order. -/
def frontCommand (abs : ℚ → ℚ) (lLeft lRight : ℚ) (c : Command) : Command :=
  let c := if lLeft ≥ 0 ∧ lRight ≥ 0 then ⟨500 - abs (lLeft * 100), -1⟩ else c
  let c := if lLeft < 0 ∧ lRight > 0 then
      if abs (lLeft * 10) > abs (lRight * 10) then ⟨500 + abs (lRight * 100), 1⟩
      else ⟨500 + abs (lLeft * 100), -1⟩
    else c
  if lLeft < 0 ∧ lRight < 0 then ⟨500 - abs (lRight * 100), 1⟩ else c

/-- The three branches of the back estimator, applied in order. -/
def backCommand (abs : ℚ → ℚ) (lLeft lRight : ℚ) (c : Command) : Command :=
  let c := if lLeft ≥ 0 ∧ lRight ≥ 0 then ⟨500 - abs (lRight * 100), 1⟩ else c
  let c := if lLeft > 0 ∧ lRight < 0 then
      if abs (lLeft * 10) > abs (lRight * 10) then ⟨500 + abs (lRight * 100), 1⟩
      else ⟨500 + abs (lLeft * 100), -1⟩
    else c
  if lLeft < 0 ∧ lRight < 0 then ⟨500 - abs (lLeft * 100), -1⟩ else c

/-- The front estimator on one valid sample. -/
def frontObstacle (trig : Trig) (w : Window) (angleDeg distanceM : ℚ) : Window :=
  if angleDeg ≥ 270 ∧ angleDeg ≤ 360 then w.record ⟨angleDeg, distanceM⟩
  else if angleDeg < 60 then
    if w.pointFind then w.evaluate trig 315 w.first w.last frontCommand
    else { w with distanceObject := 133 }
  else { w with pointFind := false }

/-- The back estimator on one valid sample. -/
def backObstacle (trig : Trig) (w : Window) (angleDeg distanceM : ℚ) : Window :=
  if angleDeg ≥ 90 ∧ angleDeg ≤ 180 then w.record ⟨angleDeg, distanceM⟩
  else if angleDeg > 180 then
    if w.pointFind then w.evaluate trig 135 w.last w.first backCommand
    else { w with distanceObject := 133 }
  else { w with pointFind := false }

/-- The front estimator over a sequence of valid samples, from the initial globals. -/
def frontRun (trig : Trig) (xs : List (ℚ × ℚ)) : Window :=
  xs.foldl (fun w x => frontObstacle trig w x.1 x.2) Window.initial

/-- The back estimator over a sequence of valid samples, from the initial globals. -/
def backRun (trig : Trig) (xs : List (ℚ × ℚ)) : Window :=
  xs.foldl (fun w x => backObstacle trig w x.1 x.2) Window.initial

section Frame

variable (trig : Trig) (reference : ℚ) (left right : Ray)
  (decide : (ℚ → ℚ) → ℚ → ℚ → Command → Command) (w : Window)

/-- An evaluation keeps the first ray. -/
@[simp]
theorem Window.evaluate_first : (w.evaluate trig reference left right decide).first = w.first := by
  dsimp only [Window.evaluate]; split <;> rfl

/-- An evaluation keeps the last ray. -/
@[simp]
theorem Window.evaluate_last : (w.evaluate trig reference left right decide).last = w.last := by
  dsimp only [Window.evaluate]; split <;> rfl

/-- An evaluation keeps the window flag. -/
@[simp]
theorem Window.evaluate_pointFind :
    (w.evaluate trig reference left right decide).pointFind = w.pointFind := by
  dsimp only [Window.evaluate]; split <;> rfl

/-- An evaluation stores the left lateral offset. -/
@[simp]
theorem Window.evaluate_lLeft :
    (w.evaluate trig reference left right decide).lLeft = lateral trig reference left := by
  dsimp only [Window.evaluate]; split <;> rfl

/-- An evaluation stores the right lateral offset. -/
@[simp]
theorem Window.evaluate_lRight :
    (w.evaluate trig reference left right decide).lRight = lateral trig reference right := by
  dsimp only [Window.evaluate]; split <;> rfl

/-- With distinct offsets the evaluation issues what {lit}`decide` chooses. -/
theorem Window.evaluate_command
    (h : lateral trig reference left ≠ lateral trig reference right) :
    (w.evaluate trig reference left right decide).command =
      decide trig.abs (lateral trig reference left) (lateral trig reference right) w.command := by
  simp [Window.evaluate, h]

end Frame

/-! ## Recorded rays stay in their window -/

/-- On the remaining sign patterns the front branches leave the previous command. -/
theorem frontCommand_of_uncovered (abs : ℚ → ℚ) {lLeft lRight : ℚ} (c : Command)
    (h : (0 ≤ lLeft ∧ lRight < 0) ∨ (lLeft < 0 ∧ lRight = 0)) :
    frontCommand abs lLeft lRight c = c := by
  rcases h with ⟨hL, hR⟩ | ⟨hL, rfl⟩
  · simp [frontCommand, not_le.2 hR, not_lt.2 hL]
  · simp [frontCommand, not_le.2 hL]

/-- Below 60° a held front window is evaluated. -/
theorem frontObstacle_of_lt {trig : Trig} {w : Window} {a d : ℚ} (ha : a < 60)
    (hp : w.pointFind = true) :
    frontObstacle trig w a d = w.evaluate trig 315 w.first w.last frontCommand := by
  have : ¬(a ≥ 270 ∧ a ≤ 360) := fun h => by linarith [h.1]
  simp [frontObstacle, this, ha, hp]

/-- Beyond 180° a held back window is evaluated. -/
theorem backObstacle_of_gt {trig : Trig} {w : Window} {a d : ℚ} (ha : 180 < a)
    (hp : w.pointFind = true) :
    backObstacle trig w a d = w.evaluate trig 135 w.last w.first backCommand := by
  have : ¬(a ≥ 90 ∧ a ≤ 180) := fun h => by linarith [h.2]
  simp [backObstacle, this, ha, hp]

/-! ## Lateral offsets signed by the bearing -/

/-- The reading of the estimators that takes each lateral offset to have the sign of
the ray's offset from the reference bearing: within half a window of it,
{lit}`sinf(D2R*x)` has the sign of {lit}`x`. -/
def SignFaithful (trig : Trig) : Prop :=
  ∀ x : ℚ, -45 ≤ x → x ≤ 45 → SignType.sign (trig.sinf (d2r * x)) = SignType.sign x

/-- A sign-faithful {lit}`sinf` that is linear, with the integer {lit}`abs` the
source's comment assumes, used for concrete runs. -/
def Trig.linear : Trig := ⟨fun x => x, fun _ => 1, cAbs⟩

/-- The linear {lit}`sinf` is sign-faithful. -/
theorem Trig.linear_signFaithful : SignFaithful Trig.linear := by
  intro x _ _
  simp [Trig.linear, sign_mul, d2r]

/-- An evaluation issues a command: whatever command stood before, it leaves the
same one, with direction -1 or 1. -/
def IssuesCommand (step : Window → Window) (w : Window) : Prop :=
  ∃ cmd : Command, (cmd.avoidDirection = -1 ∨ cmd.avoidDirection = 1) ∧
    ∀ c, (step { w with command := c }).command = cmd

/-- Every evaluation with distinct lateral offsets issues a command, over every
sequence of valid samples from the initial globals. -/
def ObstacleAlwaysCommands : Prop :=
  ∀ trig, SignFaithful trig → ∀ (xs : List (ℚ × ℚ)) (a d : ℚ),
    (a < 60 → (frontRun trig xs).pointFind = true →
      (frontObstacle trig (frontRun trig xs) a d).lLeft ≠
        (frontObstacle trig (frontRun trig xs) a d).lRight →
      IssuesCommand (fun w => frontObstacle trig w a d) (frontRun trig xs)) ∧
    (180 < a → (backRun trig xs).pointFind = true →
      (backObstacle trig (backRun trig xs) a d).lLeft ≠
        (backObstacle trig (backRun trig xs) a d).lRight →
      IssuesCommand (fun w => backObstacle trig w a d) (backRun trig xs))

/-- The front rays (300°, 1 m) and (315°, 1 m), evaluated at 10°, have a negative
and a zero lateral offset, and the front estimator keeps its previous command. -/
theorem obstacle_command_missed : ¬ ObstacleAlwaysCommands := by
  intro h
  have hrun : frontRun Trig.linear [(300, 1), (315, 1)] =
      ⟨⟨300, 1⟩, ⟨315, 1⟩, true, 0, 0, 0, ⟨0, 0⟩⟩ := by
    norm_num [frontRun, frontObstacle, Window.record, Window.initial]
  have hL : lateral Trig.linear 315 ⟨300, 1⟩ < 0 := by norm_num [lateral, Trig.linear, d2r]
  have hR : lateral Trig.linear 315 ⟨315, 1⟩ = 0 := by norm_num [lateral, Trig.linear]
  have hne : lateral Trig.linear 315 ⟨300, 1⟩ ≠ lateral Trig.linear 315 ⟨315, 1⟩ := by
    rw [hR]; exact hL.ne
  obtain ⟨cmd, hdir, hall⟩ :=
    (h Trig.linear Trig.linear_signFaithful [(300, 1), (315, 1)] 10 1).1 (by norm_num)
      (by rw [hrun]) (by rw [hrun, frontObstacle_of_lt (by norm_num) rfl]; simpa using hne)
  have hcmd := hall ⟨0, 0⟩
  rw [hrun] at hcmd
  simp only at hcmd
  rw [frontObstacle_of_lt (by norm_num) rfl, Window.evaluate_command _ _ _ _ _ _ hne, frontCommand_of_uncovered _ _ (.inr ⟨hL, hR⟩)]
    at hcmd
  subst hcmd
  norm_num at hdir

end RPLidarA2
