import RPLidarA2.Protocol
import Mathlib.Data.List.MinMax
import Mathlib.Data.List.SplitBy

/-!
# RPLIDAR A2 driver - Sector aggregation

The sector block at the end of {lit}`parse_response_data` folds valid samples into
the backend's per-sector arrays.  Its state is the open sector
({lit}`_last_sector`, {lit}`_angle_deg_last`, {lit}`_distance_m_last`), kept here
as a {lit}`Reading`; its outputs are the writes to {lit}`_angle`,
{lit}`_distance` and {lit}`_distance_valid` together with the call to
{lit}`update_boundary_for_sector`.  The sector map
{lit}`convert_angle_to_sector` belongs to the backend and is a parameter.

Main results:

- Theorem {lit}`aggregateAll_dwells`: from any open sector, the committed readings
  followed by the open one are exactly the earliest minima of the maximal
  same-sector runs of the open reading followed by the kept samples.
- Theorem {lit}`aggregateAll_initial_commit`: from the zero-initialised open
  sector the first commit writes a 0 m reading for sector 0 that no sample
  produced.
-/

namespace RPLidarA2

/-! ## The sector block -/

/-- A sample as the sector block stores it: its sector, angle and distance. -/
structure Reading where
  sector : Nat
  angle : ℚ
  distance : ℚ
deriving DecidableEq, Repr

/-- The zero-initialised open sector of a freshly constructed driver. -/
def Reading.initial : Reading := ⟨0, 0, 0⟩

/-- One write of the sector block. -/
inductive SectorWrite
  | commit (r : Reading)
  | invalidate (sector : Nat)
deriving DecidableEq, Repr

/-- The reading a write commits, if it commits one. -/
def SectorWrite.committed : SectorWrite → Option Reading
  | .commit r => some r
  | .invalidate _ => none

/-- The sector block of {lit}`parse_response_data` for one valid sample: a sample
in a mapped sector beyond the dead zone either improves the open sector or, in a
new sector, commits the open one and opens the new one; a sample in the dead zone
invalidates its sector. -/
def aggregate (convertAngleToSector : ℚ → Option Nat) (last : Reading)
    (angleDeg distanceM : ℚ) : Reading × Option SectorWrite :=
  match convertAngleToSector angleDeg with
  | none => (last, none)
  | some sector =>
    if distanceM > distanceMin then
      if last.sector = sector then
        if last.distance > distanceM then (⟨last.sector, angleDeg, distanceM⟩, none)
        else (last, none)
      else (⟨sector, angleDeg, distanceM⟩, some (.commit last))
    else (last, some (.invalidate sector))

/-- The sector block run over a sequence of valid samples (angle, distance). -/
def aggregateAll (convertAngleToSector : ℚ → Option Nat) :
    Reading → List (ℚ × ℚ) → Reading × List SectorWrite
  | last, [] => (last, [])
  | last, (a, d) :: xs =>
    let step := aggregate convertAngleToSector last a d
    let rest := aggregateAll convertAngleToSector step.1 xs
    (rest.1, step.2.toList ++ rest.2)

/-- The backend's sector arrays {lit}`_angle`, {lit}`_distance` and
{lit}`_distance_valid`. -/
structure SectorArrays where
  angle : Nat → ℚ
  distance : Nat → ℚ
  distanceValid : Nat → Bool

/-- Perform one write on the sector arrays. -/
def SectorArrays.apply (arrays : SectorArrays) : SectorWrite → SectorArrays
  | .commit r =>
    { angle := Function.update arrays.angle r.sector r.angle
      distance := Function.update arrays.distance r.sector r.distance
      distanceValid := Function.update arrays.distanceValid r.sector true }
  | .invalidate s => { arrays with distanceValid := Function.update arrays.distanceValid s false }

/-! ## The abstract view: dwells and their minima -/

section Spec

variable (convertAngleToSector : ℚ → Option Nat)

/-- The reading of a sample that reaches a sector beyond the dead zone. -/
def keptReading (x : ℚ × ℚ) : Option Reading :=
  (convertAngleToSector x.1).bind fun s => if distanceMin < x.2 then some ⟨s, x.1, x.2⟩ else none

/-- The sector of a sample that reaches a sector inside the dead zone. -/
def deadSector (x : ℚ × ℚ) : Option Nat :=
  (convertAngleToSector x.1).bind fun s => if distanceMin < x.2 then none else some s

/-- The samples the sector block keeps, as readings. -/
def kept (xs : List (ℚ × ℚ)) : List Reading := xs.filterMap (keptReading convertAngleToSector)

/-- Two readings of the same sector. -/
def sameSector (x y : Reading) : Bool := x.sector == y.sector

end Spec

/-! ### Maximal runs -/

section SplitBy

variable {α : Type} (R : α → α → Bool)

/-- The runs already closed by the loop of {lit}`List.splitBy` come first. -/
private theorem splitBy_loop_gs (l : List α) (ag : α) (g : List α) (gs : List (List α)) :
    List.splitBy.loop R l ag g gs = gs.reverse ++ List.splitBy.loop R l ag g [] := by
  induction l generalizing ag g gs with
  | nil => simp [List.splitBy.loop]
  | cons a as ih =>
    simp only [List.splitBy.loop]
    cases R ag a
    · rw [ih a [] ((ag :: g).reverse :: gs), ih a [] [(ag :: g).reverse]]
      simp
    · exact ih a (ag :: g) gs

/-- An element appended to the open run of the loop heads the first run. -/
private theorem splitBy_loop_snoc (l : List α) (ag : α) (g : List α) (x : α) :
    List.splitBy.loop R l ag (g ++ [x]) [] =
      (List.splitBy.loop R l ag g []).modifyHead (x :: ·) := by
  induction l generalizing ag g with
  | nil => simp [List.splitBy.loop]
  | cons a as ih =>
    simp only [List.splitBy.loop]
    cases R ag a
    · rw [splitBy_loop_gs R as a [] [(ag :: (g ++ [x])).reverse],
        splitBy_loop_gs R as a [] [(ag :: g).reverse]]
      simp
    · exact ih a (ag :: g)

/-- The first element either joins the first run of the rest or starts its own. -/
theorem splitBy_cons_cons (a b : α) (l : List α) :
    (a :: b :: l).splitBy R =
      if R a b then ((b :: l).splitBy R).modifyHead (a :: ·)
      else [a] :: (b :: l).splitBy R := by
  show List.splitBy.loop R (b :: l) a [] [] = _
  simp only [List.splitBy.loop]
  cases R a b
  · simpa using splitBy_loop_gs R l b [] [[a]]
  · simpa [List.splitBy] using splitBy_loop_snoc R l b [] a

/-- The first run starts with the first element, and any element related to the
same elements as the first one heads the same runs in its place. -/
theorem splitBy_cons_head (r : α) (rs : List α) :
    ∃ t gs, (r :: rs).splitBy R = (r :: t) :: gs ∧
      ∀ y, (∀ z, R y z = R r z) → (y :: rs).splitBy R = (y :: t) :: gs := by
  cases rs with
  | nil => exact ⟨[], [], rfl, fun _ _ => rfl⟩
  | cons b l =>
    obtain ⟨t, gs, hsplit, -⟩ := splitBy_cons_head b l
    by_cases hrb : R r b
    · refine ⟨b :: t, gs, ?_, fun y hy => ?_⟩
      · simp [splitBy_cons_cons, hrb, hsplit]
      · simp [splitBy_cons_cons, hy, hrb, hsplit]
    · refine ⟨[], (b :: t) :: gs, ?_, fun y hy => ?_⟩
      · simp [splitBy_cons_cons, hrb, hsplit]
      · simp [splitBy_cons_cons, hy, hrb, hsplit]

end SplitBy

/-! ### The dwell theorem -/

/-- The earliest minimum of a run, taken with one more reading at its front, is the
earliest minimum of the run with the better of the two readings at its front. -/
theorem argmin_cons_cons (o r : Reading) (t : List Reading) :
    (o :: r :: t).argmin Reading.distance =
      ((if o.distance > r.distance then r else o) :: t).argmin Reading.distance := by
  simp only [List.argmin, List.foldl_cons, List.argAux, gt_iff_lt]
  split <;> rfl

/-- The sector block at a kept sample, in terms of the kept reading. -/
theorem aggregate_of_kept {conv : ℚ → Option Nat} {x : ℚ × ℚ} {r : Reading}
    (h : keptReading conv x = some r) (last : Reading) :
    aggregate conv last x.1 x.2 =
      if last.sector = r.sector then ((if last.distance > r.distance then r else last), none)
      else (r, some (.commit last)) := by
  simp only [keptReading, Option.bind_eq_some] at h
  obtain ⟨s, hs, hr⟩ := h
  split at hr
  · cases hr
    simp only [aggregate, hs, gt_iff_lt, *, if_true]
    by_cases hsec : last.sector = s
    · by_cases hd : x.2 < last.distance <;> simp [hsec, hd]
    · simp [hsec]
  · cases hr

/-- The sector block at a sample it does not keep writes no commit and keeps the
open sector. -/
theorem aggregate_of_not_kept {conv : ℚ → Option Nat} {x : ℚ × ℚ}
    (h : keptReading conv x = none) (last : Reading) :
    (aggregate conv last x.1 x.2).1 = last ∧
      (aggregate conv last x.1 x.2).2 = (deadSector conv x).map .invalidate := by
  simp only [keptReading, Option.bind_eq_none] at h
  simp only [aggregate, deadSector]
  cases hs : conv x.1 with
  | none => simp
  | some s =>
    have := h s hs
    split at this
    · cases this
    · simp [*]

/-- From any open sector, the committed readings followed by the open one are the
earliest minima of the maximal same-sector runs of the open reading followed by
the kept samples. -/
theorem aggregateAll_dwells (conv : ℚ → Option Nat) (last : Reading) (xs : List (ℚ × ℚ)) :
    ((last :: kept conv xs).splitBy sameSector).map (List.argmin Reading.distance) =
      ((aggregateAll conv last xs).2.filterMap SectorWrite.committed ++
        [(aggregateAll conv last xs).1]).map some := by
  induction xs generalizing last with
  | nil => simp [kept, aggregateAll, List.splitBy, List.splitBy.loop]
  | cons x xs ih =>
    cases hx : keptReading conv x with
    | none =>
      obtain ⟨hlast, hw⟩ := aggregate_of_not_kept hx last
      have hkept : kept conv (x :: xs) = kept conv xs := by simp [kept, hx]
      rw [hkept, ih]
      cases hd : deadSector conv x <;>
        simp [aggregateAll, hlast, hw, hd, SectorWrite.committed]
    | some r =>
      have hkept : kept conv (x :: xs) = r :: kept conv xs := by simp [kept, hx]
      obtain ⟨t, gs, hsplit, hhead⟩ := splitBy_cons_head sameSector r (kept conv xs)
      have hstep := aggregate_of_kept hx last
      by_cases hsec : last.sector = r.sector
      · set o := if last.distance > r.distance then r else last
        have ho : ∀ z, sameSector o z = sameSector r z := by
          intro z; by_cases hd : last.distance > r.distance <;> simp [o, hd, sameSector, hsec]
        have hrest := ih o
        rw [hhead o ho] at hrest
        rw [hkept, splitBy_cons_cons, hsplit]
        simp only [sameSector, hsec, beq_self_eq_true, if_true, List.modifyHead_cons,
          List.map_cons, argmin_cons_cons]
        simpa [aggregateAll, hstep, hsec] using hrest
      · have hne : sameSector last r = false := by simpa [sameSector] using hsec
        rw [hkept, splitBy_cons_cons, if_neg (by simp [hne]), List.map_cons, ih r]
        simp [aggregateAll, hstep, hsec, SectorWrite.committed]

/-! ## The first dwell from the constructed driver -/

/-- From the zero-initialised open sector, with a map sending angles below 45° to
sector 0 and the rest to sector 1, the samples (10°, 1 m) and (50°, 2 m) make
the block commit 0 m at 0° for sector 0, although the only sample of that dwell
is (10°, 1 m). -/
theorem aggregateAll_initial_commit :
    (aggregateAll (fun a => if a < 45 then some 0 else some 1) Reading.initial
        [(10, 1), (50, 2)]).2 = [.commit ⟨0, 0, 0⟩] ∧
      kept (fun a => if a < 45 then some 0 else some 1) [(10, 1), (50, 2)] =
        [⟨0, 10, 1⟩, ⟨1, 50, 2⟩] := by
  norm_num [aggregateAll, aggregate, kept, keptReading, Reading.initial, distanceMin,
    List.filterMap_cons]

end RPLidarA2
