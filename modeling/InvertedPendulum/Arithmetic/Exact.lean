import InvertedPendulum.Arithmetic.Float
import Mathlib.Tactic.Linarith
import Mathlib.Tactic.GCongr
import Mathlib.Tactic.Positivity

namespace InvertedPendulum
variable {F : Type} [Field F] [LinearOrder F] [IsStrictOrderedRing F]

/-- `std::fabs` is the absolute value where nothing rounds. -/
theorem fabs_eq_abs (x : F) : fabs x = |x| := by
  show (if x < 0 then -x else x) = |x|
  split
  · rename_i negative
    rw [abs_of_neg negative]
  · rename_i nonnegative
    rw [abs_of_nonneg (not_lt.mp nonnegative)]

omit [IsStrictOrderedRing F] in
/-- `std::max` is the maximum where no value is a NaN. -/
theorem maximum_eq_max (first second : F) : maximum first second = max first second := by
  show (if first < second then second else first) = max first second
  split
  · rename_i below
    rw [max_eq_right below.le]
  · rename_i above
    rw [max_eq_left (not_lt.mp above)]

omit [IsStrictOrderedRing F] in
/-- `std::clamp` is a maximum of a minimum where its bounds are ordered. -/
theorem clamp_eq_max_min {value low high : F} (ordered : low ≤ high) :
    clamp value low high = max low (min value high) := by
  show (if value < low then low else if high < value then high else value) = max low (min value high)
  split
  · rename_i below
    rw [min_eq_left (below.le.trans ordered), max_eq_left below.le]
  · rename_i lower
    split
    · rename_i above
      rw [min_eq_right above.le, max_eq_right ordered]
    · rename_i upper
      rw [min_eq_left (not_lt.mp upper), max_eq_right (not_lt.mp lower)]

/-- A value within its limits is not clamped. -/
theorem clamp_within {value limit : F} (within : |value| ≤ limit) :
    clamp value (-limit) limit = value := by
  obtain ⟨low, high⟩ := abs_le.mp within
  rw [clamp_eq_max_min (low.trans high), min_eq_left high, max_eq_right low]

/-- Limits on both sides of zero cut a magnitude. -/
theorem abs_clamp {limit : F} (nonnegative : 0 ≤ limit) (value : F) :
    |clamp value (-limit) limit| = min |value| limit := by
  change |if value < -limit then -limit else if limit < value then limit else value| = _
  split
  · rename_i below
    have beyond : limit ≤ |value| := (le_neg_of_le_neg below.le).trans (neg_le_abs value)
    rw [abs_neg, abs_of_nonneg nonnegative, min_eq_right beyond]
  · rename_i lower
    split
    · rename_i above
      rw [abs_of_nonneg nonnegative, min_eq_right (above.le.trans (le_abs_self value))]
    · rename_i upper
      rw [min_eq_left (abs_le.mpr ⟨not_lt.mp lower, not_lt.mp upper⟩)]

/-- Exactly the values within the limits are not clamped. -/
theorem clamp_eq_self_iff {value limit : F} (nonnegative : 0 ≤ limit) :
    clamp value (-limit) limit = value ↔ |value| ≤ limit := by
  constructor
  · intro same
    rw [← same, abs_clamp nonnegative]
    exact min_le_right _ _
  · exact clamp_within

/-- Limits apart from zero clamp only zero to zero. -/
theorem clamp_eq_zero_iff {value limit : F} (positive : 0 < limit) :
    clamp value (-limit) limit = 0 ↔ value = 0 := by
  constructor
  · intro none
    have cut := abs_clamp positive.le value
    rw [none, abs_zero] at cut
    rcases min_choice |value| limit with whole | part
    · exact abs_eq_zero.mp (cut.trans whole).symm
    · exact absurd (cut.trans part).symm positive.ne'
  · rintro rfl
    exact clamp_within (by rw [abs_zero]; exact positive.le)

section Rounding
variable [FloorRing F]

theorem lround_of_nonneg {x : F} (nonnegative : 0 ≤ x) :
    FloatRounding.lround x = ⌊x + 1 / 2⌋ := if_pos nonnegative

/-- Rounding half away from zero treats both signs alike. -/
theorem lround_neg (x : F) : FloatRounding.lround (-x) = -FloatRounding.lround x := by
  rcases lt_trichotomy x 0 with negative | rfl | positive
  · have mirrored : 0 ≤ -x := (neg_pos.mpr negative).le
    have rounded : FloatRounding.lround x = -⌊-x + 1 / 2⌋ := if_neg (not_le.mpr negative)
    rw [lround_of_nonneg mirrored, rounded, neg_neg]
  · have zero : ⌊(0 : F) + 1 / 2⌋ = 0 := by
      rw [Int.floor_eq_zero_iff, Set.mem_Ico]
      constructor <;> norm_num
    rw [neg_zero, lround_of_nonneg le_rfl, zero, neg_zero]
  · have mirrored : ¬ 0 ≤ -x := not_le.mpr (neg_neg_of_pos positive)
    have rounded : FloatRounding.lround (-x) = -⌊- -x + 1 / 2⌋ := if_neg mirrored
    rw [rounded, neg_neg, lround_of_nonneg positive.le]

/-- A number of at least zero rounds to a number of at least zero. -/
theorem lround_nonneg {x : F} (nonnegative : 0 ≤ x) : 0 ≤ FloatRounding.lround x := by
  rw [lround_of_nonneg nonnegative]
  apply Int.floor_nonneg.mpr
  positivity

/-- Rounding half away from zero keeps the order. -/
theorem lround_mono {first second : F} (ordered : first ≤ second) :
    FloatRounding.lround first ≤ FloatRounding.lround second := by
  rcases le_or_gt 0 first with positive | negative
  · rw [lround_of_nonneg positive, lround_of_nonneg (positive.trans ordered)]
    gcongr
  · have mirrored : FloatRounding.lround first = -⌊-first + 1 / 2⌋ := if_neg (not_le.mpr negative)
    rcases le_or_gt 0 second with above | below
    · have low : 0 ≤ FloatRounding.lround (-first) := lround_nonneg (neg_pos.mpr negative).le
      rw [lround_neg] at low
      have high := lround_nonneg above
      omega
    · have other : FloatRounding.lround second = -⌊-second + 1 / 2⌋ := if_neg (not_le.mpr below)
      rw [mirrored, other]
      gcongr

/-- A whole number rounds to itself. -/
theorem lround_natCast (count : ℕ) : FloatRounding.lround (count : F) = count := by
  rw [lround_of_nonneg count.cast_nonneg, Int.floor_eq_iff]
  push_cast
  constructor <;> linarith

end Rounding

end InvertedPendulum
