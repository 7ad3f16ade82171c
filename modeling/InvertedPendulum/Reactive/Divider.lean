import Mathlib.Data.Nat.Basic
import Mathlib.Algebra.Order.Ring.Nat

namespace Reactive.Divider
variable {stride count : Nat}

/-- A counter that restarts at a stride is early exactly where the stride does not divide the next
count. -/
theorem early_iff (positive : 0 < stride) :
    count % stride + 1 < stride ↔ ¬ stride ∣ count + 1 := by
  have below := Nat.mod_lt count positive
  rw [Nat.dvd_iff_mod_eq_zero, Nat.add_mod]
  rcases Nat.lt_or_ge (count % stride + 1) stride with early | due
  · rw [Nat.mod_eq_of_lt (by omega : 1 < stride), Nat.mod_eq_of_lt early]
    omega
  · have full : count % stride + 1 = stride := by omega
    refine iff_of_false (by omega) (not_not_intro ?_)
    rw [← Nat.add_mod, ← Nat.dvd_iff_mod_eq_zero]
    calc stride ∣ stride * (count / stride) + stride := Dvd.intro _ (by rw [Nat.mul_succ])
      _ = count + 1 := by
        have split := Nat.div_add_mod count stride
        omega

/-- Between two multiples the counter counts and the quotient stays. -/
theorem early (apart : ¬ stride ∣ count + 1) (positive : 0 < stride) :
    (count + 1) % stride = count % stride + 1 ∧ (count + 1) / stride = count / stride := by
  have below := (early_iff positive).mpr apart
  constructor
  · rw [Nat.add_mod, Nat.mod_eq_of_lt (by omega : 1 < stride), Nat.mod_eq_of_lt below]
  · rw [Nat.succ_div, if_neg apart, Nat.add_zero]

/-- At a multiple the counter restarts and the quotient counts. -/
theorem due (multiple : stride ∣ count + 1) :
    (count + 1) % stride = 0 ∧ (count + 1) / stride = count / stride + 1 := by
  constructor
  · exact Nat.mod_eq_zero_of_dvd multiple
  · rw [Nat.succ_div, if_pos multiple]

/-- The counts at two multiples in a row are one stride apart. -/
theorem multiple_eq (multiple : stride ∣ count + 1) : count + 1 = (count / stride + 1) * stride := by
  rw [← (due multiple).2, Nat.div_mul_cancel multiple]

end Reactive.Divider
