import Mathlib.Algebra.Order.Field.Basic
import Mathlib.Tactic.Linarith
import Mathlib.Tactic.Ring

namespace Averaging
variable {F : Type*} [Field F] [LinearOrder F] [IsStrictOrderedRing F]

/-- A blend moves a value towards a target by a share of their distance. -/
def blend (weight value target : F) : F := (1 - weight) * value + weight * target

omit [LinearOrder F] [IsStrictOrderedRing F] in
@[simp] theorem blend_zero (value target : F) : blend 0 value target = value := by
  unfold blend
  ring

omit [LinearOrder F] [IsStrictOrderedRing F] in
/-- A blend leaves a share of the distance. -/
theorem target_sub_blend (weight value target : F) :
    target - blend weight value target = (1 - weight) * (target - value) := by
  unfold blend
  ring

/-- A blend of two values in an interval stays in the interval. -/
theorem blend_mem {weight value target lower upper : F} (nonnegative : 0 ≤ weight)
    (within : weight ≤ 1) (low : lower ≤ value ∧ lower ≤ target)
    (high : value ≤ upper ∧ target ≤ upper) :
    lower ≤ blend weight value target ∧ blend weight value target ≤ upper := by
  have rest : 0 ≤ 1 - weight := sub_nonneg.mpr within
  unfold blend
  constructor
  · calc lower = (1 - weight) * lower + weight * lower := by ring
      _ ≤ (1 - weight) * value + weight * target :=
        add_le_add (mul_le_mul_of_nonneg_left low.1 rest)
          (mul_le_mul_of_nonneg_left low.2 nonnegative)
  · calc (1 - weight) * value + weight * target ≤ (1 - weight) * upper + weight * upper :=
        add_le_add (mul_le_mul_of_nonneg_left high.1 rest)
          (mul_le_mul_of_nonneg_left high.2 nonnegative)
      _ = upper := by ring

/-- A value stands between another one and a target. -/
def Nearer (target near far : F) : Prop :=
  far ≤ near ∧ near ≤ target ∨ target ≤ near ∧ near ≤ far

omit [Field F] [IsStrictOrderedRing F] in
theorem Nearer.refl (target value : F) : Nearer target value value := by
  rcases le_total value target with below | above
  · exact .inl ⟨le_refl value, below⟩
  · exact .inr ⟨above, le_refl value⟩

/-- A value that stands between is at least as close to the target. -/
theorem Nearer.distance_le {target near far : F} (nearer : Nearer target near far) :
    |target - near| ≤ |target - far| := by
  rcases nearer with ⟨beyond, below⟩ | ⟨above, beyond⟩
  · rw [abs_of_nonneg (sub_nonneg.mpr below), abs_of_nonneg (sub_nonneg.mpr (beyond.trans below))]
    exact sub_le_sub_left beyond target
  · rw [abs_of_nonpos (sub_nonpos.mpr above), abs_of_nonpos (sub_nonpos.mpr (above.trans beyond))]
    linarith

/-- A larger share of a smaller distance leaves a smaller distance, on the same side. -/
theorem Nearer.blend {target near far lesser greater : F} (nearer : Nearer target near far)
    (ordered : lesser ≤ greater) (within : greater ≤ 1) :
    Nearer target (blend greater near target) (blend lesser far target) := by
  have lesserRest : 0 ≤ 1 - lesser := sub_nonneg.mpr (ordered.trans within)
  have greaterRest : 0 ≤ 1 - greater := sub_nonneg.mpr within
  have shares : 1 - greater ≤ 1 - lesser := sub_le_sub_left ordered 1
  have left := target_sub_blend greater near target
  have right := target_sub_blend lesser far target
  rcases nearer with ⟨beyond, below⟩ | ⟨above, beyond⟩
  · left
    have kept : 0 ≤ (1 - greater) * (target - near) :=
      mul_nonneg greaterRest (sub_nonneg.mpr below)
    have closer : (1 - greater) * (target - near) ≤ (1 - lesser) * (target - far) :=
      mul_le_mul shares (sub_le_sub_left beyond target) (sub_nonneg.mpr below) lesserRest
    constructor <;> linarith
  · right
    have kept : 0 ≤ (1 - greater) * (near - target) :=
      mul_nonneg greaterRest (sub_nonneg.mpr above)
    have closer : (1 - greater) * (near - target) ≤ (1 - lesser) * (far - target) :=
      mul_le_mul shares (sub_le_sub_right beyond target) (sub_nonneg.mpr above) lesserRest
    constructor <;> linarith

end Averaging
