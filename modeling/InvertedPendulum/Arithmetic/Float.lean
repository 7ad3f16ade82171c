import Mathlib.Algebra.Order.Field.Basic
import Mathlib.Algebra.Order.Round
import Mathlib.Data.Rat.Floor

namespace InvertedPendulum

/-- These are the operations of `float` that the firmware uses, with no law attached. -/
class FloatArithmetic (F : Type) extends Zero F, One F, Neg F, Add F, Sub F, Mul F, Div F,
    RatCast F, LT F, LE F where
  decidableLT : DecidableLT F
  decidableLE : DecidableLE F

attribute [reducible] FloatArithmetic.decidableLT FloatArithmetic.decidableLE
attribute [instance (50)] FloatArithmetic.decidableLT FloatArithmetic.decidableLE
attribute [instance (50)] FloatArithmetic.toZero FloatArithmetic.toOne FloatArithmetic.toNeg
  FloatArithmetic.toAdd FloatArithmetic.toSub FloatArithmetic.toMul FloatArithmetic.toDiv
  FloatArithmetic.toRatCast FloatArithmetic.toLT FloatArithmetic.toLE

/-- An ordered field computes without rounding. -/
instance (priority := 40) exactArithmetic {F : Type} [Field F] [LinearOrder F] :
    FloatArithmetic F where
  decidableLT := inferInstance
  decidableLE := inferInstance

section Functions
variable {F : Type} [FloatArithmetic F]

/-- `std::fabs` -/
def fabs (x : F) : F := if x < 0 then -x else x

/-- `std::clamp` -/
def clamp (value low high : F) : F :=
  if value < low then low else if high < value then high else value

/-- `std::max` -/
def maximum (first second : F) : F := if first < second then second else first

/-- This is `==` of `float`, which no NaN satisfies. -/
def sameFloat (first second : F) : Bool := decide (first ≤ second ∧ second ≤ first)

/-- Every value but a NaN compares with itself. -/
def Ordinary (x : F) : Prop := x ≤ x

/-- Two values are unordered when no ordered comparison between them holds. -/
def Unordered (first second : F) : Prop := ¬ first ≤ second ∧ ¬ second < first

instance (first second : F) : Decidable (Unordered first second) :=
  inferInstanceAs (Decidable (_ ∧ _))

end Functions

/-- These are the comparison laws that an IEEE format satisfies, its NaNs included. -/
class IeeeOrder (F : Type) [FloatArithmetic F] : Prop where
  total {a b : F} : Ordinary a → Ordinary b → ¬ a < b → b ≤ a
  exclusive {a b : F} : a ≤ b → ¬ b < a
  weaken {a b : F} : a < b → a ≤ b
  ordinaryLeft {a b : F} : a ≤ b → Ordinary a
  ordinaryRight {a b : F} : a ≤ b → Ordinary b
  chain {a b c : F} : a ≤ b → b ≤ c → a ≤ c
  mirror {a b : F} : a ≤ b → -b ≤ -a
  mirrorTwice (a : F) : - -a = a
  zeroLow : (0 : F) ≤ -0
  zeroHigh : -(0 : F) ≤ 0
  unit : (0 : F) ≤ 1
  constant (value : ℚ) : Ordinary (value : F)

section Laws
variable {F : Type} [FloatArithmetic F] [IeeeOrder F]
open IeeeOrder

theorem ordinary_zero : Ordinary (0 : F) := ordinaryLeft unit

theorem ordinary_one : Ordinary (1 : F) := ordinaryRight unit

theorem neg_one_le_one_float : (-1 : F) ≤ 1 := by
  have below : (-1 : F) ≤ -0 := mirror unit
  exact chain (chain below zeroHigh) unit

/-- A magnitude bound is a two-sided bound, on numbers and on NaNs alike. -/
theorem fabs_le_iff {x bound : F} : fabs x ≤ bound ↔ -bound ≤ x ∧ x ≤ bound := by
  unfold fabs
  by_cases negative : x < 0
  · have below : x ≤ -x := by
      have mirrored : -(0 : F) ≤ -x := mirror (weaken negative)
      exact chain (weaken negative) (chain zeroLow mirrored)
    rw [if_pos negative]
    constructor
    · intro within
      have mirrored := mirror within
      rw [mirrorTwice] at mirrored
      exact ⟨mirrored, chain below within⟩
    · intro given
      obtain ⟨lower, -⟩ := given
      have mirrored := mirror lower
      rwa [mirrorTwice] at mirrored
  · rw [if_neg negative]
    refine ⟨fun within => ⟨?_, within⟩, fun both => both.2⟩
    have positive : (0 : F) ≤ x := total (ordinaryLeft within) ordinary_zero negative
    have mirrored : -bound ≤ -(0 : F) := mirror (chain positive within)
    exact chain (chain mirrored zeroHigh) positive

/-- The magnitude of a number is a number. -/
theorem ordinary_fabs {x : F} (ordinary : Ordinary x) : Ordinary (fabs x) := by
  unfold fabs
  split
  · exact mirror ordinary
  · exact ordinary

/-- Clamping a number to the unit interval lands in the interval. -/
theorem clamp_unit {x : F} (ordinary : Ordinary x) :
    -1 ≤ clamp x (-1) 1 ∧ clamp x (-1) 1 ≤ 1 := by
  unfold clamp
  split
  · exact ⟨ordinaryLeft neg_one_le_one_float, neg_one_le_one_float⟩
  · rename_i lower
    split
    · exact ⟨neg_one_le_one_float, ordinary_one⟩
    · rename_i upper
      exact ⟨total ordinary (ordinaryLeft neg_one_le_one_float) lower,
        total ordinary_one ordinary upper⟩

end Laws

/-- Exact arithmetic has no NaN. -/
instance exactOrder {F : Type} [Field F] [LinearOrder F] [IsStrictOrderedRing F] :
    IeeeOrder F where
  total _ _ := not_lt.mp
  exclusive := not_lt.mpr
  weaken := LT.lt.le
  ordinaryLeft _ := le_refl _
  ordinaryRight _ := le_refl _
  chain := le_trans
  mirror := neg_le_neg
  mirrorTwice := neg_neg
  zeroLow := neg_zero.ge
  zeroHigh := neg_zero.le
  unit := zero_le_one
  constant _ := le_refl _

/-- These functions of `<cmath>` separate and round the numbers. -/
class FloatRounding (F : Type) where
  isFinite : F → Bool
  lround : F → Int

/-- Exact arithmetic rounds half away from zero. -/
instance exactRounding {F : Type} [Field F] [LinearOrder F] [IsStrictOrderedRing F] [FloorRing F] :
    FloatRounding F where
  isFinite _ := true
  lround x := if 0 ≤ x then ⌊x + 1 / 2⌋ else -⌊-x + 1 / 2⌋

end InvertedPendulum
