import Mathlib.Data.Int.ModEq
import Mathlib.Data.Int.Order.Basic
import Mathlib.Algebra.Order.Group.Abs
import Mathlib.Algebra.Order.Group.Int

namespace InvertedPendulum

/-- A machine type holds the integers from its least one to below its limit. -/
structure MachineType where
  least : Int
  limit : Int

namespace MachineType

def signed (width : Nat) : MachineType := ⟨-2 ^ (width - 1), 2 ^ (width - 1)⟩

def unsigned (width : Nat) : MachineType := ⟨0, 2 ^ width⟩

def int32 : MachineType := signed 32

def uint64 : MachineType := unsigned 64

def Holds (type : MachineType) (result : Int) : Prop := type.least ≤ result ∧ result < type.limit

instance (type : MachineType) (result : Int) : Decidable (type.Holds result) :=
  inferInstanceAs (Decidable (_ ∧ _))

/-- An operation has a result where the type holds it, and overflows elsewhere. -/
def evaluate (type : MachineType) (result : Int) : Option Int :=
  if type.Holds result then some result else none

variable {type : MachineType} {result value : Int}

theorem evaluate_eq_some :
    type.evaluate result = some value ↔ type.Holds result ∧ result = value := by
  unfold evaluate
  rw [Option.ite_none_right_eq_some, Option.some_inj]

/-- A computation goes on from an operation that does not overflow. -/
theorem bind_evaluate {α : Type} {rest : Int → Option α} {final : α} :
    (type.evaluate result).bind rest = some final ↔
      type.Holds result ∧ rest result = some final := by
  rw [Option.bind_eq_some_iff]
  constructor
  · rintro ⟨value, evaluated, continued⟩
    obtain ⟨holds, rfl⟩ := evaluate_eq_some.mp evaluated
    exact ⟨holds, continued⟩
  · rintro ⟨holds, continued⟩
    exact ⟨result, evaluate_eq_some.mpr ⟨holds, rfl⟩, continued⟩

theorem int32_holds : int32.Holds result ↔ -2147483648 ≤ result ∧ result < 2147483648 := Iff.rfl

/-- A signed operation that does not overflow does not wrap. -/
theorem signed_bmod {width : Nat} (positive : 0 < width) (holds : (signed width).Holds result) :
    result.bmod (2 ^ width) = result := by
  have doubled : (2 : Int) ^ width = 2 * 2 ^ (width - 1) := by
    rw [← Int.pow_succ', Nat.sub_add_cancel positive]
  have lower : -2 ^ (width - 1) ≤ result := holds.1
  have upper : result < 2 ^ (width - 1) := holds.2
  apply Int.bmod_eq_of_le
  · push_cast
    omega
  · push_cast
    omega

/-- An unsigned operation on natural numbers overflows only at the limit. -/
theorem unsigned_evaluate (width result : Nat) :
    (unsigned width).evaluate result = if result < 2 ^ width then some (result : Int) else none := by
  unfold evaluate
  congr 1
  apply propext
  constructor
  · intro holds
    have below : (result : Int) < 2 ^ width := holds.2
    exact_mod_cast below
  · intro below
    have limited : (result : Int) < 2 ^ width := by exact_mod_cast below
    exact ⟨Int.natCast_nonneg result, limited⟩

end MachineType

/-- The movement of a counter between two readings is the shortest one, and of two that are equally
short the one that does not wrap. -/
structure ShortestMovement (previous current resolution moved : Int) : Prop where
  congruent : moved ≡ current - previous [ZMOD resolution]
  shortest : 2 * |moved| ≤ resolution
  tie : 2 * |current - previous| = resolution → moved = current - previous

namespace ShortestMovement
variable {previous current resolution moved other : Int}

/-- Read the other way round, the counter has moved back. -/
theorem reversed (movement : ShortestMovement previous current resolution moved) :
    ShortestMovement current previous resolution (-moved) where
  congruent := by
    rw [← neg_sub current previous]
    exact movement.congruent.neg
  shortest := by
    rw [abs_neg]
    exact movement.shortest
  tie half := by
    rw [abs_sub_comm] at half
    rw [movement.tie half, neg_sub]

/-- Readings at most half the resolution apart have not wrapped. -/
theorem straight (near : 2 * |current - previous| ≤ resolution) :
    ShortestMovement previous current resolution (current - previous) where
  congruent := rfl
  shortest := near
  tie _ := rfl

/-- Readings further apart have wrapped. -/
theorem wrapped (far : resolution < 2 * (current - previous))
    (within : current - previous < resolution) :
    ShortestMovement previous current resolution (current - previous - resolution) where
  congruent := Int.sub_modulus_modEq_iff.mpr rfl
  shortest := by
    rw [abs_of_neg (by omega)]
    omega
  tie half := by
    rw [abs_of_pos (by omega)] at half
    omega

/-- Congruent integers that are less than two moduli apart differ by at most one modulus. -/
theorem congruent_near (congruent : moved ≡ other [ZMOD resolution])
    (lower : other < moved + 2 * resolution) (upper : moved < other + 2 * resolution) :
    moved = other ∨ moved = other + resolution ∨ moved = other - resolution := by
  obtain ⟨wraps, difference⟩ := congruent.symm.dvd
  have positive : 0 < resolution := by omega
  have above : wraps < 2 := by
    by_contra far
    have beyond := Int.mul_le_mul_of_nonneg_left (not_lt.mp far) positive.le
    omega
  have below : -2 < wraps := by
    by_contra far
    have beyond := Int.mul_le_mul_of_nonneg_left (not_lt.mp far) positive.le
    omega
  obtain rfl | rfl | rfl : wraps = 0 ∨ wraps = 1 ∨ wraps = -1 := by omega
  · left
    omega
  · right
    left
    omega
  · right
    right
    omega

/-- A movement by less than half the resolution is the shortest one. -/
theorem of_slow (congruent : moved ≡ current - previous [ZMOD resolution])
    (slow : 2 * |moved| < resolution) : ShortestMovement previous current resolution moved where
  congruent := congruent
  shortest := slow.le
  tie half := by
    have lower := neg_abs_le moved
    have upper := le_abs_self moved
    have lowerRaw := neg_abs_le (current - previous)
    have upperRaw := le_abs_self (current - previous)
    rcases congruent_near congruent (by omega) (by omega) with same | up | down
    · exact same
    · omega
    · omega

/-- A movement by half the resolution comes from readings that are half the resolution apart. -/
theorem halfway (movement : ShortestMovement previous current resolution moved)
    (within : |current - previous| < resolution) (half : 2 * |moved| = resolution) :
    2 * |current - previous| = resolution := by
  have nonnegative := abs_nonneg (current - previous)
  have difference := abs_lt.mp within
  rcases abs_choice moved with kept | negated
  all_goals rcases abs_choice (current - previous) with keptRaw | negatedRaw
  all_goals rcases congruent_near movement.congruent (by omega) (by omega) with raw | raw | raw
  all_goals omega

/-- Two readings below the resolution determine the movement. -/
theorem unique (movement : ShortestMovement previous current resolution moved)
    (within : |current - previous| < resolution)
    (rival : ShortestMovement previous current resolution other) : moved = other := by
  have short := movement.shortest
  have shortRival := rival.shortest
  have lower := neg_abs_le moved
  have upper := le_abs_self moved
  have lowerRival := neg_abs_le other
  have upperRival := le_abs_self other
  have positive : 0 < resolution := (abs_nonneg (current - previous)).trans_lt within
  by_contra apart
  -- two movements one wrap apart are half a revolution each
  have half : 2 * |moved| = resolution := by
    rcases congruent_near (movement.congruent.trans rival.congruent.symm) (by omega) (by omega) with
      same | up | down
    · exact absurd same apart
    · omega
    · omega
  have raw := movement.halfway within half
  exact apart ((movement.tie raw).trans (rival.tie raw).symm)

end ShortestMovement
end InvertedPendulum
