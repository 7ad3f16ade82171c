import Mathlib.Data.UInt
import Mathlib.Logic.Function.Basic

namespace Hashing

/-- A word that a shift to the right leaves as it is has no bits. -/
theorem eq_zero_of_shiftRight {word shift : UInt32} (moves : 0 < shift.toNat % 32)
    (same : word >>> shift = word) : word = 0 := by
  have values := congrArg UInt32.toNat same
  rw [UInt32.toNat_shiftRight, Nat.shiftRight_eq_div_pow] at values
  apply UInt32.toNat_inj.mp
  rcases Nat.eq_zero_or_pos word.toNat with zero | positive
  · exact zero
  · have smaller : word.toNat / 2 ^ (shift.toNat % 32) < word.toNat :=
      Nat.div_lt_self positive (Nat.one_lt_two_pow moves.ne')
    omega

/-- Folding the high bits of a word onto its low bits loses nothing. -/
theorem xorShift_injective {shift : UInt32} (moves : 0 < shift.toNat % 32) :
    Function.Injective fun word : UInt32 => word ^^^ (word >>> shift) := by
  intro first second same
  have rearranged : (first ^^^ (first >>> shift)) ^^^ (second ^^^ (second >>> shift)) =
      (first ^^^ second) ^^^ ((first >>> shift) ^^^ (second >>> shift)) := by ac_rfl
  have difference : (first ^^^ second) >>> shift = first ^^^ second := by
    rw [UInt32.shiftRight_xor]
    apply Eq.symm
    apply UInt32.xor_eq_zero_iff.mp
    rw [← rearranged]
    exact UInt32.xor_eq_zero_iff.mpr same
  exact UInt32.xor_eq_zero_iff.mp (eq_zero_of_shiftRight moves difference)

/-- Multiplying by a word that has an inverse loses nothing. -/
theorem mul_injective {factor inverse : UInt32} (inverts : factor * inverse = 1) :
    Function.Injective fun word : UInt32 => word * factor := by
  apply Function.LeftInverse.injective (g := fun word => word * inverse)
  intro word
  show word * factor * inverse = word
  rw [UInt32.mul_assoc, inverts, UInt32.mul_one]

section Folding
variable {Word Letter : Type*} {absorb : Word → Letter → Word}

/-- A fold that never merges two words keeps its seeds apart. -/
theorem foldl_injective (seeds : ∀ letter, Function.Injective fun word => absorb word letter)
    (letters : List Letter) : Function.Injective fun seed => letters.foldl absorb seed := by
  induction letters with
  | nil => exact Function.injective_id
  | cons letter rest ih => exact ih.comp (seeds letter)

/-- A fold that never merges two letters keeps apart what differs in one place. -/
theorem foldl_set_ne (seeds : ∀ letter, Function.Injective fun word => absorb word letter)
    (letters : ∀ word, Function.Injective (absorb word)) (text : List Letter) {index : Nat}
    (inside : index < text.length) {first second : Letter} (distinct : first ≠ second)
    (seed : Word) :
    (text.set index first).foldl absorb seed ≠ (text.set index second).foldl absorb seed := by
  rw [List.set_eq_take_append_cons_drop, List.set_eq_take_append_cons_drop, if_pos inside,
    if_pos inside, List.foldl_append, List.foldl_append, List.foldl_cons, List.foldl_cons]
  intro same
  exact distinct (letters _ (foldl_injective seeds _ same))

end Folding
end Hashing
