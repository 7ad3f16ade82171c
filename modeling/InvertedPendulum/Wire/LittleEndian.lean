import Mathlib.Algebra.BigOperators.Group.Finset.Basic
import Mathlib.Data.List.GetD
import Mathlib.Tactic.Ring

namespace Wire

/-- A byte of a word is the low byte of the word shifted down to it. -/
def byteAt (word : UInt32) (index : Nat) : UInt8 := (word >>> UInt32.ofNat (8 * index)).toUInt8

/-- The four bytes of a word stand least significant first. -/
def littleEndian (word : UInt32) : List UInt8 := (List.range 4).map (byteAt word)

/-- Four bytes from an offset on make a word, and a missing byte counts as zero. -/
def fromLittleEndian (source : List UInt8) (offset : Nat) : UInt32 :=
  (List.range 4).foldl
    (fun bits byte => bits ||| (source.getD (offset + byte) 0).toUInt32 <<< UInt32.ofNat (8 * byte)) 0

@[simp] theorem littleEndian_length (word : UInt32) : (littleEndian word).length = 4 := rfl

/-- A byte of a word is one of its digits to the base of 256. -/
theorem byteAt_toNat (word : UInt32) {index : Nat} (inside : index < 4) :
    (byteAt word index).toNat = word.toNat / 2 ^ (8 * index) % 256 := by
  have shift : (UInt32.ofNat (8 * index)).toNat = 8 * index := by
    rw [UInt32.toNat_ofNat']
    omega
  unfold byteAt
  rw [UInt32.toNat_toUInt8, UInt32.toNat_shiftRight, shift,
    Nat.mod_eq_of_lt (by omega : 8 * index < 32), Nat.shiftRight_eq_div_pow]

/-- A byte joins a word above the bits that the word already has. -/
theorem or_byte_toNat {low : UInt32} {index : Nat} (byte : UInt8) (inside : index < 4)
    (below : low.toNat < 2 ^ (8 * index)) :
    (low ||| byte.toUInt32 <<< UInt32.ofNat (8 * index)).toNat =
      low.toNat + 2 ^ (8 * index) * byte.toNat := by
  have shift : (UInt32.ofNat (8 * index)).toNat = 8 * index := by
    rw [UInt32.toNat_ofNat']
    omega
  have power : (2 : Nat) ^ (8 * index) ≤ 2 ^ 24 := Nat.pow_le_pow_right (by decide) (by omega)
  have fits : byte.toNat * 2 ^ (8 * index) < 2 ^ 32 := by
    have small := byte.toNat_lt
    calc byte.toNat * 2 ^ (8 * index) ≤ 255 * 2 ^ 24 := Nat.mul_le_mul (by omega) power
      _ < 2 ^ 32 := by decide
  rw [UInt32.toNat_or, UInt32.toNat_shiftLeft, shift, Nat.mod_eq_of_lt (by omega : 8 * index < 32),
    UInt8.toNat_toUInt32, Nat.shiftLeft_eq, Nat.mod_eq_of_lt fits, Nat.or_comm,
    Nat.mul_comm byte.toNat, ← Nat.two_pow_add_eq_or_of_lt below, Nat.add_comm]

/-- The bytes read so far are the digits of the word so far. -/
theorem fold_toNat (source : List UInt8) (offset : Nat) {count : Nat} (inside : count ≤ 4) :
    ((List.range count).foldl (fun bits byte => bits |||
        (source.getD (offset + byte) 0).toUInt32 <<< UInt32.ofNat (8 * byte)) 0).toNat =
      ∑ byte ∈ Finset.range count, 2 ^ (8 * byte) * (source.getD (offset + byte) 0).toNat ∧
    ∑ byte ∈ Finset.range count, 2 ^ (8 * byte) * (source.getD (offset + byte) 0).toNat <
      2 ^ (8 * count) := by
  induction count with
  | zero => exact ⟨rfl, Nat.one_pos⟩
  | succ count ih =>
      obtain ⟨value, below⟩ := ih (by omega)
      have digit := (source.getD (offset + count) 0).toNat_lt
      rw [List.range_succ, List.foldl_append, Finset.sum_range_succ]
      constructor
      · rw [← value] at below
        exact (or_byte_toNat _ (by omega) below).trans (by rw [value])
      · have scaled : 2 ^ (8 * count) * (source.getD (offset + count) 0).toNat ≤
            2 ^ (8 * count) * 255 := Nat.mul_le_mul_left _ (by omega)
        have power : 2 ^ (8 * (count + 1)) = 2 ^ (8 * count) + 2 ^ (8 * count) * 255 := by ring
        omega

/-- A word is the sum of its bytes as digits. -/
theorem fromLittleEndian_toNat (source : List UInt8) (offset : Nat) :
    (fromLittleEndian source offset).toNat =
      (source.getD (offset + 0) 0).toNat + 2 ^ 8 * (source.getD (offset + 1) 0).toNat +
        2 ^ 16 * (source.getD (offset + 2) 0).toNat +
          2 ^ 24 * (source.getD (offset + 3) 0).toNat := by
  unfold fromLittleEndian
  rw [(fold_toNat source offset le_rfl).1]
  simp [Finset.sum_range_succ]

/-- Each byte of a word is the byte that it was read from. -/
theorem byteAt_fromLittleEndian (source : List UInt8) (offset : Nat) {index : Nat}
    (inside : index < 4) :
    byteAt (fromLittleEndian source offset) index = source.getD (offset + index) 0 := by
  have first := (source.getD (offset + 0) 0).toNat_lt
  have second := (source.getD (offset + 1) 0).toNat_lt
  have third := (source.getD (offset + 2) 0).toNat_lt
  have fourth := (source.getD (offset + 3) 0).toNat_lt
  apply UInt8.toNat_inj.mp
  rw [byteAt_toNat _ inside, fromLittleEndian_toNat]
  obtain rfl | rfl | rfl | rfl : index = 0 ∨ index = 1 ∨ index = 2 ∨ index = 3 := by omega
  · omega
  · omega
  · omega
  · omega

/-- Reading the four bytes of a word gives the word. -/
theorem fromLittleEndian_of_bytes {source : List UInt8} {offset : Nat} {word : UInt32}
    (bytes : ∀ index < 4, source.getD (offset + index) 0 = byteAt word index) :
    fromLittleEndian source offset = word := by
  have bound := word.toNat_lt
  apply UInt32.toNat_inj.mp
  rw [fromLittleEndian_toNat, bytes 0 (by decide), bytes 1 (by decide), bytes 2 (by decide),
    bytes 3 (by decide), byteAt_toNat word (by decide), byteAt_toNat word (by decide),
    byteAt_toNat word (by decide), byteAt_toNat word (by decide)]
  omega

/-- A word stands in the four bytes it was written as, wherever they stand. -/
theorem fromLittleEndian_append (front back : List UInt8) (word : UInt32) :
    fromLittleEndian (front ++ littleEndian word ++ back) front.length = word := by
  apply fromLittleEndian_of_bytes
  intro index inside
  rw [List.append_assoc, List.getD_append_right _ _ _ _ (by omega), Nat.add_sub_cancel_left,
    List.getD_append _ _ _ _ (by rwa [littleEndian_length])]
  obtain rfl | rfl | rfl | rfl : index = 0 ∨ index = 1 ∨ index = 2 ∨ index = 3 := by omega
  all_goals rfl

/-- A word is determined by its four bytes. -/
theorem littleEndian_injective : Function.Injective littleEndian := by
  apply Function.LeftInverse.injective (g := fun bytes => fromLittleEndian bytes 0)
  intro word
  simpa using fromLittleEndian_append [] [] word

/-- The bytes of a word that was read are the bytes that were read. -/
theorem littleEndian_fromLittleEndian {source : List UInt8} {offset : Nat}
    (room : offset + 4 ≤ source.length) :
    littleEndian (fromLittleEndian source offset) = (source.drop offset).take 4 := by
  apply List.ext_getElem
  · rw [littleEndian_length, List.length_take, List.length_drop]
    omega
  · intro index left right
    have inside : index < 4 := left
    have entry : (littleEndian (fromLittleEndian source offset))[index] =
        byteAt (fromLittleEndian source offset) index := by
      simp [littleEndian]
    have read : byteAt (fromLittleEndian source offset) index = source[offset + index] := by
      rw [byteAt_fromLittleEndian source offset inside]
      exact List.getD_eq_getElem _ _ (by omega)
    exact entry.trans (read.trans (by simp))

end Wire
