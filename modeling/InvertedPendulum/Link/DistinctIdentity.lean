import InvertedPendulum.Hashing.Folding
import InvertedPendulum.Link.DeviceIdentity

namespace InvertedPendulum.Link.DeviceIdentity
open Wire

/-- These seeds start the folds of the identity root, of the encryption root and of the address. -/
def seeds : List UInt32 :=
  (List.range 4).map (fun word => identityRootDomain + UInt32.ofNat word) ++
    (List.range 4).map (fun word => encryptionRootDomain + UInt32.ofNat word) ++ [addressDomain]

/-- These are the nine words that an unprogrammed part folds from its unique identifier. -/
def foldedWords (uniqueId : Vector UInt32 3) : List UInt32 := seeds.map (fold uniqueId)

/-- Two unique identifiers differ in one of their words and agree in the others. -/
def DifferInOneWord (first second : Vector UInt32 3) : Prop :=
  ∃ index, ∃ inside : index < 3, first[index] ≠ second[index] ∧
    ∀ other, ∀ within : other < 3, other ≠ index → first[other] = second[other]

/-- The four bytes of a root key at a multiple of four are its aligned word. -/
def alignedWord (key : RootKey) (word : Nat) : List UInt8 := (key.toList.drop (4 * word)).take 4

/-- Each of the five stages of the mix can be undone. -/
theorem mix_injective : Function.Injective mix := by
  have first : Function.Injective fun value : UInt32 => value ^^^ (value >>> 16) :=
    Hashing.xorShift_injective (by decide)
  have second : Function.Injective fun value : UInt32 => value * 0x7feb352d :=
    Hashing.mul_injective (by decide : (0x7feb352d : UInt32) * 0x1d69e2a5 = 1)
  have third : Function.Injective fun value : UInt32 => value ^^^ (value >>> 15) :=
    Hashing.xorShift_injective (by decide)
  have fourth : Function.Injective fun value : UInt32 => value * 0x846ca68b :=
    Hashing.mul_injective (by decide : (0x846ca68b : UInt32) * 0x43021123 = 1)
  exact first.comp (fourth.comp (third.comp (second.comp first)))

/-- Two values stay apart under a word, and two words under a value. -/
theorem absorb_injective :
    (∀ word : UInt32, Function.Injective fun value => mix (value ^^^ word)) ∧
      ∀ value : UInt32, Function.Injective fun word => mix (value ^^^ word) := by
  constructor
  · intro word first second same
    exact (UInt32.xor_left_inj word).mp (mix_injective same)
  · intro value first second same
    exact (UInt32.xor_right_inj value).mp (mix_injective same)

/-- Different seeds give different folds of one unique identifier. -/
theorem fold_injective (uniqueId : Vector UInt32 3) : Function.Injective (fold uniqueId) := by
  obtain ⟨values, -⟩ := absorb_injective
  exact (Hashing.foldl_injective values uniqueId.toList).comp mix_injective

/-- Unique identifiers that differ in one word give different folds of every seed. -/
theorem DifferInOneWord.fold_ne {first second : Vector UInt32 3}
    (differ : DifferInOneWord first second) (seed : UInt32) : fold first seed ≠ fold second seed := by
  obtain ⟨index, inside, distinct, agree⟩ := differ
  obtain ⟨values, words⟩ := absorb_injective
  have length : index < first.toList.length := by rwa [Vector.length_toList]
  have own : first.toList = first.toList.set index first[index] := by
    rw [← Vector.getElem_toList length, List.set_getElem_self]
  have changed : second.toList = first.toList.set index second[index] := by
    apply List.ext_getElem
    · rw [List.length_set, Vector.length_toList, Vector.length_toList]
    · intro other left right
      have within : other < 3 := by rwa [Vector.length_toList] at left
      rw [List.getElem_set, Vector.getElem_toList]
      split
      · rename_i same
        subst same
        rfl
      · rename_i elsewhere
        rw [Vector.getElem_toList]
        exact (agree other within (Ne.symm elsewhere)).symm
  unfold fold
  rw [own, changed]
  exact Hashing.foldl_set_ne values words first.toList length distinct (mix seed)

/-- The nine words of a part are pairwise distinct. -/
theorem foldedWords_nodup (uniqueId : Vector UInt32 3) : (foldedWords uniqueId).Nodup := by
  have distinct : seeds.Nodup := by decide
  exact distinct.map (fold_injective uniqueId)

/-- The aligned word of a root key is the fold of its own seed. -/
theorem alignedWord_deriveRootKey (uniqueId : Vector UInt32 3) (domain : UInt32) {word : Nat}
    (inside : word < 4) :
    alignedWord (deriveRootKey uniqueId domain) word =
      littleEndian (fold uniqueId (domain + UInt32.ofNat word)) := by
  unfold alignedWord littleEndian deriveRootKey
  apply List.ext_getElem
  · rw [List.length_take, List.length_drop, Vector.length_toList, List.length_map,
      List.length_range]
    omega
  · intro index _ right
    rw [List.length_map, List.length_range] at right
    have quotient : (4 * word + index) / 4 = word := by omega
    have remainder : (4 * word + index) % 4 = index := by omega
    rw [List.getElem_take, List.getElem_drop, Vector.getElem_toList, Vector.getElem_ofFn,
      List.getElem_map, List.getElem_range, quotient, remainder]
    rfl

/-- The aligned words of two root keys agree exactly where their folds do. -/
theorem alignedWord_eq_iff {first second : Vector UInt32 3} {domain other : UInt32} {word : Nat}
    (inside : word < 4) :
    alignedWord (deriveRootKey first domain) word = alignedWord (deriveRootKey second other) word ↔
      fold first (domain + UInt32.ofNat word) = fold second (other + UInt32.ofNat word) := by
  rw [alignedWord_deriveRootKey first domain inside, alignedWord_deriveRootKey second other inside]
  exact littleEndian_injective.eq_iff

/-- The nine folds of a part are pairwise distinct, and so are the two root keys in every aligned
word. Parts whose unique identifiers differ in one word differ in all nine folds, and their root
keys differ in every aligned word. -/
theorem root_keys_are_separated :
    (∀ uniqueId, (foldedWords uniqueId).Nodup) ∧
      (∀ factory word, word < 4 →
        alignedWord (deriveDeviceIdentity factory).identityRoot word ≠
          alignedWord (deriveDeviceIdentity factory).encryptionRoot word) ∧
      (∀ first second, DifferInOneWord first second →
        List.Forall₂ (· ≠ ·) (foldedWords first) (foldedWords second)) ∧
      (∀ factory other, DifferInOneWord factory.uniqueId other.uniqueId → ∀ word, word < 4 →
        alignedWord (deriveDeviceIdentity factory).identityRoot word ≠
            alignedWord (deriveDeviceIdentity other).identityRoot word ∧
          alignedWord (deriveDeviceIdentity factory).encryptionRoot word ≠
            alignedWord (deriveDeviceIdentity other).encryptionRoot word) := by
  refine ⟨foldedWords_nodup, ?_, ?_, ?_⟩
  · intro factory word inside same
    have domains := fold_injective factory.uniqueId ((alignedWord_eq_iff inside).mp same)
    rw [UInt32.add_left_inj] at domains
    exact absurd domains (by decide)
  · intro first second differ
    unfold foldedWords
    rw [List.forall₂_map_left_iff, List.forall₂_map_right_iff, List.forall₂_same]
    exact fun seed _ => differ.fold_ne seed
  · intro factory other differ word inside
    constructor
    · intro same
      exact differ.fold_ne _ ((alignedWord_eq_iff inside).mp same)
    · intro same
      exact differ.fold_ne _ ((alignedWord_eq_iff inside).mp same)

/-- Two parts of one lot have different identity roots in their first word. -/
theorem root_keys_are_separated_in_one_lot :
    alignedWord (deriveDeviceIdentity ⟨0x1234, 0x26, 0x0080e1, #v[1, 2, 3]⟩).identityRoot 0 ≠
      alignedWord (deriveDeviceIdentity ⟨0x1234, 0x26, 0x0080e1, #v[1, 2, 5]⟩).identityRoot 0 := by
  have differ : DifferInOneWord #v[1, 2, 3] #v[1, 2, 5] := by
    refine ⟨2, by decide, by decide, ?_⟩
    intro other within elsewhere
    obtain rfl | rfl : other = 0 ∨ other = 1 := by omega
    · rfl
    · rfl
  obtain ⟨-, -, -, keys⟩ := root_keys_are_separated
  exact (keys ⟨0x1234, 0x26, 0x0080e1, #v[1, 2, 3]⟩ ⟨0x1234, 0x26, 0x0080e1, #v[1, 2, 5]⟩ differ 0
    (by decide)).1

/-- Two values share their two low bytes when they share their low sixteen bits. -/
theorem lowBytes_eq_iff {first second : UInt32} :
    byteOf first 0 = byteOf second 0 ∧ byteOf first 1 = byteOf second 1 ↔
      first.toNat % 2 ^ 16 = second.toNat % 2 ^ 16 := by
  have low (value : UInt32) : (byteOf value 0).toNat = value.toNat / 2 ^ (8 * 0) % 256 :=
    byteAt_toNat value (by decide)
  have high (value : UInt32) : (byteOf value 1).toNat = value.toNat / 2 ^ (8 * 1) % 256 :=
    byteAt_toNat value (by decide)
  rw [← UInt8.toNat_inj, ← UInt8.toNat_inj, low, low, high, high]
  omega

theorem address_bytes (factory : FactoryIdentity) :
    (deriveDeviceIdentity factory).address =
      #v[byteOf (addressLowBytes factory) 0, byteOf (addressLowBytes factory) 1, factory.deviceId,
        byteOf factory.companyId 0, byteOf factory.companyId 1, byteOf factory.companyId 2] := rfl

/-- Two programmed parts of one device and company have different addresses exactly when the low
sixteen bits of their device numbers differ. -/
theorem address_differs_iff {factory other : FactoryIdentity}
    (programmed : factory.uniqueDeviceNumber ≠ unprogrammedDeviceNumber ∧
      other.uniqueDeviceNumber ≠ unprogrammedDeviceNumber)
    (device : factory.deviceId = other.deviceId) (company : factory.companyId = other.companyId) :
    (deriveDeviceIdentity factory).address ≠ (deriveDeviceIdentity other).address ↔
      factory.uniqueDeviceNumber.toNat % 2 ^ 16 ≠ other.uniqueDeviceNumber.toNat % 2 ^ 16 := by
  obtain ⟨first, second⟩ := programmed
  have own : addressLowBytes factory = factory.uniqueDeviceNumber := if_pos first
  have others : addressLowBytes other = other.uniqueDeviceNumber := if_pos second
  apply not_congr
  rw [← lowBytes_eq_iff, address_bytes, address_bytes, own, others, device, company]
  simp

/-- Parts whose device numbers are one apart have different addresses. -/
theorem address_differs_for_neighbours :
    (deriveDeviceIdentity ⟨0x1234, 0x26, 0x0080e1, #v[1, 2, 3]⟩).address ≠
      (deriveDeviceIdentity ⟨0x1235, 0x26, 0x0080e1, #v[1, 2, 3]⟩).address := by
  let first : FactoryIdentity := ⟨0x1234, 0x26, 0x0080e1, #v[1, 2, 3]⟩
  let second : FactoryIdentity := ⟨0x1235, 0x26, 0x0080e1, #v[1, 2, 3]⟩
  have programmed : first.uniqueDeviceNumber ≠ unprogrammedDeviceNumber ∧
      second.uniqueDeviceNumber ≠ unprogrammedDeviceNumber := by decide
  exact (address_differs_iff programmed rfl rfl).mpr (by decide)

/-- Two device numbers that agree in their low sixteen bits give one address. -/
theorem address_is_shared :
    ¬ ∀ factory other : FactoryIdentity, factory.deviceId = other.deviceId →
      factory.companyId = other.companyId →
      factory.uniqueDeviceNumber ≠ unprogrammedDeviceNumber →
      other.uniqueDeviceNumber ≠ unprogrammedDeviceNumber →
      factory.uniqueDeviceNumber ≠ other.uniqueDeviceNumber →
      (deriveDeviceIdentity factory).address ≠ (deriveDeviceIdentity other).address := by
  intro claimed
  have differ := claimed ⟨0x00011234, 0x26, 0x0080e1, #v[1, 2, 3]⟩
    ⟨0x00021234, 0x26, 0x0080e1, #v[4, 5, 6]⟩ rfl rfl (by decide) (by decide) (by decide)
  exact differ (by decide +kernel)

end InvertedPendulum.Link.DeviceIdentity
