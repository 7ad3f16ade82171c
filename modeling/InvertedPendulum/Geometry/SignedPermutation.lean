import Mathlib.Data.Matrix.Mul

namespace Geometry
variable {ι R : Type*}

/-- A signed selection takes every coordinate from some other one, with a sign. -/
def signedSelection [Mul R] (source : ι → ι) (sign : ι → R) (vector : ι → R) : ι → R :=
  fun index => sign index * vector (source index)

/-- A signed permutation reorders the coordinates and turns some of them around. -/
structure SignedPermutation (ι R : Type*) [CommRing R] where
  source : Equiv.Perm ι
  sign : ι → R
  unit : ∀ index, sign index * sign index = 1

namespace SignedPermutation
variable [CommRing R] (change : SignedPermutation ι R)

def transform : (ι → R) → ι → R := signedSelection change.source change.sign

/-- The inverse carries every coordinate back to where it came from. -/
def inverse : SignedPermutation ι R where
  source := change.source.symm
  sign index := change.sign (change.source.symm index)
  unit index := change.unit (change.source.symm index)

theorem inverse_transform (vector : ι → R) :
    change.inverse.transform (change.transform vector) = vector := by
  funext index
  show change.sign (change.source.symm index) *
    (change.sign (change.source.symm index) * vector (change.source (change.source.symm index))) = _
  rw [← mul_assoc, change.unit, one_mul, Equiv.apply_symm_apply]

theorem transform_inverse (vector : ι → R) :
    change.transform (change.inverse.transform vector) = vector := by
  funext index
  show change.sign index * (change.sign (change.source.symm (change.source index)) *
    vector (change.source.symm (change.source index))) = _
  rw [Equiv.symm_apply_apply, ← mul_assoc, change.unit, one_mul]

/-- A signed permutation preserves the inner product. -/
theorem transform_dotProduct [Fintype ι] (first second : ι → R) :
    change.transform first ⬝ᵥ change.transform second = first ⬝ᵥ second := by
  have product : ∀ index, change.transform first index * change.transform second index =
      first (change.source index) * second (change.source index) := by
    intro index
    calc change.sign index * first (change.source index) *
          (change.sign index * second (change.source index))
        = change.sign index * change.sign index *
          (first (change.source index) * second (change.source index)) := by ring
      _ = first (change.source index) * second (change.source index) := by
        rw [change.unit, one_mul]
  unfold dotProduct
  rw [Finset.sum_congr rfl fun index _ => product index]
  exact Equiv.sum_comp change.source fun index => first index * second index

end SignedPermutation

section Isometry
variable [CommRing R] [Nontrivial R] [Fintype ι] [DecidableEq ι] {source : ι → ι} {sign : ι → R}

omit [Nontrivial R] [Fintype ι] in
/-- A selection of a unit vector is zero where it takes another coordinate. -/
theorem signedSelection_single (source : ι → ι) (sign : ι → R) (coordinate index : ι) :
    signedSelection source sign (Pi.single coordinate 1) index =
      if source index = coordinate then sign index else 0 := by
  unfold signedSelection
  rw [Pi.single_apply, mul_ite, mul_one, mul_zero]

/-- A selection that keeps the inner product takes every coordinate once. -/
theorem source_bijective_of_isometry
    (keeps : ∀ vector, signedSelection source sign vector ⬝ᵥ signedSelection source sign vector =
      vector ⬝ᵥ vector) : Function.Bijective source := by
  refine Finite.surjective_iff_bijective.mp fun coordinate => ?_
  by_contra missed
  rw [not_exists] at missed
  have vanishes : signedSelection source sign (Pi.single coordinate 1) = 0 := by
    funext index
    rw [signedSelection_single, if_neg (missed index)]
    rfl
  have kept := keeps (Pi.single coordinate 1)
  rw [vanishes, zero_dotProduct, single_one_dotProduct, Pi.single_eq_same] at kept
  exact zero_ne_one kept

/-- A selection that keeps the inner product has units for signs. -/
theorem sign_unit_of_isometry
    (keeps : ∀ vector, signedSelection source sign vector ⬝ᵥ signedSelection source sign vector =
      vector ⬝ᵥ vector) (index : ι) : sign index * sign index = 1 := by
  have injective := (source_bijective_of_isometry keeps).injective
  have selected : signedSelection source sign (Pi.single (source index) 1) =
      Pi.single index (sign index) := by
    funext other
    rw [signedSelection_single, Pi.single_apply]
    by_cases same : other = index
    · rw [if_pos (congrArg source same), if_pos same, same]
    · rw [if_neg (mt (injective ·) same), if_neg same]
  have kept := keeps (Pi.single (source index) 1)
  rw [selected, single_dotProduct, single_one_dotProduct, Pi.single_eq_same,
    Pi.single_eq_same] at kept
  exact kept

end Isometry
end Geometry
