import InvertedPendulum.Estimation.AttitudeEstimation
import InvertedPendulum.Geometry.SignedPermutation
import InvertedPendulum.Odometry.WheelOdometry
import Mathlib.Algebra.BigOperators.Fin
import Mathlib.Data.Fin.VecNotation
import Mathlib.Tactic.FinCases

namespace InvertedPendulum.Platform
open Odometry

/-- Each body axis comes from one axis of the sensor, with a sign. -/
structure AxisMap (F : Type) where
  xFrom : UInt8
  yFrom : UInt8
  zFrom : UInt8
  xSign : F
  ySign : F
  zSign : F

section Frame
variable {F : Type} [FloatArithmetic F]

def AxisMap.default : AxisMap F := ⟨0, 1, 2, 1, 1, 1⟩

def isUnitSign (sign : F) : Bool := sameFloat sign 1 || sameFloat sign (-1)

/-- These are the three assertions of `ToBodyFrame`. -/
structure AxisMap.Admissible (map : AxisMap F) : Prop where
  within : map.xFrom < 3 ∧ map.yFrom < 3 ∧ map.zFrom < 3
  distinct : map.xFrom ≠ map.yFrom ∧ map.yFrom ≠ map.zFrom ∧ map.xFrom ≠ map.zFrom
  signed : isUnitSign map.xSign ∧ isUnitSign map.ySign ∧ isUnitSign map.zSign

instance (map : AxisMap F) : Decidable map.Admissible :=
  decidable_of_iff
    ((map.xFrom < 3 ∧ map.yFrom < 3 ∧ map.zFrom < 3) ∧
      (map.xFrom ≠ map.yFrom ∧ map.yFrom ≠ map.zFrom ∧ map.xFrom ≠ map.zFrom) ∧
      (isUnitSign map.xSign ∧ isUnitSign map.ySign ∧ isUnitSign map.zSign))
    ⟨fun checked => ⟨checked.1, checked.2.1, checked.2.2⟩,
      fun admissible => ⟨admissible.within, admissible.distinct, admissible.signed⟩⟩

/-- The signed selection reads nothing outside the three readings. -/
def AxisMap.selected (map : AxisMap F) (first second third : F) : Option (InertialAxes F) := do
  let sensor := [first, second, third]
  let x ← sensor[map.xFrom.toNat]?
  let y ← sensor[map.yFrom.toNat]?
  let z ← sensor[map.zFrom.toNat]?
  some ⟨map.xSign * x, map.ySign * y, map.zSign * z⟩

/-- A failed assertion stops the firmware before it reads. -/
def toBodyFrame (map : AxisMap F) (first second third : F) : Option (InertialAxes F) :=
  if map.Admissible then map.selected first second third else none

def milliDegreePerSecondToRadianPerSecond [FloatPi F] (milliDegreePerSecond : Int32) : F :=
  ((milliDegreePerSecond.toInt : ℚ) : F) * FloatPi.pi / ((180000 : ℚ) : F)

def milliMeterPerSecondSquaredToMeterPerSecondSquared (milliMeterPerSecondSquared : Int32) : F :=
  ((milliMeterPerSecondSquared.toInt : ℚ) : F) * ((1 / 1000 : ℚ) : F)

end Frame

section Rigid
open Geometry Estimation
variable {F : Type} [Field F] [LinearOrder F]

def InertialAxes.coordinates (axes : InertialAxes F) : Fin 3 → F := ![axes.x, axes.y, axes.z]

omit [Field F] [LinearOrder F] in
theorem InertialAxes.coordinates_injective :
    Function.Injective (coordinates : InertialAxes F → Fin 3 → F) := by
  intro first second same
  obtain ⟨x, y, z⟩ := first
  have sameX := congrFun same 0
  have sameY := congrFun same 1
  have sameZ := congrFun same 2
  obtain rfl : x = second.x := sameX
  obtain rfl : y = second.y := sameY
  obtain rfl : z = second.z := sameZ
  rfl

omit [Field F] [LinearOrder F] in
theorem InertialAxes.read_coordinates (axes : InertialAxes F) (index : Fin 3) :
    [axes.x, axes.y, axes.z][index.val]? = some (axes.coordinates index) := by
  fin_cases index <;> rfl

omit [Field F] [LinearOrder F] in
theorem InertialAxes.coordinates_surjective (coordinates : Fin 3 → F) :
    ∃ axes : InertialAxes F, axes.coordinates = coordinates := by
  use ⟨coordinates 0, coordinates 1, coordinates 2⟩
  funext index
  fin_cases index <;> rfl

/-- The three readings of the sensor go to the body frame together. -/
def AxisMap.bodyFrame (map : AxisMap F) (reading : InertialAxes F) : Option (InertialAxes F) :=
  toBodyFrame map reading.x reading.y reading.z

/-- Without the assertions the three readings would be selected in this way. -/
def AxisMap.selection (map : AxisMap F) (reading : InertialAxes F) : Option (InertialAxes F) :=
  map.selected reading.x reading.y reading.z

def InertialAxes.inner (first second : InertialAxes F) : F :=
  first.x * second.x + first.y * second.y + first.z * second.z

omit [LinearOrder F] in
theorem InertialAxes.inner_eq (first second : InertialAxes F) :
    first.inner second = first.coordinates ⬝ᵥ second.coordinates := by
  unfold dotProduct
  rw [Fin.sum_univ_three]
  rfl

/-- A rigid map selects from every reading, and keeps all lengths and angles. -/
structure AxisMap.Rigid (map : AxisMap F) : Prop where
  selects : ∀ reading, ∃ body, map.selection reading = some body
  inner : ∀ first second firstBody secondBody, map.selection first = some firstBody →
    map.selection second = some secondBody → firstBody.inner secondBody = first.inner second

/-- A body frame gets every reading, reaches every body vector from one of them, and does not change
the trust in an acceleration with the way the sensor is mounted. -/
structure AxisMap.Frames [FloatGeometry F] (map : AxisMap F) : Prop where
  framed : ∀ reading, ∃ body, map.bodyFrame reading = some body ∧ map.selection reading = some body
  reached : ∀ body, ∃! reading, map.bodyFrame reading = some body
  trust : ∀ reading body band, map.bodyFrame reading = some body →
    accelerometerTrust body band = accelerometerTrust reading band

theorem isUnitSign_iff {sign : F} : isUnitSign sign = true ↔ sign = 1 ∨ sign = -1 := by
  have same (first second : F) : sameFloat first second = true ↔ first = second := by
    unfold sameFloat
    rw [decide_eq_true_iff, le_antisymm_iff]
  unfold isUnitSign
  rw [Bool.or_eq_true, same, same]

theorem isUnitSign_iff_square {sign : F} : isUnitSign sign = true ↔ sign * sign = 1 := by
  rw [isUnitSign_iff, mul_self_eq_one_iff]

namespace AxisMap
variable {map : AxisMap F}

/-- The map reads inside the array of three readings. -/
def Within (map : AxisMap F) : Prop := map.xFrom < 3 ∧ map.yFrom < 3 ∧ map.zFrom < 3

def axis (index : UInt8) (within : index < 3) : Fin 3 := ⟨index.toNat, UInt8.lt_iff_toNat_lt.mp within⟩

def Within.source (within : map.Within) : Fin 3 → Fin 3 :=
  ![axis map.xFrom within.1, axis map.yFrom within.2.1, axis map.zFrom within.2.2]

def sign (map : AxisMap F) : Fin 3 → F := ![map.xSign, map.ySign, map.zSign]

omit [Field F] [LinearOrder F] in
theorem axis_inj {first second : UInt8} {below : first < 3} {under : second < 3} :
    axis first below = axis second under ↔ first = second := by
  unfold axis
  rw [Fin.mk.injEq, UInt8.toNat_inj]

omit [Field F] [LinearOrder F] in
/-- The sources are injective exactly where no two of them are the same. -/
theorem Within.source_injective_iff (within : map.Within) :
    Function.Injective within.source ↔
      map.xFrom ≠ map.yFrom ∧ map.yFrom ≠ map.zFrom ∧ map.xFrom ≠ map.zFrom := by
  have x : within.source 0 = axis map.xFrom within.1 := rfl
  have y : within.source 1 = axis map.yFrom within.2.1 := rfl
  have z : within.source 2 = axis map.zFrom within.2.2 := rfl
  have apart : (within.source 0 ≠ within.source 1 ∧ within.source 1 ≠ within.source 2 ∧
      within.source 0 ≠ within.source 2) ↔
      map.xFrom ≠ map.yFrom ∧ map.yFrom ≠ map.zFrom ∧ map.xFrom ≠ map.zFrom := by
    rw [x, y, z, Ne, Ne, Ne, axis_inj, axis_inj, axis_inj]
  rw [← apart]
  constructor
  · intro injective
    exact ⟨injective.ne (by decide), injective.ne (by decide), injective.ne (by decide)⟩
  · rintro ⟨xy, yz, xz⟩ first second same
    fin_cases first <;> fin_cases second <;> first
      | rfl
      | exact absurd same xy
      | exact absurd same yz
      | exact absurd same xz
      | exact absurd same.symm xy
      | exact absurd same.symm yz
      | exact absurd same.symm xz

omit [Field F] [LinearOrder F] in
/-- The signs pass where each of them does. -/
theorem signed_iff (map : AxisMap F) (passes : F → Prop) :
    (∀ index, passes (map.sign index)) ↔ passes map.xSign ∧ passes map.ySign ∧ passes map.zSign := by
  rw [Fin.forall_fin_succ, Fin.forall_fin_two]
  rfl

/-- A map that reads inside the array selects the coordinates with their signs. -/
theorem Within.selection_eq (within : map.Within) (reading : InertialAxes F) :
    ∃ body, map.selection reading = some body ∧
      body.coordinates = signedSelection within.source map.sign reading.coordinates := by
  have reads : ∀ (index : UInt8) (within : index < 3),
      [reading.x, reading.y, reading.z][index.toNat]? =
        some (reading.coordinates (axis index within)) :=
    fun index within => reading.read_coordinates (axis index within)
  obtain ⟨x, y, z⟩ := within
  have body : map.selection reading = some ⟨map.xSign * reading.coordinates (axis map.xFrom x),
      map.ySign * reading.coordinates (axis map.yFrom y),
      map.zSign * reading.coordinates (axis map.zFrom z)⟩ := by
    unfold selection selected
    simp only [reads _ x, reads _ y, reads _ z, Option.bind_eq_bind, Option.bind_some]
  refine ⟨_, body, ?_⟩
  funext index
  fin_cases index <;> rfl

/-- A map that selects from a reading reads inside the array. -/
theorem within_of_selects {reading body : InertialAxes F}
    (selects : map.selection reading = some body) : map.Within := by
  obtain ⟨_, readX, selects⟩ := Option.bind_eq_some_iff.mp selects
  obtain ⟨_, readY, selects⟩ := Option.bind_eq_some_iff.mp selects
  obtain ⟨_, readZ, -⟩ := Option.bind_eq_some_iff.mp selects
  have inside {index : UInt8} {value : F}
      (read : [reading.x, reading.y, reading.z][index.toNat]? = some value) : index < 3 :=
    UInt8.lt_iff_toNat_lt.mpr (List.getElem?_eq_some_iff.mp read).1
  exact ⟨inside readX, inside readY, inside readZ⟩

/-- The selection of a rigid map keeps the inner product. -/
theorem Rigid.keeps (rigid : map.Rigid) (within : map.Within) (vector : Fin 3 → F) :
    signedSelection within.source map.sign vector ⬝ᵥ
      signedSelection within.source map.sign vector = vector ⬝ᵥ vector := by
  obtain ⟨reading, rfl⟩ := InertialAxes.coordinates_surjective vector
  obtain ⟨body, selects, coordinates⟩ := within.selection_eq reading
  rw [← coordinates, ← InertialAxes.inner_eq, ← InertialAxes.inner_eq]
  exact rigid.inner reading reading body body selects selects

/-- A rigid map passes the three assertions. -/
theorem Rigid.admissible (rigid : map.Rigid) : map.Admissible := by
  obtain ⟨body, selects⟩ := rigid.selects ⟨0, 0, 0⟩
  have within := within_of_selects selects
  have bijective := source_bijective_of_isometry (rigid.keeps within)
  have units := sign_unit_of_isometry (rigid.keeps within)
  constructor
  · exact within
  · exact within.source_injective_iff.mp bijective.injective
  · have signs (index : Fin 3) := isUnitSign_iff_square.mpr (units index)
    exact (map.signed_iff fun sign => isUnitSign sign = true).mp signs

/-- An admissible map is a signed permutation of the three axes. -/
noncomputable def Admissible.change (admissible : map.Admissible) : SignedPermutation (Fin 3) F where
  source := Equiv.ofBijective (Within.source admissible.within)
    (Finite.injective_iff_bijective.mp
      ((Within.source_injective_iff admissible.within).mpr admissible.distinct))
  sign := map.sign
  unit := (map.signed_iff fun sign => sign * sign = 1).mpr
    (admissible.signed.imp isUnitSign_iff_square.mp
      (And.imp isUnitSign_iff_square.mp isUnitSign_iff_square.mp))

theorem Admissible.bodyFrame_eq (admissible : map.Admissible) (reading : InertialAxes F) :
    ∃ body, map.bodyFrame reading = some body ∧ map.selection reading = some body ∧
      body.coordinates = admissible.change.transform reading.coordinates := by
  obtain ⟨body, selects, coordinates⟩ := Within.selection_eq admissible.within reading
  refine ⟨body, ?_, selects, coordinates⟩
  exact (if_pos admissible).trans selects

/-- An admissible map has an inverse on the body vectors. -/
theorem Admissible.reached (admissible : map.Admissible) (body : InertialAxes F) :
    ∃! reading, map.bodyFrame reading = some body := by
  obtain ⟨reading, came⟩ :=
    InertialAxes.coordinates_surjective (admissible.change.inverse.transform body.coordinates)
  have back : ∀ other, map.bodyFrame other = some body ↔
      admissible.change.transform other.coordinates = body.coordinates := by
    intro other
    obtain ⟨there, framed, -, coordinates⟩ := admissible.bodyFrame_eq other
    rw [framed, ← coordinates, Option.some.injEq]
    exact (InertialAxes.coordinates_injective.eq_iff).symm
  refine ⟨reading, ?_, ?_⟩
  · show map.bodyFrame reading = some body
    rw [back, came, SignedPermutation.transform_inverse]
  · intro other framed
    apply InertialAxes.coordinates_injective
    rw [came, ← (back other).mp framed, SignedPermutation.inverse_transform]

/-- An admissible map is rigid. -/
theorem Admissible.rigid (admissible : map.Admissible) : map.Rigid := by
  constructor
  · intro reading
    obtain ⟨body, -, selects, -⟩ := admissible.bodyFrame_eq reading
    exact ⟨body, selects⟩
  · intro first second firstBody secondBody firstSelects secondSelects
    obtain ⟨_, -, selects, firstCoordinates⟩ := admissible.bodyFrame_eq first
    obtain rfl := Option.some.inj (firstSelects.symm.trans selects)
    obtain ⟨_, -, selects, secondCoordinates⟩ := admissible.bodyFrame_eq second
    obtain rfl := Option.some.inj (secondSelects.symm.trans selects)
    rw [InertialAxes.inner_eq, InertialAxes.inner_eq, firstCoordinates, secondCoordinates,
      SignedPermutation.transform_dotProduct]

variable [FloatGeometry F]

/-- The trust in an acceleration is a function of its length. -/
theorem accelerometerTrust_of_inner {first second : InertialAxes F}
    (same : first.inner first = second.inner second) (band : F) :
    accelerometerTrust first band = accelerometerTrust second band :=
  congrArg (fun square => clamp (1 - fabs (FloatGeometry.sqrt square - standardGravity) /
    (band * standardGravity)) 0 1) same

/-- An admissible map gives every reading its body frame. -/
theorem Admissible.frames (admissible : map.Admissible) : map.Frames := by
  constructor
  · intro reading
    obtain ⟨body, framed, selects, -⟩ := admissible.bodyFrame_eq reading
    exact ⟨body, framed, selects⟩
  · exact admissible.reached
  · intro reading body band framed
    obtain ⟨_, came, selects, -⟩ := admissible.bodyFrame_eq reading
    obtain rfl := Option.some.inj (framed.symm.trans came)
    have kept := admissible.rigid.inner reading reading body body selects selects
    exact accelerometerTrust_of_inner kept band

/-- The assertions of `ToBodyFrame` admit exactly the rigid maps; a rigid map has a body frame, and no
other map reaches one with any reading. -/
theorem admissible_iff_rigid (map : AxisMap F) :
    (map.Admissible ↔ map.Rigid) ∧ (map.Rigid → map.Frames) ∧
      (¬ map.Rigid → ∀ reading, map.bodyFrame reading = none) := by
  refine ⟨⟨Admissible.rigid, Rigid.admissible⟩, ?_, ?_⟩
  · intro rigid
    exact rigid.admissible.frames
  · intro loose reading
    exact if_neg (mt Admissible.rigid loose)

end AxisMap
end Rigid
end InvertedPendulum.Platform
