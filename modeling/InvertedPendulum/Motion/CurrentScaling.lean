import InvertedPendulum.Arithmetic.Integers
import Mathlib.Tactic.Ring

namespace InvertedPendulum.Motion
open MachineType

/-- The sense amplifier of the driver has four gains. -/
inductive Isgain where
  | gain40
  | gain20
  | gain10
  | gain5
  deriving DecidableEq

structure CurrentScaling where
  senseGain : Isgain
  torque : UInt8
  deriving DecidableEq

namespace CurrentScaling

def senseGainsHighestFirst : List Isgain := [.gain40, .gain20, .gain10, .gain5]

def senseGainValuesHighestFirst : List UInt64 := [40, 20, 10, 5]

def referenceMicroVolt : UInt64 := 2750000

def torqueSteps : UInt64 := 256

def maximumTorque : UInt64 := 255

def torqueFor (senseGain : UInt64) (senseResistanceMilliOhm tripCurrentMilliAmpere : UInt32) :
    UInt64 :=
  torqueSteps * senseGain * senseResistanceMilliOhm.toUInt64 * tripCurrentMilliAmpere.toUInt64 /
    referenceMicroVolt

/-- The loop returns the first gain whose torque fits in its field. -/
def firstFitting (senseResistanceMilliOhm tripCurrentMilliAmpere : UInt32) :
    List (Isgain × UInt64) → CurrentScaling
  | [] => ⟨.gain5, maximumTorque.toUInt8⟩
  | (gain, value) :: rest =>
      let torque := torqueFor value senseResistanceMilliOhm tripCurrentMilliAmpere
      if torque ≤ maximumTorque then ⟨gain, torque.toUInt8⟩
      else firstFitting senseResistanceMilliOhm tripCurrentMilliAmpere rest

def scaleCurrent (senseResistanceMilliOhm tripCurrentMilliAmpere : UInt32) : CurrentScaling :=
  firstFitting senseResistanceMilliOhm tripCurrentMilliAmpere
    (senseGainsHighestFirst.zip senseGainValuesHighestFirst)

/-- The same torque of exact integers, without a result where a product of `uint64_t` wraps. -/
def checkedTorqueFor (senseGain : UInt64) (senseResistanceMilliOhm tripCurrentMilliAmpere : UInt32) :
    Option Int := do
  let amplified ← uint64.evaluate (torqueSteps.toNat * senseGain.toNat)
  let sensed ← uint64.evaluate (amplified * senseResistanceMilliOhm.toNat)
  let tripped ← uint64.evaluate (sensed * tripCurrentMilliAmpere.toNat)
  some (tripped / referenceMicroVolt.toNat)

def checkedFirstFitting (senseResistanceMilliOhm tripCurrentMilliAmpere : UInt32) :
    List (Isgain × UInt64) → Option CurrentScaling
  | [] => some ⟨.gain5, maximumTorque.toUInt8⟩
  | (gain, value) :: rest => do
      let torque ← checkedTorqueFor value senseResistanceMilliOhm tripCurrentMilliAmpere
      if torque ≤ maximumTorque.toNat then some ⟨gain, UInt8.ofNat torque.toNat⟩
      else checkedFirstFitting senseResistanceMilliOhm tripCurrentMilliAmpere rest

def checkedScaleCurrent (senseResistanceMilliOhm tripCurrentMilliAmpere : UInt32) :
    Option CurrentScaling :=
  checkedFirstFitting senseResistanceMilliOhm tripCurrentMilliAmpere
    (senseGainsHighestFirst.zip senseGainValuesHighestFirst)

end CurrentScaling

/-- A setting amplifies by the number in its name. -/
def Isgain.factor : Isgain → Nat
  | .gain40 => 40
  | .gain20 => 20
  | .gain10 => 10
  | .gain5 => 5

namespace CurrentScaling

def exactProduct (resistance current : UInt32) (factor : Nat) : Nat :=
  256 * factor * resistance.toNat * current.toNat

def exactTorque (resistance current : UInt32) (gain : Isgain) : Nat :=
  exactProduct resistance current gain.factor / 2750000

/-- The largest gain whose torque fits is set with this torque, or else the lowest gain with the
largest torque. -/
def Finest (torque : Isgain → Nat) (scaling : CurrentScaling) : Prop :=
  (scaling.torque.toNat = torque scaling.senseGain ∧ torque scaling.senseGain ≤ 255 ∧
      ∀ gain, torque gain ≤ 255 → gain.factor ≤ scaling.senseGain.factor) ∨
    (∀ gain, 255 < torque gain) ∧ scaling = ⟨.gain5, 255⟩

/-- The current at which the driver trips is at most the requested one. -/
def WithinRequest (resistance current : UInt32) (scaling : CurrentScaling) : Prop :=
  scaling.torque.toNat * 2750000 ≤ exactProduct resistance current scaling.senseGain.factor

/-- No product wraps, and the scaling is the finest one within the request. -/
structure ScalesExactly (resistance current : UInt32) : Prop where
  unwrapped : checkedScaleCurrent resistance current = some (scaleCurrent resistance current)
  finest : Finest (exactTorque resistance current) (scaleCurrent resistance current)
  within : WithinRequest resistance current (scaleCurrent resistance current)

section Torques
variable (senseGain : UInt64) (resistance current : UInt32)

/-- The machine divides what is left of the exact product. -/
theorem torqueFor_toNat :
    (torqueFor senseGain resistance current).toNat =
      exactProduct resistance current senseGain.toNat % 2 ^ 64 / 2750000 := by
  unfold torqueFor exactProduct
  rw [UInt64.toNat_div, UInt64.toNat_mul, UInt64.toNat_mul, UInt64.toNat_mul]
  rw [Nat.mod_mul_mod, Nat.mul_assoc, Nat.mod_mul_mod, ← Nat.mul_assoc]
  rfl

theorem torqueFor_le_iff :
    torqueFor senseGain resistance current ≤ maximumTorque ↔
      exactProduct resistance current senseGain.toNat % 2 ^ 64 / 2750000 ≤ 255 := by
  rw [UInt64.le_iff_toNat_le, torqueFor_toNat]
  rfl

variable {senseGain}

/-- A torque that fits in its field keeps its value there. -/
theorem torqueFor_toUInt8 (fits : torqueFor senseGain resistance current ≤ maximumTorque) :
    (torqueFor senseGain resistance current).toUInt8.toNat =
      exactProduct resistance current senseGain.toNat % 2 ^ 64 / 2750000 := by
  have small := (torqueFor_le_iff senseGain resistance current).mp fits
  rw [UInt64.toNat_toUInt8, torqueFor_toNat]
  exact Nat.mod_eq_of_lt (Nat.lt_succ_of_le small)

/-- Only the last of the three products can wrap. -/
theorem checkedTorqueFor_eq (bounded : senseGain.toNat ≤ 40) :
    checkedTorqueFor senseGain resistance current =
      if exactProduct resistance current senseGain.toNat < 2 ^ 64 then
        some ((exactProduct resistance current senseGain.toNat / 2750000 : Nat) : Int)
      else none := by
  have narrow := resistance.toNat_lt
  have sensed : 256 * senseGain.toNat * resistance.toNat ≤ 10240 * 2 ^ 32 :=
    Nat.mul_le_mul (by omega) narrow.le
  have products (first second : Nat) : uint64.evaluate ((first : Int) * (second : Int)) =
      if first * second < 2 ^ 64 then some ((first * second : Nat) : Int) else none := by
    rw [← Int.natCast_mul]
    exact unsigned_evaluate 64 (first * second)
  have constant : torqueSteps.toNat = 256 := rfl
  unfold checkedTorqueFor exactProduct
  rw [constant, products, if_pos (by omega), Option.bind_eq_bind, Option.bind_some]
  rw [products, if_pos (by omega), Option.bind_some, products]
  split
  · rfl
  · rfl

end Torques

section Gains
variable (resistance current : UInt32) (gains : List (Isgain × UInt64))

/-- The loop evaluates to its result where no product wraps. -/
theorem checkedFirstFitting_of_fits
    (fits : ∀ entry ∈ gains, entry.2.toNat ≤ 40 ∧
      exactProduct resistance current entry.2.toNat < 2 ^ 64) :
    checkedFirstFitting resistance current gains =
      some (firstFitting resistance current gains) := by
  induction gains with
  | nil => rfl
  | cons entry rest inductionHypothesis =>
      obtain ⟨⟨bounded, below⟩, fitsRest⟩ := List.forall_mem_cons.mp fits
      have same : (torqueFor entry.2 resistance current).toNat =
          exactProduct resistance current entry.2.toNat / 2750000 := by
        rw [torqueFor_toNat, Nat.mod_eq_of_lt below]
      unfold checkedFirstFitting firstFitting
      rw [checkedTorqueFor_eq resistance current bounded, if_pos below, ← same]
      simp only [Option.bind_eq_bind, Option.bind_some, UInt64.le_iff_toNat_le, Int.ofNat_le]
      split
      · rfl
      · exact inductionHypothesis fitsRest

/-- Over falling gains the loop takes the largest one whose torque fits, or else falls back. -/
theorem firstFitting_finest (named : ∀ entry ∈ gains, entry.2.toNat = entry.1.factor)
    (falling : gains.Pairwise fun higher lower => lower.1.factor ≤ higher.1.factor) :
    let torque (gain : Isgain) := exactProduct resistance current gain.factor % 2 ^ 64 / 2750000
    let scaling := firstFitting resistance current gains
    (scaling.torque.toNat = torque scaling.senseGain ∧ torque scaling.senseGain ≤ 255 ∧
        ∀ entry ∈ gains, torque entry.1 ≤ 255 → entry.1.factor ≤ scaling.senseGain.factor) ∨
      (∀ entry ∈ gains, 255 < torque entry.1) ∧ scaling = ⟨.gain5, 255⟩ := by
  intro torque scaling
  induction gains with
  | nil =>
      right
      exact ⟨List.forall_mem_nil _, rfl⟩
  | cons entry rest inductionHypothesis =>
      obtain ⟨name, namedRest⟩ := List.forall_mem_cons.mp named
      obtain ⟨highest, fallingRest⟩ := List.pairwise_cons.mp falling
      have fits_iff := torqueFor_le_iff entry.2 resistance current
      rw [name] at fits_iff
      by_cases fits : torqueFor entry.2 resistance current ≤ maximumTorque
      · left
        have taken : scaling = ⟨entry.1, (torqueFor entry.2 resistance current).toUInt8⟩ :=
          if_pos fits
        rw [taken]
        refine ⟨?_, fits_iff.mp fits, ?_⟩
        · rw [torqueFor_toUInt8 resistance current fits, name]
        · rw [List.forall_mem_cons]
          exact ⟨fun _ => le_rfl, fun other later _ => highest other later⟩
      · have next : scaling = firstFitting resistance current rest := if_neg fits
        have tooLarge : ¬ torque entry.1 ≤ 255 := mt fits_iff.mpr fits
        rw [next, List.forall_mem_cons, List.forall_mem_cons]
        rcases inductionHypothesis namedRest fallingRest with ⟨same, within, largest⟩ | ⟨none, same⟩
        · left
          exact ⟨same, within, fun entryFits => absurd entryFits tooLarge, largest⟩
        · right
          exact ⟨⟨not_le.mp tooLarge, none⟩, same⟩

end Gains

section Scaling

/-- Every gain stands in the two arrays with the number in its name. -/
theorem gain_mem (gain : Isgain) :
    (gain, UInt64.ofNat gain.factor) ∈
      senseGainsHighestFirst.zip senseGainValuesHighestFirst := by
  cases gain with
  | gain40 => decide
  | gain20 => decide
  | gain10 => decide
  | gain5 => decide

theorem gain_named : ∀ entry ∈ senseGainsHighestFirst.zip senseGainValuesHighestFirst,
    entry.2.toNat = entry.1.factor := by
  decide

theorem gain_falling : (senseGainsHighestFirst.zip senseGainValuesHighestFirst).Pairwise
    fun higher lower => lower.1.factor ≤ higher.1.factor := by
  decide

theorem five_le_factor (gain : Isgain) : 5 ≤ gain.factor := by
  cases gain with
  | gain40 => decide
  | gain20 => decide
  | gain10 => decide
  | gain5 => decide

theorem factor_le_forty (gain : Isgain) : gain.factor ≤ 40 := by
  cases gain with
  | gain40 => decide
  | gain20 => decide
  | gain10 => decide
  | gain5 => decide

variable (resistance current : UInt32)

/-- The code returns the finest scaling of what is left of the exact products. -/
theorem scaleCurrent_finest :
    Finest (fun gain => exactProduct resistance current gain.factor % 2 ^ 64 / 2750000)
      (scaleCurrent resistance current) := by
  rcases firstFitting_finest resistance current _ gain_named gain_falling with
    ⟨same, within, largest⟩ | ⟨none, same⟩
  · left
    exact ⟨same, within, fun gain => largest _ (gain_mem gain)⟩
  · right
    exact ⟨fun gain => none _ (gain_mem gain), same⟩

/-- The code never asks for more than the request, since a product only loses value by wrapping. -/
theorem scaleCurrent_within : WithinRequest resistance current (scaleCurrent resistance current) := by
  have below (gain : Isgain) :
      exactProduct resistance current gain.factor % 2 ^ 64 / 2750000 * 2750000 ≤
        exactProduct resistance current gain.factor :=
    (Nat.div_mul_le_self _ _).trans (Nat.mod_le _ _)
  unfold WithinRequest
  rcases scaleCurrent_finest resistance current with ⟨same, -, -⟩ | ⟨none, same⟩
  · rw [same]
    exact below _
  · rw [same]
    exact (Nat.mul_le_mul_right _ (none .gain5).le).trans (below .gain5)

/-- The product of the highest gain is the largest one. -/
theorem exactProduct_le (gain : Isgain) :
    exactProduct resistance current gain.factor ≤ 10240 * resistance.toNat * current.toNat :=
  Nat.mul_le_mul_right _ (Nat.mul_le_mul_right _ (Nat.mul_le_mul_left 256 (factor_le_forty gain)))

/-- No gain fits a product beyond 64 bits, so that only the largest torque of the lowest gain is
right there. -/
theorem finest_iff_of_wraps (wraps : ¬ 10240 * resistance.toNat * current.toNat < 2 ^ 64)
    (scaling : CurrentScaling) :
    Finest (exactTorque resistance current) scaling ↔ scaling = ⟨.gain5, 255⟩ := by
  have tooLarge (gain : Isgain) : 255 < exactTorque resistance current gain := by
    have lowest : exactProduct resistance current 5 ≤ exactProduct resistance current gain.factor :=
      Nat.mul_le_mul_right _ (Nat.mul_le_mul_right _ (Nat.mul_le_mul_left 256 (five_le_factor gain)))
    have eighth : 8 * exactProduct resistance current 5 =
        10240 * resistance.toNat * current.toNat := by
      unfold exactProduct
      ring
    unfold exactTorque
    omega
  constructor
  · rintro (⟨-, fits, -⟩ | ⟨-, same⟩)
    · exact absurd fits (not_le.mpr (tooLarge _))
    · exact same
  · intro same
    exact .inr ⟨tooLarge, same⟩

/-- The product of the highest gain is evaluated first. -/
theorem checkedScaleCurrent_wraps
    (wraps : ¬ 10240 * resistance.toNat * current.toNat < 2 ^ 64) :
    checkedScaleCurrent resistance current = none := by
  have product : exactProduct resistance current (40 : UInt64).toNat =
      10240 * resistance.toNat * current.toNat := rfl
  have gains : senseGainsHighestFirst.zip senseGainValuesHighestFirst =
      (.gain40, 40) :: [(.gain20, 20), (.gain10, 10), (.gain5, 5)] := rfl
  unfold checkedScaleCurrent
  rw [gains, checkedFirstFitting, checkedTorqueFor_eq resistance current (by decide), product,
    if_neg wraps, Option.bind_eq_bind, Option.bind_none]

end Scaling

/-- The scaling is exact as long as the product of the highest gain fits in 64 bits. -/
theorem scales_exactly_iff (resistance current : UInt32) :
    ScalesExactly resistance current ↔ 10240 * resistance.toNat * current.toNat < 2 ^ 64 := by
  constructor
  · intro exact
    by_contra wraps
    have absent := exact.unwrapped
    rw [checkedScaleCurrent_wraps resistance current wraps] at absent
    cases absent
  · intro fits
    have below (gain : Isgain) : exactProduct resistance current gain.factor < 2 ^ 64 :=
      (exactProduct_le resistance current gain).trans_lt fits
    constructor
    · apply checkedFirstFitting_of_fits
      intro entry member
      rw [gain_named entry member]
      exact ⟨factor_le_forty entry.1, below entry.1⟩
    · have kept : (fun gain : Isgain =>
          exactProduct resistance current gain.factor % 2 ^ 64 / 2750000) =
            exactTorque resistance current := by
        funext gain
        rw [Nat.mod_eq_of_lt (below gain)]
        rfl
      exact kept ▸ scaleCurrent_finest resistance current
    · exact scaleCurrent_within resistance current

/-- The product of the highest gain wraps to zero, so that it is taken for a current that no gain
fits. -/
theorem wrapped_product_takes_the_highest_gain :
    scaleCurrent 2147483648 2147483648 = ⟨.gain40, 0⟩ ∧
      ¬ ScalesExactly 2147483648 2147483648 := by
  have scaled : scaleCurrent 2147483648 2147483648 = ⟨.gain40, 0⟩ := by decide
  refine ⟨scaled, ?_⟩
  intro exact
  have lowest := (finest_iff_of_wraps 2147483648 2147483648 (by decide) _).mp exact.finest
  rw [scaled] at lowest
  cases lowest

end CurrentScaling
end InvertedPendulum.Motion
