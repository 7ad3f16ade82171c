import InvertedPendulum.Motion.BridgeMapping
import InvertedPendulum.Arithmetic.Exact
import InvertedPendulum.Arithmetic.Extended

namespace InvertedPendulum.Motion
open Platform

/-- The drive of a bridge is the difference of its two duties. -/
def signedDrive (inputs : BridgeInputs) : Int := inputs.input1.toNat - inputs.input2.toNat

/-- An effort asks for a rounded share of the full scale, and a special value asks for nothing. -/
def requestedDrive (fullScale : DutyCycle) : Extended → Int
  | .finite effort => FloatRounding.lround (max (-1) (min effort 1) * (fullScale.toNat : ℚ))
  | _ => 0

/-- A whole number that fits a duty cycle survives the narrowing. -/
theorem toNat_ofInt {value : Int} {bound : DutyCycle} (nonnegative : 0 ≤ value)
    (within : value ≤ bound.toNat) : ((UInt32.ofInt value).toNat : Int) = value := by
  have fits := bound.toNat_lt
  unfold UInt32.ofInt
  rw [UInt32.toNat_ofNat']
  omega

section Duties
variable (fullScale : DutyCycle)

/-- A magnitude of the unit interval selects its rounded share of the full scale. -/
theorem dutyOf_magnitude {magnitude : ℚ} (nonnegative : 0 ≤ magnitude) (within : magnitude ≤ 1) :
    ((dutyOf fullScale magnitude).toNat : Int) =
        FloatRounding.lround (magnitude * (fullScale.toNat : ℚ)) ∧
      dutyOf fullScale magnitude ≤ fullScale := by
  have scale : (0 : ℚ) ≤ fullScale.toNat := Nat.cast_nonneg _
  have unclamped : clamp magnitude 0 1 = magnitude := by
    rw [clamp_eq_max_min zero_le_one, min_eq_left within, max_eq_right nonnegative]
  have positive : 0 ≤ FloatRounding.lround (magnitude * (fullScale.toNat : ℚ)) :=
    lround_nonneg (mul_nonneg nonnegative scale)
  have bounded : FloatRounding.lround (magnitude * (fullScale.toNat : ℚ)) ≤ fullScale.toNat := by
    rw [← lround_natCast (F := ℚ) fullScale.toNat]
    exact lround_mono (mul_le_of_le_one_left scale within)
  have narrowed : ((dutyOf fullScale magnitude).toNat : Int) =
      FloatRounding.lround (magnitude * (fullScale.toNat : ℚ)) := by
    unfold dutyOf
    rw [unclamped]
    exact toNat_ofInt positive bounded
  refine ⟨narrowed, ?_⟩
  rw [UInt32.le_iff_toNat_le]
  omega

/-- A rational selects the same duty in either number domain. -/
theorem dutyOf_finite (magnitude : ℚ) :
    dutyOf fullScale (Extended.finite magnitude) = dutyOf fullScale magnitude := by
  have unclamped : clamp (Extended.finite magnitude) 0 1 = .finite (clamp magnitude 0 1) :=
    Extended.clamp_finite magnitude 0 1
  unfold dutyOf
  rw [unclamped]
  rfl

/-- A remainder completes its duty to the full scale. -/
theorem remainderOf_toNat {duty : DutyCycle} (within : duty ≤ fullScale) :
    ((remainderOf fullScale duty).toNat : Int) = fullScale.toNat - duty.toNat := by
  have ordered := UInt32.le_iff_toNat_le.mp within
  unfold remainderOf
  rw [UInt32.toNat_sub_of_le _ _ within]
  omega

/-- Both decay modes turn a direction and a duty into the same signed drive. -/
theorem signedDrive_inputs {duty : DutyCycle} (within : duty ≤ fullScale) (forward : Bool) :
    signedDrive (slowDecayInputs fullScale forward duty) =
        (if forward then (duty.toNat : Int) else -duty.toNat) ∧
      signedDrive (fastDecayInputs forward duty) =
        (if forward then (duty.toNat : Int) else -duty.toNat) := by
  have remainder := remainderOf_toNat fullScale within
  cases forward with
  | true => constructor <;> simp [signedDrive, slowDecayInputs, fastDecayInputs, remainder]
  | false => constructor <;> simp [signedDrive, slowDecayInputs, fastDecayInputs, remainder]

/-- A direction and a duty carry out a clamped effort. -/
theorem directed_duty {effort : ℚ} (lower : -1 ≤ effort) (upper : effort ≤ 1) :
    (if decide (0 ≤ effort) then ((dutyOf fullScale (fabs effort)).toNat : Int)
        else -(dutyOf fullScale (fabs effort)).toNat) =
      FloatRounding.lround (effort * (fullScale.toNat : ℚ)) := by
  obtain ⟨duty, -⟩ := dutyOf_magnitude fullScale (abs_nonneg effort) (abs_le.mpr ⟨lower, upper⟩)
  rw [fabs_eq_abs, duty]
  by_cases forward : 0 ≤ effort
  · rw [abs_of_nonneg forward]
    simp [forward]
  · rw [abs_of_neg (not_le.mp forward), neg_mul, lround_neg]
    simp [forward]

/-- An effort selects one direction and one duty, whichever decay mode carries them out. -/
theorem inputsFor_directed (effort : Extended) : ∃ forward duty, duty ≤ fullScale ∧
    (if forward then (duty.toNat : Int) else -duty.toNat) = requestedDrive fullScale effort ∧
    inputsFor fullScale effort .slow = slowDecayInputs fullScale forward duty ∧
    inputsFor fullScale effort .fast = fastDecayInputs forward duty := by
  obtain ⟨clamped, lower, upper, requested, selected⟩ : ∃ clamped : ℚ, -1 ≤ clamped ∧ clamped ≤ 1 ∧
      requestedDrive fullScale effort =
        FloatRounding.lround (clamped * (fullScale.toNat : ℚ)) ∧
      (if FloatRounding.isFinite effort then clamp effort (-1) 1 else 0) = .finite clamped := by
    cases effort with
    | finite effort =>
        have bounds : (-1 : ℚ) ≤ 1 := by norm_num
        refine ⟨max (-1) (min effort 1), le_max_left _ _, max_le bounds (min_le_right _ _), rfl, ?_⟩
        rw [← clamp_eq_max_min bounds]
        exact Extended.clamp_finite effort (-1) 1
    | notANumber | minusInfinity | plusInfinity =>
        refine ⟨0, by norm_num, by norm_num, ?_, rfl⟩
        rw [zero_mul]
        exact (lround_natCast 0).symm
  have direction : decide ((0 : Extended) ≤ .finite clamped) = decide (0 ≤ clamped) :=
    decide_eq_decide.mpr Extended.finite_le_iff
  have duty : dutyOf fullScale (fabs (Extended.finite clamped)) = dutyOf fullScale (fabs clamped) := by
    rw [Extended.fabs_finite]
    exact dutyOf_finite fullScale (fabs clamped)
  refine ⟨decide (0 ≤ clamped), dutyOf fullScale (fabs clamped), ?_, ?_, ?_, ?_⟩
  · rw [fabs_eq_abs]
    exact (dutyOf_magnitude fullScale (abs_nonneg clamped) (abs_le.mpr ⟨lower, upper⟩)).2
  · rw [requested]
    exact directed_duty fullScale lower upper
  all_goals
    unfold inputsFor
    simp only [selected, direction, duty]

/-- Both duties of an effort stay within the full scale. -/
theorem inputsFor_within (effort : Extended) (decay : Decay) :
    (inputsFor fullScale effort decay).input1 ≤ fullScale ∧
      (inputsFor fullScale effort decay).input2 ≤ fullScale := by
  obtain ⟨forward, duty, within, -, slow, fast⟩ := inputsFor_directed fullScale effort
  have remainder : remainderOf fullScale duty ≤ fullScale := UInt32.sub_le within
  cases decay with
  | slow =>
      rw [slow]
      cases forward with
      | true => exact ⟨UInt32.le_refl _, remainder⟩
      | false => exact ⟨remainder, UInt32.le_refl _⟩
  | fast =>
      rw [fast]
      cases forward with
      | true => exact ⟨within, UInt32.zero_le⟩
      | false => exact ⟨UInt32.zero_le, within⟩

/-- Either decay mode carries out the requested drive. -/
theorem signedDrive_inputsFor (effort : Extended) (decay : Decay) :
    signedDrive (inputsFor fullScale effort decay) = requestedDrive fullScale effort := by
  obtain ⟨forward, duty, within, requested, slow, fast⟩ := inputsFor_directed fullScale effort
  obtain ⟨slowly, fastly⟩ := signedDrive_inputs fullScale within forward
  cases decay with
  | slow => rw [slow, slowly, requested]
  | fast => rw [fast, fastly, requested]

/-- The opposite effort requests the opposite drive. -/
theorem requestedDrive_neg (effort : Extended) :
    requestedDrive fullScale (-effort) = -requestedDrive fullScale effort := by
  cases effort with
  | finite effort =>
      have mirrored : max (-1) (min (-effort) 1) = -max (-1) (min effort 1) := by
        rw [max_min_distrib_left, neg_sup, neg_inf, neg_neg, max_comm (-effort), min_comm]
        norm_num
      change FloatRounding.lround (max (-1) (min (-effort) 1) * (fullScale.toNat : ℚ)) =
        -FloatRounding.lround (max (-1) (min effort 1) * (fullScale.toNat : ℚ))
      rw [mirrored, neg_mul, lround_neg]
  | notANumber | minusInfinity | plusInfinity => rfl

/-- A larger effort requests no smaller drive. -/
theorem requestedDrive_mono {lower upper : ℚ} (ordered : lower ≤ upper) :
    requestedDrive fullScale (.finite lower) ≤ requestedDrive fullScale (.finite upper) := by
  apply lround_mono
  gcongr

/-- Slow decay holds one input at the full scale, and fast decay holds one at zero. -/
theorem inputsFor_held (effort : Extended) :
    ((inputsFor fullScale effort .slow).input1 = fullScale ∨
        (inputsFor fullScale effort .slow).input2 = fullScale) ∧
      ((inputsFor fullScale effort .fast).input1 = 0 ∨
        (inputsFor fullScale effort .fast).input2 = 0) := by
  obtain ⟨forward, duty, -, -, slow, fast⟩ := inputsFor_directed fullScale effort
  rw [slow, fast]
  cases forward with
  | true => exact ⟨.inl rfl, .inr rfl⟩
  | false => exact ⟨.inr rfl, .inl rfl⟩

end Duties

/-- The drive of an effort is bounded by the full scale, the same in both decay modes, odd,
monotone, and zero where the effort is no number. Slow decay never releases a bridge and fast decay
never brakes one. -/
theorem effort_drives_the_bridge {fullScale : DutyCycle} (scaled : 0 < fullScale) :
    (∀ effort decay, (inputsFor fullScale (effort : Extended) decay).input1 ≤ fullScale ∧
        (inputsFor fullScale effort decay).input2 ≤ fullScale) ∧
      (∀ effort decay, signedDrive (inputsFor fullScale (effort : Extended) decay) =
        requestedDrive fullScale effort) ∧
      (∀ effort decay, signedDrive (inputsFor fullScale (-effort : Extended) decay) =
        -signedDrive (inputsFor fullScale effort decay)) ∧
      (∀ (lower upper : ℚ) decay, lower ≤ upper →
        signedDrive (inputsFor fullScale (Extended.finite lower) decay) ≤
          signedDrive (inputsFor fullScale (Extended.finite upper) decay)) ∧
      (∀ effort decay, FloatRounding.isFinite (effort : Extended) = false →
        signedDrive (inputsFor fullScale effort decay) = 0) ∧
      (∀ effort, ((inputsFor fullScale (effort : Extended) .slow).input1 = fullScale ∨
          (inputsFor fullScale effort .slow).input2 = fullScale) ∧
        inputsFor fullScale effort .slow ≠ releasedInputs) ∧
      (∀ effort, ((inputsFor fullScale (effort : Extended) .fast).input1 = 0 ∨
          (inputsFor fullScale effort .fast).input2 = 0) ∧
        inputsFor fullScale effort .fast ≠ brakedInputs fullScale) := by
  have nonzero : fullScale ≠ 0 := (UInt32.ne_of_lt scaled).symm
  refine ⟨inputsFor_within fullScale, signedDrive_inputsFor fullScale, ?_, ?_, ?_, ?_, ?_⟩
  · intro effort decay
    rw [signedDrive_inputsFor, signedDrive_inputsFor, requestedDrive_neg]
  · intro lower upper decay ordered
    rw [signedDrive_inputsFor, signedDrive_inputsFor]
    exact requestedDrive_mono fullScale ordered
  · intro effort decay special
    rw [signedDrive_inputsFor]
    cases effort with
    | finite effort => cases special
    | notANumber | minusInfinity | plusInfinity => rfl
  · intro effort
    obtain ⟨full, -⟩ := inputsFor_held fullScale effort
    refine ⟨full, ?_⟩
    intro released
    rw [released] at full
    rcases full with zero | zero
    · exact nonzero zero.symm
    · exact nonzero zero.symm
  · intro effort
    obtain ⟨-, off⟩ := inputsFor_held fullScale effort
    refine ⟨off, ?_⟩
    intro braked
    rw [braked] at off
    rcases off with zero | zero
    · exact nonzero zero
    · exact nonzero zero

/-- A quarter of a full scale of ten rounds away from zero in both directions. -/
theorem effort_drives_the_bridge_quarter :
    signedDrive (inputsFor 10 (Extended.finite (1 / 4)) .slow) = 3 ∧
      signedDrive (inputsFor 10 (Extended.finite (-(1 / 4))) .fast) = -3 := by
  have quarter : requestedDrive 10 (.finite (1 / 4)) = 3 := by decide +kernel
  have scaled : (0 : DutyCycle) < 10 := by decide
  obtain ⟨-, drive, odd, -⟩ := effort_drives_the_bridge scaled
  constructor
  · rw [drive, quarter]
  · exact (odd (.finite (1 / 4)) .fast).trans (by rw [drive, quarter])

end InvertedPendulum.Motion
