import InvertedPendulum.Platform

namespace InvertedPendulum.Motion
open Platform

inductive Decay where
  | slow
  | fast
  deriving DecidableEq

section Mapping
variable {F : Type} [FloatArithmetic F] [FloatRounding F]

/-- A magnitude selects a duty of the full scale. -/
def dutyOf (fullScale : DutyCycle) (magnitude : F) : DutyCycle :=
  UInt32.ofInt (FloatRounding.lround (clamp magnitude 0 1 * ((fullScale.toNat : ℚ) : F)))

def remainderOf (fullScale duty : DutyCycle) : DutyCycle := fullScale - duty

def slowDecayInputs (fullScale : DutyCycle) (forward : Bool) (duty : DutyCycle) : BridgeInputs :=
  if forward then ⟨fullScale, remainderOf fullScale duty⟩
  else ⟨remainderOf fullScale duty, fullScale⟩

def fastDecayInputs (forward : Bool) (duty : DutyCycle) : BridgeInputs :=
  if forward then ⟨duty, 0⟩ else ⟨0, duty⟩

/-- The sign of an effort selects the switched input, its magnitude the duty. -/
def inputsFor (fullScale : DutyCycle) (effort : F) (decay : Decay) : BridgeInputs :=
  let clamped : F := if FloatRounding.isFinite effort then clamp effort (-1) 1 else 0
  let forward := decide (0 ≤ clamped)
  let duty := dutyOf fullScale (fabs clamped)
  match decay with
  | .slow => slowDecayInputs fullScale forward duty
  | .fast => fastDecayInputs forward duty

end Mapping

def releasedInputs : BridgeInputs := ⟨0, 0⟩

def brakedInputs (fullScale : DutyCycle) : BridgeInputs := ⟨fullScale, fullScale⟩

end InvertedPendulum.Motion
