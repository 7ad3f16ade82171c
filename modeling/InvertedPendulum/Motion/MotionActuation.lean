import InvertedPendulum.Motion.BridgeMapping
import Mathlib.Tactic.Simps.Basic

namespace InvertedPendulum.Motion
open Platform

inductive DisableState where
  | tristate
  | brake
  deriving DecidableEq

inductive FaultCause where
  | none
  | driverFault
  deriving DecidableEq

inductive DriverState where
  | configuring
  | ready
  | failed
  deriving DecidableEq

/-- This interface applies efforts, disables the bridges and reports the driver. -/
class MotionActuation (σ : Type) (F : outParam Type) where
  apply : σ → F → F → σ
  disable : σ → DisableState → σ
  fault : σ → FaultCause
  clearFault : σ → σ
  state : σ → DriverState

structure MotionActuationImpl where
  fullScale : DutyCycle
  decay : Decay
  motors : MotorDriver
  fault : FaultCause
  state : DriverState

namespace MotionActuationImpl

/-- The release drives both inputs of both bridges low. -/
def released : DriveCall := ⟨.releaseBridges, releasedInputs, releasedInputs⟩

/-- The brake drives both inputs of both bridges high. -/
def braked (fullScale : DutyCycle) : DriveCall :=
  ⟨.brake, brakedInputs fullScale, brakedInputs fullScale⟩

/-- Both efforts go through the bridge mapping. -/
def driven {F : Type} [FloatArithmetic F] [FloatRounding F] (fullScale : DutyCycle) (decay : Decay)
    (effortLeft effortRight : F) : DriveCall :=
  ⟨.apply, inputsFor fullScale effortLeft decay, inputsFor fullScale effortRight decay⟩

/-- The constructor releases the bridges before it asks for the configuration. -/
def construct (fullScale : DutyCycle) (decay : Decay) : MotionActuationImpl where
  fullScale
  decay
  motors := ⟨released, [released]⟩
  fault := .none
  state := .configuring

def drivePermitted (actuation : MotionActuationImpl) : Bool :=
  actuation.state = .ready ∧ actuation.fault = .none

@[simps motors]
def drive (actuation : MotionActuationImpl) (call : DriveCall) : MotionActuationImpl :=
  { actuation with motors := actuation.motors.drive call }

def releaseBridges (actuation : MotionActuationImpl) : MotionActuationImpl :=
  actuation.drive released

@[simp] theorem releaseBridges_motors (actuation : MotionActuationImpl) :
    actuation.releaseBridges.motors = actuation.motors.drive released := rfl

/-- The driver configuration answers once, with its verification. -/
@[simps motors]
def onConfigured (actuation : MotionActuationImpl) (verified : Bool) : MotionActuationImpl :=
  { actuation with state := if verified then .ready else .failed }

def onFault (actuation : MotionActuationImpl) : MotionActuationImpl :=
  { actuation with fault := .driverFault }.releaseBridges

@[simp] theorem onFault_motors (actuation : MotionActuationImpl) :
    actuation.onFault.motors = actuation.motors.drive released := rfl

def apply {F : Type} [FloatArithmetic F] [FloatRounding F] (actuation : MotionActuationImpl)
    (effortLeft effortRight : F) : MotionActuationImpl :=
  if actuation.drivePermitted then
    actuation.drive (driven actuation.fullScale actuation.decay effortLeft effortRight)
  else actuation

def disable (actuation : MotionActuationImpl) (disableState : DisableState) : MotionActuationImpl :=
  if disableState = .brake ∧ actuation.drivePermitted then
    actuation.drive (braked actuation.fullScale)
  else actuation.releaseBridges

@[simps motors] def clearFault (actuation : MotionActuationImpl) : MotionActuationImpl :=
  { actuation with fault := .none }

/-- The drive is permitted on a ready driver without a fault. -/
theorem drivePermitted_iff {actuation : MotionActuationImpl} :
    actuation.drivePermitted = true ↔ actuation.state = .ready ∧ actuation.fault = .none :=
  decide_eq_true_iff

/-- A disable releases the bridges, except for the brake of a permitted drive. -/
theorem disable_cases (actuation : MotionActuationImpl) (disableState : DisableState) :
    actuation.disable disableState = actuation.releaseBridges ∨
      actuation.disable disableState = actuation.drive (braked actuation.fullScale) ∧
        disableState = .brake ∧ actuation.drivePermitted = true := by
  unfold disable
  split
  · rename_i braking
    exact .inr ⟨rfl, braking⟩
  · exact .inl rfl

/-- An apply drives the bridges only through the gate. -/
theorem apply_cases {F : Type} [FloatArithmetic F] [FloatRounding F]
    (actuation : MotionActuationImpl) (effortLeft effortRight : F) :
    actuation.apply effortLeft effortRight = actuation ∧ actuation.drivePermitted = false ∨
      actuation.apply effortLeft effortRight = actuation.drive
          (driven actuation.fullScale actuation.decay effortLeft effortRight) ∧
        actuation.drivePermitted = true := by
  unfold apply
  cases permitted : actuation.drivePermitted with
  | false => exact .inl ⟨rfl, rfl⟩
  | true => exact .inr ⟨rfl, rfl⟩

end MotionActuationImpl
end InvertedPendulum.Motion
