import InvertedPendulum.Arithmetic.Float

namespace InvertedPendulum

/-- `infra::TimePoint` counts nanoseconds, in 64 bits that are idealised as an integer. -/
abbrev TimePoint := Int

/-- `infra::Duration` counts nanoseconds, in 64 bits that are idealised as an integer. -/
abbrev Duration := Int

def milliseconds (count : Int) : Duration := count * 1000000

def microseconds (count : Int) : Duration := count * 1000

/-- `infra::Now` reads the one clock of the firmware. -/
class Clock (σ : Type) where
  now : σ → TimePoint

namespace Platform

structure InertialAxes (F : Type) where
  x : F
  y : F
  z : F

structure InertialSample (F : Type) where
  angularRate : InertialAxes F
  acceleration : InertialAxes F
  sampledAt : TimePoint
  valid : Bool

/-- `hal::DutyCycle` holds a count up to its full scale. -/
abbrev DutyCycle := UInt32

structure BridgeInputs where
  input1 : DutyCycle
  input2 : DutyCycle
  deriving DecidableEq

/-- This names the statement of `MotionActuationImpl` that calls the motor driver. -/
inductive DriveSite where
  | apply
  | brake
  | releaseBridges
  deriving DecidableEq

structure DriveCall where
  site : DriveSite
  left : BridgeInputs
  right : BridgeInputs
  deriving DecidableEq

/-- The motor driver holds the last call, and lists those of the operation under way. -/
structure MotorDriver where
  last : DriveCall
  calls : List DriveCall

namespace MotorDriver

/-- `MotorDriver::Drive` -/
def drive (motors : MotorDriver) (call : DriveCall) : MotorDriver where
  last := call
  calls := motors.calls ++ [call]

@[simp] theorem drive_last (motors : MotorDriver) (call : DriveCall) :
    (motors.drive call).last = call := rfl

@[simp] theorem drive_calls (motors : MotorDriver) (call : DriveCall) :
    (motors.drive call).calls = motors.calls ++ [call] := rfl

end MotorDriver
end Platform
end InvertedPendulum
