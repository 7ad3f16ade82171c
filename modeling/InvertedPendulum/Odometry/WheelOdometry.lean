import InvertedPendulum.Balance.ControlStrategy

namespace InvertedPendulum.Odometry
open Estimation

/-- `std::numbers::pi_v<float>` -/
class FloatPi (F : Type) where
  pi : F

/-- `hal::SynchronousQuadratureEncoder` reads its position below its resolution. -/
structure QuadratureEncoder where
  resolution : UInt32
  position : UInt32

structure WheelMotion (F : Type) where
  position : Int32
  angularVelocity : F

structure WheelOdometryImpl.Config (F : Type) where
  samplePeriod : Duration
  wheelRadius : F
  trackWidth : F
  gearRatio : F

structure WheelOdometryImpl.Wheel (F : Type) where
  previousRaw : UInt32
  sampled : Bool
  motion : WheelMotion F

structure WheelOdometryImpl (F : Type) where
  config : WheelOdometryImpl.Config F
  left : WheelOdometryImpl.Wheel F
  right : WheelOdometryImpl.Wheel F
  previousSampleTime : TimePoint

namespace WheelOdometryImpl

/-- The signed division truncates, and the casts of a reading keep it below the sign bit. -/
def shortestDelta (previous current resolution : UInt32) : Int32 :=
  let span := resolution.toInt32
  let delta := current.toInt32 - previous.toInt32
  if delta > span / 2 then delta - span
  else if delta < -span / 2 then delta + span
  else delta

variable {F : Type} [FloatArithmetic F]

def Config.default : Config F where
  samplePeriod := microseconds 20000
  wheelRadius := ((34 / 1000 : ℚ) : F)
  trackWidth := ((145 / 1000 : ℚ) : F)
  gearRatio := 1

def stillWheel : Wheel F := ⟨0, false, ⟨0, 0⟩⟩

def construct (config : Config F) (now : TimePoint) : Option (WheelOdometryImpl F) :=
  if 0 < config.samplePeriod ∧ 0 < config.wheelRadius ∧ 0 < config.trackWidth ∧
      0 < config.gearRatio then
    some {
      config
      left := stillWheel
      right := stillWheel
      previousSampleTime := now }
  else none

def chassis (odometry : WheelOdometryImpl F) : ChassisMotion F where
  forwardVelocity := odometry.config.wheelRadius *
    (odometry.left.motion.angularVelocity + odometry.right.motion.angularVelocity) / ((2 : ℚ) : F)
  yawRate := odometry.config.wheelRadius *
    (odometry.right.motion.angularVelocity - odometry.left.motion.angularVelocity) /
      odometry.config.trackWidth

instance : WheelOdometry (WheelOdometryImpl F) F where
  chassis := chassis

variable [FloatPi F]

/-- The assertions on the encoder stop the firmware, and the first sample only seeds the wheel. -/
def sampleWheel (odometry : WheelOdometryImpl F) (wheel : Wheel F) (encoder : QuadratureEncoder)
    (elapsed : Duration) : Option (Wheel F) :=
  let resolution := encoder.resolution
  let raw := encoder.position
  if ¬ (resolution ≥ 2 ∧ raw < resolution) then none
  else if ! wheel.sampled then some { wheel with previousRaw := raw, sampled := true }
  else
    let delta := shortestDelta wheel.previousRaw raw resolution
    let countsPerWheelRevolution : F := ((resolution.toNat : ℚ) : F) * odometry.config.gearRatio
    some { wheel with
      previousRaw := raw
      motion := {
        position := wheel.motion.position + delta
        angularVelocity := ((2 : ℚ) : F) * FloatPi.pi * ((delta.toInt : ℚ) : F) /
          (countsPerWheelRevolution * seconds elapsed) } }

/-- Time has to pass between two samples. -/
def sample (odometry : WheelOdometryImpl F) (now : TimePoint) (left right : QuadratureEncoder) :
    Option (WheelOdometryImpl F) :=
  let elapsed := now - odometry.previousSampleTime
  if elapsed > 0 then do
    let left ← odometry.sampleWheel odometry.left left elapsed
    let right ← odometry.sampleWheel odometry.right right elapsed
    pure { odometry with left, right, previousSampleTime := now }
  else none

end WheelOdometryImpl
end InvertedPendulum.Odometry
