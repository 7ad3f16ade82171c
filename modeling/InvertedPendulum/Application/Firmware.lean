import InvertedPendulum.Balance.HostedStrategy
import InvertedPendulum.Telemetry.TelemetryRecorder

namespace InvertedPendulum.Application
open Platform Motion Odometry Estimation Sensing Control Balance Safety Telemetry Reactive

/-- Balance control drives the motors and reads the encoders and the clock. -/
structure Hardware (F : Type) where
  actuation : MotionActuationImpl
  chassis : ChassisMotion F
  now : TimePoint

namespace Hardware
variable {F : Type}

instance [FloatArithmetic F] [FloatRounding F] : MotionActuation (Hardware F) F where
  apply hardware left right := { hardware with actuation := hardware.actuation.apply left right }
  disable hardware state := { hardware with actuation := hardware.actuation.disable state }
  fault hardware := hardware.actuation.fault
  clearFault hardware := { hardware with actuation := hardware.actuation.clearFault }
  state hardware := hardware.actuation.state

instance : WheelOdometry (Hardware F) F where
  chassis hardware := hardware.chassis

instance : Clock (Hardware F) where
  now hardware := hardware.now

end Hardware

/-- The supervisor commands balance control, the motors behind it and the inertial sensing. -/
structure Plant (F S τ : Type) where
  control : BalanceControlImpl F S (Hardware F)
  sensing : τ

namespace Plant
variable {F S τ : Type}

/-- The motors are those that balance control drives. -/
def actuation (plant : Plant F S τ) : MotionActuationImpl := plant.control.peers.actuation

def withActuation (plant : Plant F S τ) (actuation : MotionActuationImpl) : Plant F S τ :=
  { plant with
    control := { plant.control with peers := { plant.control.peers with actuation } } }

instance [FloatArithmetic F] [FloatRounding F] : MotionActuation (Plant F S τ) F where
  apply plant left right := plant.withActuation (plant.actuation.apply left right)
  disable plant state := plant.withActuation (plant.actuation.disable state)
  fault plant := plant.actuation.fault
  clearFault plant := plant.withActuation plant.actuation.clearFault
  state plant := plant.actuation.state

instance [FloatArithmetic F] [FloatRounding F] [ControlStrategy S F] :
    SupervisedControl (Plant F S τ) F where
  balance plant estimate interval := { plant with control := plant.control.balance estimate interval }
  steer plant interval := { plant with control := plant.control.steer interval }
  engage plant := { plant with control := plant.control.engage }
  disengage plant := { plant with control := plant.control.disengage }

instance [InertialSensing τ] : InertialSensing (Plant F S τ) where
  cause plant := InertialSensing.cause plant.sensing
  startCalibration plant := { plant with sensing := InertialSensing.startCalibration plant.sensing }
  calibration plant := InertialSensing.calibration plant.sensing

instance : Clock (Plant F S τ) where
  now plant := plant.control.peers.now

end Plant

/-- The recorder heads the chain, and the driver answers its configuration at most once. -/
structure Firmware (F S τ : Type) where
  recorder : TelemetryRecorder F (SafetySupervisorImpl F (Plant F S τ))
  configurationOutstanding : Bool

/-- Between two operations time passes, the wheels turn and the sensor samples. -/
structure Moment (F τ : Type) where
  now : TimePoint
  chassis : ChassisMotion F
  sensing : τ

/-- These operations reach the chain from the loop, the timer, the operator and the driver. -/
inductive Operation (F : Type) where
  | balance (estimate : Estimate F) (interval : Duration)
  | steer (interval : Duration)
  | supervise
  | arm
  | disarm
  | clearFault
  | calibrate
  | move (setpoints : Setpoints F)
  | cancelMotion
  | select (index : Nat)
  | setParameter (index : Nat) (value : F)
  | tristate
  | brake
  | driverFault
  | configured (verified : Bool)

namespace Firmware
variable {F S τ : Type}

def supervisor (firmware : Firmware F S τ) : SafetySupervisorImpl F (Plant F S τ) :=
  firmware.recorder.next

def control (firmware : Firmware F S τ) : BalanceControlImpl F S (Hardware F) :=
  firmware.supervisor.peers.control

def actuation (firmware : Firmware F S τ) : MotionActuationImpl := firmware.supervisor.peers.actuation

def motors (firmware : Firmware F S τ) : MotorDriver := firmware.actuation.motors

def withSupervisor (firmware : Firmware F S τ)
    (supervisor : SafetySupervisorImpl F (Plant F S τ)) : Firmware F S τ :=
  { firmware with recorder := { firmware.recorder with next := supervisor } }

def withControl (firmware : Firmware F S τ) (control : BalanceControlImpl F S (Hardware F)) :
    Firmware F S τ :=
  firmware.withSupervisor { firmware.supervisor with
    peers := { firmware.supervisor.peers with control } }

def withActuation (firmware : Firmware F S τ) (actuation : MotionActuationImpl) : Firmware F S τ :=
  firmware.withSupervisor { firmware.supervisor with
    peers := firmware.supervisor.peers.withActuation actuation }

/-- An operation starts at its moment and with empty lists of calls. -/
def begin (firmware : Firmware F S τ) (moment : Moment F τ) : Firmware F S τ :=
  let hardware : Hardware F := {
    actuation := { firmware.actuation with motors := ⟨firmware.motors.last, []⟩ }
    chassis := moment.chassis
    now := moment.now }
  firmware.withSupervisor { firmware.supervisor with
    peers := ⟨{ firmware.control with peers := hardware }, moment.sensing⟩
    calls := [] }

variable [FloatArithmetic F] [FloatRounding F] [ControlStrategy S F] [InertialSensing τ]

instance : BalanceControl (SafetySupervisorImpl F (Plant F S τ)) F where
  appliedEffort supervisor := supervisor.peers.control.applied

instance : WheelOdometry (SafetySupervisorImpl F (Plant F S τ)) F where
  chassis supervisor := supervisor.peers.control.peers.chassis

/-- The operation runs down the chain; it answers nothing where an assertion stops the firmware or
the driver has already answered its configuration. -/
def perform (firmware : Firmware F S τ) : Operation F → Option (Firmware F S τ)
  | .balance estimate interval =>
      some { firmware with recorder := firmware.recorder.balance estimate interval }
  | .steer interval => some (firmware.withSupervisor (firmware.supervisor.steer interval))
  | .supervise => some (firmware.withSupervisor firmware.supervisor.supervise)
  | .arm => some (firmware.withSupervisor firmware.supervisor.arm.2)
  | .disarm => some (firmware.withSupervisor firmware.supervisor.disarm.2)
  | .clearFault => some (firmware.withSupervisor firmware.supervisor.clearFault.2)
  | .calibrate => some (firmware.withSupervisor firmware.supervisor.calibrate.2)
  | .move setpoints => some (firmware.withControl (firmware.control.move setpoints).2)
  | .cancelMotion => some (firmware.withControl firmware.control.cancelMotion)
  | .select index => some (firmware.withControl (firmware.control.select index).2)
  | .setParameter index value =>
      (firmware.control.setParameter index value).map fun written => firmware.withControl written.2
  | .tristate => some (firmware.withActuation (firmware.actuation.disable .tristate))
  | .brake => some (firmware.withActuation (firmware.actuation.disable .brake))
  | .driverFault => some (firmware.withActuation firmware.actuation.onFault)
  | .configured verified =>
      if firmware.configurationOutstanding then
        some { firmware.withActuation (firmware.actuation.onConfigured verified) with
          configurationOutstanding := false }
      else none

def machine : Machine (Firmware F S τ) (Moment F τ × Operation F) where
  step firmware event := (firmware.begin event.1).perform event.2

/-- The firmware is wired as `Main.cpp` does it, from the motors up to the recorder. -/
def construct (fullScale : DutyCycle) (decay : Decay) (strategies : List S) (moment : Moment F τ)
    (balanceConfig : BalanceControlImpl.Config F) (safetyConfig : SafetySupervisorImpl.Config F) :
    Option (Firmware F S τ) :=
  let hardware : Hardware F :=
    ⟨MotionActuationImpl.construct fullScale decay, moment.chassis, moment.now⟩
  (BalanceControlImpl.construct strategies hardware balanceConfig).bind fun control =>
    (SafetySupervisorImpl.construct (⟨control, moment.sensing⟩ : Plant F S τ) safetyConfig).map
      fun supervisor => ⟨TelemetryRecorder.construct supervisor, true⟩

/-- The firmware of `Main.cpp` hosts both strategies with every configuration at its default. -/
def main (fullScale : DutyCycle) (moment : Moment F τ) :
    Option (Firmware F (HostedStrategy (GainRow F) (VelocityPid F) F) τ) :=
  construct fullScale .slow (hosted .default .default) moment .default .default

end Firmware
end InvertedPendulum.Application
