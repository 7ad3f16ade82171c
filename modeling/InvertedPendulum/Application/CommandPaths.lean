import InvertedPendulum.Application.Firmware
import InvertedPendulum.Link.RobotControlService

namespace InvertedPendulum.Application
open Platform Estimation Sensing Control Balance Safety Link Reactive

/-- The commands of the terminal, with the arguments that the tokenizer and the number parser have
read, or nothing where they refused. -/
inductive CliCommand (F : Type) where
  | ping
  | identify
  | releaseBridges
  | brake
  | odometry
  | imu
  | calibrate
  | clearFault
  | driverStatus
  | attitude
  | selectFilter (name : String)
  | loopTiming (argument : String)
  | arm
  | disarm
  | reportMode
  | move (parsed : Option (Setpoints F))
  | strategy (name : String)
  | param (parsed : Option (UInt32 × F))
  | bluetooth

/-- Everything that reaches the chain from outside: the loop, the timer, the driver, the terminal
and the writes of the radio link. -/
inductive Input (F : Type) where
  | balance (estimate : Estimate F) (interval : Duration)
  | steer (interval : Duration)
  | supervise
  | driverFault
  | configured (verified : Bool)
  | command (typed : CliCommand F)
  | motionWritten (data : List UInt8)
  | modeWritten (data : List UInt8)
  | tuningWritten (inFlight : Bool) (data : List UInt8)
  | disconnected

variable {F S τ σ : Type} [FloatArithmetic F] [ControlStrategy S F]

/-- A command of the terminal makes at most one call that can change the chain. -/
def CliCommand.operation? (control : BalanceControlImpl F S σ) :
    CliCommand F → Option (Operation F)
  | .releaseBridges => some .tristate
  | .brake => some .brake
  | .calibrate => some .calibrate
  | .clearFault => some .clearFault
  | .arm => some .arm
  | .disarm => some .disarm
  | .move parsed => parsed.map .move
  | .strategy name =>
      if name.isEmpty then none
      else (control.strategies.findIdx? fun strategy => name = ControlStrategy.name strategy).map .select
  | .param parsed => parsed.map fun written => .setParameter written.1.toNat written.2
  | _ => none

/-- `RobotControlService::Execute` -/
def commandOperation : RobotControlService.Command → Operation F
  | .arm => .arm
  | .disarm => .disarm
  | .clearFault => .clearFault
  | .calibrate => .calibrate

def tuningOperation : RobotControlService.Tuning F → Operation F
  | .select index => .select index
  | .setParameter index value => .setParameter index value

/-- An input makes at most one call that can change the chain. -/
def Input.operation? [FloatBits F] (control : BalanceControlImpl F S σ) :
    Input F → Option (Operation F)
  | .balance estimate interval => some (.balance estimate interval)
  | .steer interval => some (.steer interval)
  | .supervise => some .supervise
  | .driverFault => some .driverFault
  | .configured verified => some (.configured verified)
  | .command typed => typed.operation? control
  | .motionWritten data => (RobotControlService.motionWritten data).map .move
  | .modeWritten data => (RobotControlService.modeWritten data).map commandOperation
  | .tuningWritten inFlight data =>
      (RobotControlService.tuningWritten inFlight control.strategies.length
        (ControlStrategy.parameters control.strategy).length data).map tuningOperation
  | .disconnected => some .cancelMotion

namespace Firmware
variable [FloatRounding F] [InertialSensing τ] [FloatBits F]

/-- An input performs its operation, or only lets time pass. -/
def commandedMachine : Machine (Firmware F S τ) (Moment F τ × Input F) where
  step firmware event :=
    match event.2.operation? firmware.control with
    | some operation => machine.step firmware (event.1, operation)
    | none => some (firmware.begin event.1)

/-- A step on an input is a step of its operation or no step at all. -/
theorem commanded_cases {firmware next : Firmware F S τ} {moment : Moment F τ} {input : Input F}
    (stepped : commandedMachine.step firmware (moment, input) = some next) :
    (∃ operation, input.operation? firmware.control = some operation ∧
        machine.step firmware (moment, operation) = some next) ∨
      input.operation? firmware.control = none ∧ next = firmware.begin moment := by
  simp only [commandedMachine] at stepped
  split at stepped
  · rename_i operation read
    exact .inl ⟨operation, read, stepped⟩
  · rename_i unread
    exact .inr ⟨unread, (Option.some.inj stepped).symm⟩

end Firmware
end InvertedPendulum.Application
