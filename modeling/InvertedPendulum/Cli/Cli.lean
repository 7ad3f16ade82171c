import InvertedPendulum.Application.Main
import InvertedPendulum.Cli.NumberParser

namespace InvertedPendulum.Cli
open Motion Odometry Estimation Sensing Control Balance Safety Link Application

/-- A line of the tracer is streamed piece by piece. -/
inductive Piece (F : Type) where
  | text (text : String)
  | float (value : F)
  | integer (value : Int)
  | macAddress (address : MacAddress)

abbrev Reply (F : Type) := List (List (Piece F))

/-- `NameOf` -/
class Named (α : Type) where
  nameOf : α → String

open Named

instance : Named DriverState where
  nameOf
    | .configuring => "configuring"
    | .ready => "ready"
    | .failed => "failed"

instance : Named Motion.FaultCause where
  nameOf cause := if cause = .driverFault then "driver" else "none"

instance : Named Filter where
  nameOf filter := if filter = .kalman then "kalman" else "complementary"

instance : Named Estimation.InvalidCause where
  nameOf
    | .none => "none"
    | .converging => "converging"
    | .sensing => "sensing"

instance : Named Mode where
  nameOf
    | .init => "init"
    | .calibrating => "calibrating"
    | .idle => "idle"
    | .armed => "armed"
    | .fault => "fault"

instance : Named Safety.FaultCause where
  nameOf
    | .fall => "fall"
    | .driverFault => "driver"
    | .estimateInvalid => "estimate"
    | .loopStalled => "loop"
    | .selfTestFailed => "selftest"
    | .calibrationFailed => "calibration"
    | .none => "none"

def parseFilter (name : String) : Option Filter :=
  if name = "complementary" then some .complementary
  else if name = "kalman" then some .kalman
  else none

instance : Named GapPeripheralState where
  nameOf
    | .standby => "standby"
    | .advertising => "advertising"
    | .connected => "connected"

def mostSignificantFirst (address : MacAddress) : MacAddress := address.reverse

/-- The cast of the count keeps its low 32 bits. -/
def inMicroseconds (duration : Duration) : UInt32 := UInt32.ofInt (duration.tdiv 1000)

/-- A cause is cast to its position in the enumeration. -/
def causeNumber : Sensing.InvalidCause → Int
  | .none => 0
  | .neverSampled => 1
  | .stale => 2
  | .transferFailed => 3
  | .uncalibrated => 4

def yesOrNo (valid : Bool) : String := if valid then "yes" else "no"

/-- A line of a single text. -/
def say {F : Type} (text : String) : Reply F := [[.text text]]

section Reports
variable {F S C K : Type}

def ping : Reply F := say "pong"

def identify : Reply F := say "inverted-pendulum-bot cli"

def odometry [FloatArithmetic F] (wheelOdometry : WheelOdometryImpl F) : Reply F :=
  let left := wheelOdometry.left.motion
  let right := wheelOdometry.right.motion
  let chassis := wheelOdometry.chassis
  [[.text "left ", .integer left.position.toInt, .text " counts ", .float left.angularVelocity,
      .text " rad/s"],
    [.text "right ", .integer right.position.toInt, .text " counts ", .float right.angularVelocity,
      .text " rad/s"],
    [.text "chassis ", .float chassis.forwardVelocity, .text " m/s ", .float chassis.yawRate,
      .text " rad/s"]]

def imu (measurement : Measurement F) : Reply F :=
  [[.text "rate ", .float measurement.angularRate.x, .text " ", .float measurement.angularRate.y,
      .text " ", .float measurement.angularRate.z, .text " rad/s"],
    [.text "accel ", .float measurement.acceleration.x, .text " ", .float measurement.acceleration.y,
      .text " ", .float measurement.acceleration.z, .text " m/s2"],
    [.text "valid ", .text (yesOrNo measurement.valid), .text " cause ",
      .integer (causeNumber measurement.cause)]]

def driverStatus (motionActuation : MotionActuationImpl) : Reply F :=
  [[.text "driver ", .text (nameOf motionActuation.state), .text " fault ",
    .text (nameOf motionActuation.fault)]]

def attitude (attitudeEstimation : AttitudeEstimationImpl F C K) : Reply F :=
  let estimate := attitudeEstimation.latest
  [[.text "pitch ", .float estimate.pitch, .text " rad rate ", .float estimate.pitchRate,
      .text " rad/s"],
    [.text "filter ", .text (nameOf attitudeEstimation.selected), .text " valid ",
      .text (yesOrNo estimate.valid), .text " cause ", .text (nameOf estimate.cause)]]

def reportMode {σ : Type} (supervisor : SafetySupervisorImpl F σ) : Reply F :=
  [[.text "mode ", .text (nameOf supervisor.mode), .text " fault ", .text (nameOf supervisor.cause)]]

def reportTiming (statistics : TimingStatistics) : Reply F :=
  [[.text "iterations ", .integer statistics.iterations.toNat, .text " worst jitter ",
    .integer (inMicroseconds statistics.worstJitter).toNat, .text " us late ",
    .integer statistics.lateIterations.toNat]]

def bluetooth : Option LinkReport → Reply F
  | none => say "ble starting"
  | some report =>
      [[.text "ble ", .text (nameOf report.state), .text " address ",
        .macAddress (mostSignificantFirst report.address), .text " mtu ",
        .integer report.mtu.toNat]]

variable {σ : Type} [ControlStrategy S F]

def listStrategies (balanceControl : BalanceControlImpl F S σ) : Reply F :=
  balanceControl.strategies.mapIdx fun index strategy =>
    [.text "strategy ", .text (ControlStrategy.name strategy),
      .text (if index = balanceControl.active then " (active)" else "")]

/-- An assertion of the strategy stops the list. -/
def listParameters (balanceControl : BalanceControlImpl F S σ) : Option (Reply F) :=
  (ControlStrategy.parameters balanceControl.strategy).zipIdx.mapM fun (descriptor, index) =>
    (ControlStrategy.parameter balanceControl.strategy index).map fun value =>
      [.integer index, .text " ", .text descriptor.name, .text " ", .float value, .text " [",
        .float descriptor.minimum, .text " ", .float descriptor.maximum, .text "]"]

end Reports

section Commands
variable {F S C K : Type} [FloatArithmetic F]

def releaseBridges (main : Main F S C K) : Reply F × Main F S C K :=
  (say "tristated",
    main.withFirmware (main.firmware.withActuation (main.motionActuation.disable .tristate)))

def brake (main : Main F S C K) : Reply F × Main F S C K :=
  (say "braking",
    main.withFirmware (main.firmware.withActuation (main.motionActuation.disable .brake)))

/-- A command of the supervisor is answered by its refusal or by its success. -/
def supervised (main : Main F S C K) (answer : Bool × SafetySupervisorImpl F (Plant F S (Gyroscope F)))
    (refusal success : String) : Reply F × Main F S C K :=
  (say (if answer.1 then success else refusal),
    main.withFirmware (main.firmware.withSupervisor answer.2))

def calibrate (main : Main F S C K) : Reply F × Main F S C K :=
  supervised main main.supervisor.calibrate "refused: calibrate only from idle"
    "calibrating - hold the robot still"

def selectFilter (main : Main F S C K) (params : String) : Reply F × Main F S C K :=
  if params.isEmpty then
    ([[.text "filter ", .text (nameOf main.attitudeEstimation.selected)]], main)
  else
    match parseFilter params with
    | none => (say "usage: filter [complementary|kalman]", main)
    | some filter =>
        ([[.text "filter ", .text (nameOf filter), .text " selected - estimate converging"]],
          main.withEstimation (main.attitudeEstimation.select filter))

def loopTiming (main : Main F S C K) (params : String) : Reply F × Main F S C K :=
  if params = "reset" then
    (say "loop statistics reset", { main with robot := main.robot.resetStatistics })
  else (reportTiming main.robot.statistics, main)

section Operations
variable [FloatRounding F] [ControlStrategy S F]

def clearFault (main : Main F S C K) : Reply F × Main F S C K :=
  supervised main main.supervisor.clearFault "refused: no fault latched" "fault cleared"

def arm (main : Main F S C K) : Reply F × Main F S C K :=
  supervised main main.supervisor.arm
    "refused: arming needs idle, upright within 5 deg, a valid estimate and a healthy driver" "armed"

def disarm (main : Main F S C K) : Reply F × Main F S C K :=
  supervised main main.supervisor.disarm "refused: not armed" "disarmed"

end Operations

section Parameters
variable [TextInput F]

omit [FloatArithmetic F] in
/-- The second of two tokens is a decimal. -/
def readTwo {A : Type} (params : String) (first : String → Option A) : Option (A × F) :=
  match TextInput.tokens F params ' ' with
  | [one, two] => (first one).bind fun left => (parseDecimal F two).map fun right => (left, right)
  | _ => none

def readSetpoints (params : String) : Option (Setpoints F) :=
  (readTwo params (parseDecimal F)).map fun read => ⟨read.1, read.2⟩

def readParameter (params : String) : Option (UInt32 × F) :=
  readTwo params (parseIndex F)

def move (main : Main F S C K) (params : String) : Reply F × Main F S C K :=
  match readSetpoints params with
  | none => (say "usage: move <velocity> <yawRate>, decimals such as 0.2 or -0.5", main)
  | some setpoints =>
      let (accepted, control) := main.balanceControl.move setpoints
      (say (if accepted then "moving"
          else "refused: move needs armed, |velocity| <= 1.0 m/s and |yaw rate| <= 1.6 rad/s"),
        main.withFirmware (main.firmware.withControl control))

variable [ControlStrategy S F]

omit [TextInput F] in
/-- The first strategy of the name is selected. -/
def strategy (main : Main F S C K) (params : String) : Reply F × Main F S C K :=
  if params.isEmpty then (listStrategies main.balanceControl, main)
  else
    match main.balanceControl.strategies.findIdx? fun strategy =>
      params = ControlStrategy.name strategy with
    | none => (say "usage: strategy [<name>]", main)
    | some index =>
        let (accepted, control) := main.balanceControl.select index
        (if accepted then [[.text "strategy ", .text params, .text " selected"]]
          else say "refused: strategy changes need disarmed",
          main.withFirmware (main.firmware.withControl control))

/-- An assertion of the strategy stops the firmware. -/
def param (main : Main F S C K) (params : String) : Option (Reply F × Main F S C K) :=
  if params.isEmpty then (listParameters main.balanceControl).map fun reply => (reply, main)
  else
    match readParameter params with
    | none => some (say "usage: param <index> <value>, value a decimal such as 2.0", main)
    | some (index, value) => do
        let (accepted, control) ← main.balanceControl.setParameter index.toNat value
        let written := main.withFirmware (main.firmware.withControl control)
        if accepted then
          let descriptor ← (ControlStrategy.parameters control.strategy)[index.toNat]?
          some ([[.text descriptor.name, .text " = ", .float value]], written)
        else
          some (say
            "refused: parameter writes need disarmed, a known index and a value in range", written)

end Parameters
end Commands

inductive Command where
  | ping
  | identify
  | releaseBridges
  | brake
  | odometry
  | imu
  | calibrate
  | clearFault
  | driverStatus
  | attitude
  | selectFilter
  | loopTiming
  | arm
  | disarm
  | reportMode
  | move
  | strategy
  | param
  | bluetooth
  deriving DecidableEq

/-- `services::TerminalCommands::CommandInfo` -/
structure CommandInfo where
  longName : String
  shortName : String
  description : String

/-- The terminal runs the handler of the row whose long or short name is typed. -/
def commands : List (CommandInfo × Command) := [
  (⟨"ping", "p", "reply with pong"⟩, .ping),
  (⟨"id", "i", "print the board identifier"⟩, .identify),
  (⟨"tristate", "t", "release both bridges to high impedance"⟩, .releaseBridges),
  (⟨"brake", "b", "short both motors"⟩, .brake),
  (⟨"odom", "o", "print wheel and chassis motion"⟩, .odometry),
  (⟨"imu", "m", "print the latest inertial sample"⟩, .imu),
  (⟨"calibrate", "c", "recalibrate the gyroscope bias, from idle only"⟩, .calibrate),
  (⟨"clear", "x", "clear the latched fault and return to idle"⟩, .clearFault),
  (⟨"driver", "v", "print the motor driver state and latched fault"⟩, .driverStatus),
  (⟨"attitude", "a", "print the pitch estimate"⟩, .attitude),
  (⟨"filter", "f", "select the attitude filter: complementary or kalman"⟩, .selectFilter),
  (⟨"loop", "l", "print control loop timing, 'loop reset' clears it"⟩, .loopTiming),
  (⟨"arm", "r", "arm the drive: needs idle, upright and a valid estimate"⟩, .arm),
  (⟨"disarm", "s", "disarm the drive and tristate both bridges"⟩, .disarm),
  (⟨"mode", "e", "print the operating mode and latched fault"⟩, .reportMode),
  (⟨"move", "w", "command velocity in m/s and yaw rate in rad/s while armed, e.g. move 0.2 0.0"⟩,
    .move),
  (⟨"strategy", "g", "list control strategies, or select one by name while disarmed"⟩, .strategy),
  (⟨"param", "k",
    "list the active strategy's parameters, or 'param <index> <value>' while disarmed"⟩, .param),
  (⟨"ble", "n", "print the Bluetooth radio state, address, MTU and telemetry subscription"⟩,
    .bluetooth)]

variable {F S C K : Type} [FloatArithmetic F] [FloatRounding F] [ControlStrategy S F] [TextInput F]

def Command.run (main : Main F S C K) (params : String) : Command → Option (Reply F × Main F S C K)
  | .ping => some (Cli.ping, main)
  | .identify => some (Cli.identify, main)
  | .releaseBridges => some (Cli.releaseBridges main)
  | .brake => some (Cli.brake main)
  | .odometry => some (Cli.odometry main.wheelOdometry, main)
  | .imu => some (Cli.imu (main.inertialSensing.sensing.latest main.inertialSensing.now), main)
  | .calibrate => some (Cli.calibrate main)
  | .clearFault => some (Cli.clearFault main)
  | .driverStatus => some (Cli.driverStatus main.motionActuation, main)
  | .attitude => some (Cli.attitude main.attitudeEstimation, main)
  | .selectFilter => some (Cli.selectFilter main params)
  | .loopTiming => some (Cli.loopTiming main params)
  | .arm => some (Cli.arm main)
  | .disarm => some (Cli.disarm main)
  | .reportMode => some (Cli.reportMode main.supervisor, main)
  | .move => some (Cli.move main params)
  | .strategy => some (Cli.strategy main params)
  | .param => Cli.param main params
  | .bluetooth => some (Cli.bluetooth (main.bleEndpoint.report main.identityAddress), main)

end InvertedPendulum.Cli
