import InvertedPendulum.Balance.OperatedControl
import InvertedPendulum.Link.WireFormat
import InvertedPendulum.Telemetry.TelemetryRecorder
import InvertedPendulum.Wire.Channel

namespace InvertedPendulum.Link
open Balance Safety Telemetry Wire Reactive

namespace RobotControlService

inductive Outcome where
  | none
  | accepted
  | refused
  deriving DecidableEq

inductive Status where
  | accepted
  | refused
  | invalidRequest
  | mtuTooSmall
  deriving DecidableEq

instance : EnumCast Outcome where
  enumCast
    | .none => 0
    | .accepted => 1
    | .refused => 2

instance : EnumCast Status where
  enumCast
    | .accepted => 0
    | .refused => 1
    | .invalidRequest => 2
    | .mtuTooSmall => 3

structure Config where
  telemetryPeriod : Duration

def Config.default : Config where
  telemetryPeriod := milliseconds 40

abbrev modeSize : Nat := 4
abbrev telemetrySize : Nat := 26
abbrev tuningSize : Nat := 33
def maximumNameLength : Nat := 16
def responseHeaderSize : Nat := 3
def attributeValueHeaderSize : Nat := 3

/-- This is the default of the attribute protocol in the stack. -/
def attDefaultMaxMtuSize : UInt16 := 23

def unpublished : Vector UInt8 modeSize := #v[0xff, 0xff, 0xff, 0xff]

/-- These calls change an object behind the references of the service; each carries its answer. -/
inductive Call (F : Type) where
  | command (command : Command) (accepted : Bool)
  | move (setpoints : Setpoints F) (accepted : Bool)
  | cancelMotion
  | select (index : Nat) (accepted : Bool)
  | setParameter (index : Nat) (value : F) (accepted : Bool)

end RobotControlService

open RobotControlService

/-- The peers are the objects behind the references to the supervisor, to balance control and to
the telemetry. The calls of the operation under way are listed. -/
structure RobotControlService (F σ : Type) where
  peers : σ
  config : Config
  ticker : Option Duration
  mtu : UInt16
  mode : Channel UInt8 modeSize
  telemetryValue : Channel UInt8 telemetrySize
  tuning : Channel UInt8 tuningSize
  lastCommand : UInt8
  lastOutcome : Outcome
  publishedMode : Vector UInt8 modeSize
  calls : List (Call F)

namespace RobotControlService
variable {F σ : Type}

def construct (peers : σ) (config : Config) : RobotControlService F σ where
  peers
  config
  ticker := none
  mtu := attDefaultMaxMtuSize
  mode := .idle (Vector.replicate modeSize 0)
  telemetryValue := .idle (Vector.replicate telemetrySize 0)
  tuning := .idle (Vector.replicate tuningSize 0)
  lastCommand := 0
  lastOutcome := .none
  publishedMode := unpublished
  calls := []

/-- A call changes the peers and leaves the fields of the service alone. -/
@[simps] def calling (service : RobotControlService F σ) (call : Call F) (peers : σ) :
    RobotControlService F σ :=
  { service with peers, calls := service.calls ++ [call] }

def attMtuChanged (service : RobotControlService F σ) (newMtu : UInt16) :
    RobotControlService F σ :=
  { service with mtu := max newMtu attDefaultMaxMtuSize }

def fits (service : RobotControlService F σ) (length : Nat) : Bool :=
  length + attributeValueHeaderSize ≤ service.mtu.toNat

section Mode
variable [SafetySupervisor σ]

/-- The value of the mode characteristic. -/
def current (service : RobotControlService F σ) : Vector UInt8 modeSize :=
  #v[EnumCast.enumCast (SafetySupervisor.current service.peers),
    EnumCast.enumCast (SafetySupervisor.latchedCause service.peers),
    service.lastCommand,
    EnumCast.enumCast service.lastOutcome]

def publishMode (service : RobotControlService F σ) : RobotControlService F σ :=
  if service.mode.inFlight ∨ service.current = service.publishedMode then service
  else
    { service with
      publishedMode := service.current
      mode := { service.mode with buffer := service.current }.hand modeSize }

def connected (service : RobotControlService F σ) : RobotControlService F σ :=
  { service with ticker := some service.config.telemetryPeriod }.publishMode

def Command.call : Command → σ → Bool × σ
  | .arm => SafetySupervisor.arm
  | .disarm => SafetySupervisor.disarm
  | .clearFault => SafetySupervisor.clearFault
  | .calibrate => SafetySupervisor.calibrate

def execute (service : RobotControlService F σ) (command : UInt8) :
    Bool × RobotControlService F σ :=
  match Command.ofByte? command with
  | some known =>
      let (accepted, peers) := known.call service.peers
      (accepted, service.calling (.command known accepted) peers)
  | none => (false, service)

/-- The handler of mode writes calls `ModeWritten`. -/
def modeWrites (service : RobotControlService F σ) : List UInt8 → RobotControlService F σ
  | [command] =>
      let (accepted, executed) := service.execute command
      { executed with
        lastCommand := command
        lastOutcome := if accepted then .accepted else .refused }.publishMode
  | _ => service

end Mode

section Motion
variable [OperatedControl σ F]

def disconnected (service : RobotControlService F σ) : RobotControlService F σ :=
  { service.calling .cancelMotion (OperatedControl.cancelMotion service.peers) with
    ticker := none
    mtu := attDefaultMaxMtuSize
    telemetryValue := service.telemetryValue.abandon
    mode := service.mode.abandon
    tuning := service.tuning.abandon
    publishedMode := unpublished }

/-- The handler of motion writes calls `MotionWritten`. -/
def motionWrites [FloatBits F] (service : RobotControlService F σ) (data : List UInt8) :
    Option (RobotControlService F σ) :=
  if data.length = motionSize then do
    let velocity ← getFloat data 0
    let yawRate ← getFloat data 4
    let (accepted, peers) := OperatedControl.move service.peers ⟨velocity, yawRate⟩
    some (service.calling (.move ⟨velocity, yawRate⟩ accepted) peers)
  else some service

end Motion

/-- A tuning response is assembled in the buffer of the tuning characteristic. -/
@[simps] def assembling (service : RobotControlService F σ) (buffer : Vector UInt8 tuningSize) :
    RobotControlService F σ :=
  { service with tuning := { service.tuning with buffer } }

/-- A write beyond the tuning buffer has no result. -/
def write (service : RobotControlService F σ) (offset : Nat) (bytes : List UInt8) :
    Option (RobotControlService F σ) :=
  (putAll service.tuning.buffer offset bytes).map service.assembling

def writeFloat [FloatImage F] (service : RobotControlService F σ) (offset : Nat) (value : F) :
    Option (RobotControlService F σ) :=
  (putFloat service.tuning.buffer offset value).map service.assembling

/-- A string ends before its first zero byte. -/
def characters (name : String) : List UInt8 := name.toUTF8.data.toList.takeWhile (· ≠ 0)

def appendName (service : RobotControlService F σ) (offset : Nat) (name : String) :
    Option (Nat × RobotControlService F σ) := do
  let length := min (characters name).length maximumNameLength
  let counted ← service.write offset [UInt8.ofNat length]
  let named ← counted.write (offset + 1) ((characters name).take length)
  some (offset + 1 + length, named)

def respond (service : RobotControlService F σ) (status : Status) :
    Option (Nat × RobotControlService F σ) := do
  let answered ← service.write 2 [EnumCast.enumCast status]
  some (responseHeaderSize, answered)

section Tuning
variable [OperatedControl σ F]

def describeStrategy (service : RobotControlService F σ) (index : UInt8) :
    Option (Nat × RobotControlService F σ) :=
  let count := OperatedControl.strategyCount service.peers
  if index.toNat ≥ count then service.respond .invalidRequest
  else do
    let (_, answered) ← service.respond .accepted
    let counted ← answered.write 3 [UInt8.ofNat count]
    let activated ← counted.write 4 [UInt8.ofNat (OperatedControl.activeStrategy service.peers)]
    let name ← OperatedControl.strategyName service.peers index.toNat
    activated.appendName 5 name

def selectStrategy (service : RobotControlService F σ) (index : UInt8) :
    Option (Nat × RobotControlService F σ) :=
  if index.toNat ≥ OperatedControl.strategyCount service.peers then service.respond .invalidRequest
  else
    let (accepted, peers) := OperatedControl.select service.peers index.toNat
    (service.calling (.select index.toNat accepted) peers).respond
      (if accepted then .accepted else .refused)

def describeParameter [FloatImage F] (service : RobotControlService F σ) (index : UInt8) :
    Option (Nat × RobotControlService F σ) :=
  let descriptors := OperatedControl.parameters service.peers
  match descriptors[index.toNat]? with
  | none => service.respond .invalidRequest
  | some descriptor => do
      let (_, answered) ← service.respond .accepted
      let counted ← answered.write 3 [UInt8.ofNat descriptors.length]
      let value ← OperatedControl.parameter service.peers index.toNat
      let valued ← counted.writeFloat 4 value
      let bounded ← valued.writeFloat 8 descriptor.minimum
      let ranged ← bounded.writeFloat 12 descriptor.maximum
      ranged.appendName 16 descriptor.name

variable [FloatBits F] [FloatImage F]

def writeParameter (service : RobotControlService F σ) (index : UInt8) (data : List UInt8) :
    Option (Nat × RobotControlService F σ) :=
  if data.length ≠ 6 ∨ index.toNat ≥ (OperatedControl.parameters service.peers).length then
    service.respond .invalidRequest
  else do
    let value ← getFloat data 2
    let (accepted, peers) ← OperatedControl.setParameter service.peers index.toNat value
    let written := service.calling (.setParameter index.toNat value accepted) peers
    let (_, answered) ← written.respond (if accepted then .accepted else .refused)
    let stored ← OperatedControl.parameter peers index.toNat
    let valued ← answered.writeFloat responseHeaderSize stored
    some (responseHeaderSize + 4, valued)

def responseTo (service : RobotControlService F σ) (data : List UInt8) :
    Option (Nat × RobotControlService F σ) :=
  match data with
  | operation :: index :: rest =>
      let indexOnly := rest.isEmpty
      match Operation.ofByte? operation with
      | some .describeStrategy =>
          if indexOnly then service.describeStrategy index else service.respond .invalidRequest
      | some .selectStrategy =>
          if indexOnly then service.selectStrategy index else service.respond .invalidRequest
      | some .describeParameter =>
          if indexOnly then service.describeParameter index else service.respond .invalidRequest
      | some .writeParameter => service.writeParameter index data
      | none => service.respond .invalidRequest
  | _ => service.respond .invalidRequest

omit [OperatedControl σ F] [FloatBits F] [FloatImage F] in
/-- The bytes handed over end within the buffer, or they have no meaning. -/
def sendResponse (service : RobotControlService F σ) (length : Nat) :
    Option (RobotControlService F σ) :=
  let prepared :=
    if ! service.fits length then service.respond .mtuTooSmall else some (length, service)
  prepared.bind fun (length, answered) =>
    if length ≤ tuningSize then some { answered with tuning := answered.tuning.hand length } else none

/-- The handler of tuning writes calls `TuningWritten`. -/
def tuningWrites (service : RobotControlService F σ) (data : List UInt8) :
    Option (RobotControlService F σ) :=
  if service.tuning.inFlight then some service
  else do
    let operated ← service.write 0 [data.getD 0 0]
    let indexed ← operated.write 1 [data.getD 1 0]
    let (length, answered) ← indexed.responseTo data
    answered.sendResponse length

end Tuning

section Telemetry
variable [TelemetrySource σ F] [FloatImage F]

/-- A float of the sample that does not fit the telemetry buffer trips an assertion. -/
def publishTelemetry (service : RobotControlService F σ) : Option (RobotControlService F σ) :=
  if service.telemetryValue.inFlight ∨ ! service.fits telemetrySize then some service
  else do
    let sample := TelemetrySource.latest service.peers
    let pitched ← putFloat service.telemetryValue.buffer 0 sample.pitch
    let turning ← putFloat pitched 4 sample.pitchRate
    let driven ← putFloat turning 8 sample.forwardVelocity
    let yawing ← putFloat driven 12 sample.yawRate
    let lefted ← putFloat yawing 16 sample.effortLeft
    let righted ← putFloat lefted 20 sample.effortRight
    let buffer ← putAll righted 24 [EnumCast.enumCast sample.mode, EnumCast.enumCast sample.cause]
    some { service with
      telemetryValue := { service.telemetryValue with buffer }.hand telemetrySize }

def tick [SafetySupervisor σ] (service : RobotControlService F σ) :
    Option (RobotControlService F σ) := service.publishMode.publishTelemetry

end Telemetry

/-- These characteristics notify the client. -/
inductive Group where
  | mode
  | telemetry
  | tuning
  deriving DecidableEq

/-- The stack, the timer and the peers drive the service by these events. -/
inductive Event where
  | connected
  | disconnected
  | attMtuChanged (mtu : UInt16)
  | motionWritten (data : List UInt8)
  | modeWritten (data : List UInt8)
  | tuningWritten (data : List UInt8)
  | tick
  | completed (group : Group) (serial : Nat)

/-- An event finds the peers in any state and starts with an empty list of calls. -/
@[simps] def attend (service : RobotControlService F σ) (peers : σ) : RobotControlService F σ :=
  { service with peers, calls := [] }

/-- The stack completes an update that is outstanding. -/
def complete (service : RobotControlService F σ) :
    Group → Nat → Option (RobotControlService F σ)
  | .mode, serial => (service.mode.complete serial).map fun mode => { service with mode }
  | .telemetry, serial =>
      (service.telemetryValue.complete serial).map fun telemetryValue =>
        { service with telemetryValue }
  | .tuning, serial => (service.tuning.complete serial).map fun tuning => { service with tuning }

section Machine
variable [SafetySupervisor σ] [OperatedControl σ F] [TelemetrySource σ F] [FloatBits F]
  [FloatImage F]

/-- A tick has no meaning while the ticker stands still, nor has the completion of an update that is
not outstanding. -/
def perform (service : RobotControlService F σ) : Event → Option (RobotControlService F σ)
  | .connected => some service.connected
  | .disconnected => some service.disconnected
  | .attMtuChanged mtu => some (service.attMtuChanged mtu)
  | .motionWritten data => service.motionWrites data
  | .modeWritten data => some (service.modeWrites data)
  | .tuningWritten data => service.tuningWrites data
  | .tick => if service.ticker.isSome then service.tick else none
  | .completed group serial => service.complete group serial

/-- Every event comes with the state in which it finds the peers. -/
def machine : Machine (RobotControlService F σ) (σ × Event) where
  step service event := (service.attend event.1).perform event.2

end Machine
end RobotControlService
end InvertedPendulum.Link
