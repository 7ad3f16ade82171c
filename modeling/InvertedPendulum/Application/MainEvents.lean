import InvertedPendulum.Cli.Cli
import InvertedPendulum.Link.RadioInputs
import InvertedPendulum.Reactive.Simulation

namespace InvertedPendulum.Application
open Platform Motion Odometry Estimation Sensing Control Balance Safety Telemetry Link Cli Reactive
  Machine

/-- The sensor, the timers, the driver, the terminal and the radio drive the firmware by these
events. -/
inductive Main.Event (F : Type) where
  | sample (sample : InertialSample F)
  | wheels (left right : QuadratureEncoder)
  | supervise
  | driverFault
  | configured (verified : Bool)
  | typed (command : Command) (params : String)
  | radioReady
  | radio (event : BleLink.Event)

namespace Main

/-- A command of motion is typed or written. -/
def Event.Commands {F : Type} : Event F → Prop
  | .typed .move _ => True
  | .radio (.served (.motionWritten _) _) => True
  | _ => False

/-- A strategy or a parameter is typed or written. -/
def Event.Tunes {F : Type} : Event F → Prop
  | .typed .strategy _ => True
  | .typed .param _ => True
  | .radio (.served (.tuningWritten _) _) => True
  | _ => False

/-- An event from outside the loop asks for these operations. -/
def Event.Asks {F : Type} (event : Event F) : Operation F → Prop
  | .balance _ _ => False
  | .steer _ => False
  | .move _ => event.Commands
  | .select _ => event.Tunes
  | .setParameter _ _ => event.Tunes
  | _ => ¬ event.Tunes

theorem Event.Asks.external {F : Type} {event : Event F} {operation : Operation F}
    (asks : event.Asks operation) : operation.External := by
  cases operation with
  | balance | steer => exact asks
  | supervise | arm | disarm | clearFault | calibrate | move | cancelMotion | select | setParameter |
    tristate | brake | driverFault | configured => trivial

variable {F S C K : Type} [FloatArithmetic F]

/-- The objects are wired as `Main.cpp` does it, with the loop at its default periods. -/
def construct (fullScale : DutyCycle) (decay : Decay) (sensingConfig : InertialSensingImpl.Config F)
    (estimationConfig : AttitudeEstimationImpl.Config F) (complementary : C) (kalman : K)
    (strategies : List S) (odometryConfig : WheelOdometryImpl.Config F)
    (balanceConfig : BalanceControlImpl.Config F) (safetyConfig : SafetySupervisorImpl.Config F)
    (identityAddress : MacAddress) (now : TimePoint) : Option (Main F S C K) :=
  (WheelOdometryImpl.construct odometryConfig now).bind fun wheelOdometry =>
    (Robot.construct fullScale decay sensingConfig estimationConfig complementary kalman strategies
      balanceConfig safetyConfig now wheelOdometry.chassis).map fun robot =>
        ⟨robot, wheelOdometry, .construct, identityAddress⟩

variable [FloatRounding F] [FloatGeometry F] [FloatPi F] [FloatBits F] [FloatImage F] [TextInput F]
  [ControlStrategy S F] [PitchFilter C F] [PitchFilter K F]

def perform (main : Main F S C K) (now : TimePoint) : Event F → Option (Main F S C K)
  | .sample sample =>
      (main.robot.perform now (.sample sample)).map fun robot => { main with robot }
  | .wheels left right =>
      (main.wheelOdometry.sample now left right).map fun wheelOdometry => { main with wheelOdometry }
  | .supervise => (main.firmware.perform .supervise).map main.withFirmware
  | .driverFault => (main.firmware.perform .driverFault).map main.withFirmware
  | .configured verified => (main.firmware.perform (.configured verified)).map main.withFirmware
  | .typed command params => (command.run main params).map Prod.snd
  | .radioReady => some { main with bleEndpoint := main.bleEndpoint.radioReady main.firmware }
  | .radio event =>
      main.bleEndpoint.link.bind fun link =>
        ((link.attend main.firmware).perform event).map fun link =>
          { main.withFirmware link.service.peers with bleEndpoint := ⟨some link⟩ }

def machine : Machine (Main F S C K) (TimePoint × Event F) where
  step main event := (main.begin event.1).perform event.1 event.2

end Main
end InvertedPendulum.Application
