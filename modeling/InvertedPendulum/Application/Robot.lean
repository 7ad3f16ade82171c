import InvertedPendulum.Application.Firmware
import InvertedPendulum.Control.ControlLoop

namespace InvertedPendulum.Application
open Platform Motion Odometry Estimation Sensing Control Balance Safety Telemetry Reactive

/-- Inertial sensing reads the one clock of the firmware. -/
structure Gyroscope (F : Type) where
  sensing : InertialSensingImpl F
  now : TimePoint

instance {F : Type} [FloatArithmetic F] : InertialSensing (Gyroscope F) where
  cause gyroscope := gyroscope.sensing.cause gyroscope.now
  startCalibration gyroscope :=
    { gyroscope with sensing := gyroscope.sensing.startCalibration gyroscope.now }
  calibration gyroscope := gyroscope.sensing.calibration

/-- The loop feeds the estimation, and the chain that the recorder heads. -/
structure Pipeline (F S C K : Type) where
  estimation : AttitudeEstimationImpl F C K
  firmware : Firmware F S (Gyroscope F)

/-- The loop heads the whole robot. -/
abbrev Robot (F S C K : Type) := ControlLoopImpl (Pipeline F S C K)

/-- An operation is external when it does not come from the loop. -/
def Operation.External {F : Type} : Operation F → Prop
  | .balance _ _ => False
  | .steer _ => False
  | _ => True

/-- The sensor samples, or an operation arrives from outside the loop. -/
inductive Signal (F : Type) where
  | sample (sample : InertialSample F)
  | operation (operation : Operation F) (external : operation.External)

variable {F S C K : Type} [FloatArithmetic F]

instance [FloatGeometry F] [PitchFilter C F] [PitchFilter K F] :
    AttitudeEstimation (Pipeline F S C K) F where
  update pipeline measurement :=
    let (estimate, estimation) := pipeline.estimation.update measurement
    (estimate, { pipeline with estimation })

variable [FloatRounding F] [ControlStrategy S F]

instance : BalanceStage (Pipeline F S C K) F where
  balance pipeline estimate interval :=
    { pipeline with firmware := { pipeline.firmware with
        recorder := pipeline.firmware.recorder.balance estimate interval } }

instance : OuterStage (Pipeline F S C K) where
  steer pipeline interval :=
    { pipeline with
      firmware := pipeline.firmware.withSupervisor (pipeline.firmware.supervisor.steer interval) }

namespace Robot

def firmware (robot : Robot F S C K) : Firmware F S (Gyroscope F) := robot.peers.firmware

def sensing (robot : Robot F S C K) : InertialSensingImpl F :=
  robot.firmware.supervisor.peers.sensing.sensing

def withFirmware (robot : Robot F S C K) (firmware : Firmware F S (Gyroscope F)) :
    Robot F S C K :=
  { robot with peers := { robot.peers with firmware } }

/-- Time passes and the wheels turn before a signal arrives. -/
def begin (robot : Robot F S C K) (now : TimePoint) (chassis : ChassisMotion F) : Robot F S C K :=
  robot.withFirmware (robot.firmware.begin ⟨now, chassis, ⟨robot.sensing, now⟩⟩)

def withSensing (robot : Robot F S C K) (sensing : InertialSensingImpl F) : Robot F S C K :=
  robot.withFirmware (robot.firmware.withSupervisor { robot.firmware.supervisor with
    peers := { robot.firmware.supervisor.peers with
      sensing := { robot.firmware.supervisor.peers.sensing with sensing } } })

variable [FloatGeometry F] [PitchFilter C F] [PitchFilter K F]

/-- A sample goes through the calibration and on to the loop as a measurement. -/
def perform (robot : Robot F S C K) (now : TimePoint) : Signal F → Option (Robot F S C K)
  | .sample sample =>
      (robot.sensing.onSample sample).map fun sensing =>
        (robot.withSensing sensing).onMeasurement (sensing.latest now)
  | .operation operation _ => (robot.firmware.perform operation).map robot.withFirmware

/-- The robot is wired as `Main.cpp` does it, with the loop at its default periods. -/
def construct (fullScale : DutyCycle) (decay : Decay) (sensingConfig : InertialSensingImpl.Config F)
    (estimationConfig : AttitudeEstimationImpl.Config F) (complementary : C) (kalman : K)
    (strategies : List S) (balanceConfig : BalanceControlImpl.Config F)
    (safetyConfig : SafetySupervisorImpl.Config F) (now : TimePoint) (chassis : ChassisMotion F) :
    Option (Robot F S C K) :=
  (InertialSensingImpl.construct sensingConfig).bind fun sensing =>
    (Firmware.construct fullScale decay strategies ⟨now, chassis, ⟨sensing, now⟩⟩ balanceConfig
      safetyConfig).bind fun firmware =>
        (ControlLoopImpl.construct
          ⟨AttitudeEstimationImpl.construct estimationConfig complementary kalman, firmware⟩
          .default).toOption

def machine : Machine (Robot F S C K) ((TimePoint × ChassisMotion F) × Signal F) where
  step robot event := (robot.begin event.1.1 event.1.2).perform event.1.1 event.2

end Robot
end InvertedPendulum.Application
