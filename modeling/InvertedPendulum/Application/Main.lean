import InvertedPendulum.Application.Robot
import InvertedPendulum.Link.BleEndpoint
import InvertedPendulum.Odometry.WheelOdometry

namespace InvertedPendulum.Application
open Platform Motion Odometry Estimation Sensing Control Balance Safety Telemetry Link Reactive

/-- These are the objects that `main` wires, with the address of the radio. -/
structure Main (F S C K : Type) where
  robot : Robot F S C K
  wheelOdometry : WheelOdometryImpl F
  bleEndpoint : BleEndpoint F (Firmware F S (Gyroscope F))
  identityAddress : MacAddress

namespace Main
variable {F S C K : Type}

def firmware (main : Main F S C K) : Firmware F S (Gyroscope F) := main.robot.firmware

def motionActuation (main : Main F S C K) : MotionActuationImpl := main.firmware.actuation

def inertialSensing (main : Main F S C K) : Gyroscope F := main.firmware.supervisor.peers.sensing

def attitudeEstimation (main : Main F S C K) : AttitudeEstimationImpl F C K :=
  main.robot.peers.estimation

def supervisor (main : Main F S C K) : SafetySupervisorImpl F (Plant F S (Gyroscope F)) :=
  main.firmware.supervisor

def balanceControl (main : Main F S C K) : BalanceControlImpl F S (Hardware F) :=
  main.firmware.control

def withFirmware (main : Main F S C K) (firmware : Firmware F S (Gyroscope F)) : Main F S C K :=
  { main with robot := main.robot.withFirmware firmware }

def withEstimation (main : Main F S C K) (estimation : AttitudeEstimationImpl F C K) :
    Main F S C K :=
  { main with robot := { main.robot with peers := { main.robot.peers with estimation } } }

variable [FloatArithmetic F]

/-- Time passes, and the wheels move as odometry has measured them. -/
def begin (main : Main F S C K) (now : TimePoint) : Main F S C K :=
  { main with robot := main.robot.begin now main.wheelOdometry.chassis }

end Main
end InvertedPendulum.Application
