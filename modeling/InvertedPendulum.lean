import InvertedPendulum.Reactive.Machine
import InvertedPendulum.Reactive.Simulation
import InvertedPendulum.Reactive.Watchdog
import InvertedPendulum.Reactive.Timeline
import InvertedPendulum.Reactive.Divider
import InvertedPendulum.Reactive.Bisimulation
import InvertedPendulum.Reactive.Scripts
import InvertedPendulum.Arithmetic.Float
import InvertedPendulum.Arithmetic.Extended
import InvertedPendulum.Arithmetic.Exact
import InvertedPendulum.Arithmetic.Averaging
import InvertedPendulum.Arithmetic.Integers
import InvertedPendulum.Geometry.SignedPermutation
import InvertedPendulum.LeastSquares.Covariance
import InvertedPendulum.LeastSquares.Filtering
import InvertedPendulum.Wire.Buffer
import InvertedPendulum.Wire.Channel
import InvertedPendulum.Wire.LittleEndian
import InvertedPendulum.Storage.Bank
import InvertedPendulum.Hashing.Folding
import InvertedPendulum.Platform
import InvertedPendulum.Platform.InertialFrame
import InvertedPendulum.Motion.BridgeMapping
import InvertedPendulum.Motion.MotionActuation
import InvertedPendulum.Motion.BridgeGate
import InvertedPendulum.Motion.BridgeDrive
import InvertedPendulum.Motion.CurrentScaling
import InvertedPendulum.Motion.DriverConfiguration
import InvertedPendulum.Motion.Drv8711Emulator
import InvertedPendulum.Sensing.InertialSensorStm
import InvertedPendulum.Sensing.SensorPhases
import InvertedPendulum.Sensing.SamplePairing
import InvertedPendulum.Sensing.InertialSensing
import InvertedPendulum.Sensing.Calibration
import InvertedPendulum.Sensing.HeldStill
import InvertedPendulum.Estimation.AttitudeEstimation
import InvertedPendulum.Estimation.PitchFilters
import InvertedPendulum.Estimation.Updates
import InvertedPendulum.Estimation.Convergence
import InvertedPendulum.Estimation.Restart
import InvertedPendulum.Estimation.Blending
import InvertedPendulum.Estimation.LeastSquaresPitch
import InvertedPendulum.Estimation.HoldingStill
import InvertedPendulum.Control.Stages
import InvertedPendulum.Control.ControlLoop
import InvertedPendulum.Control.Pacing
import InvertedPendulum.Control.KeepingPace
import InvertedPendulum.Control.ConfigurationCheck
import InvertedPendulum.Odometry.WheelOdometry
import InvertedPendulum.Odometry.ShortestDelta
import InvertedPendulum.Odometry.Lossless
import InvertedPendulum.Balance.ControlStrategy
import InvertedPendulum.Balance.ContinuousPid
import InvertedPendulum.Balance.CascadedPidStrategy
import InvertedPendulum.Balance.LqrStrategy
import InvertedPendulum.Balance.StrategyCalls
import InvertedPendulum.Balance.Regulation
import InvertedPendulum.Balance.IncrementalLoops
import InvertedPendulum.Balance.HostedStrategy
import InvertedPendulum.Balance.BalanceControl
import InvertedPendulum.Balance.Configuration
import InvertedPendulum.Balance.StrategySession
import InvertedPendulum.Balance.Sessions
import InvertedPendulum.Balance.DrivenStrategy
import InvertedPendulum.Balance.IntegratorHold
import InvertedPendulum.Balance.Memoryless
import InvertedPendulum.Balance.DeadMan
import InvertedPendulum.Balance.Stopping
import InvertedPendulum.Balance.OperatedControl
import InvertedPendulum.Safety.SafetySupervisor
import InvertedPendulum.Safety.Operation
import InvertedPendulum.Safety.ModeMachine
import InvertedPendulum.Safety.Liveness
import InvertedPendulum.Safety.ArmingFreshness
import InvertedPendulum.Safety.StallDetection
import InvertedPendulum.Safety.Envelope
import InvertedPendulum.Telemetry.TelemetryRecorder
import InvertedPendulum.Link.WireFormat
import InvertedPendulum.Link.RobotControlService
import InvertedPendulum.Link.Service
import InvertedPendulum.Link.FrameCodec
import InvertedPendulum.Link.Effects
import InvertedPendulum.Link.TuningProtocol
import InvertedPendulum.Link.UpdatesInFlight
import InvertedPendulum.Link.BleLink
import InvertedPendulum.Link.BleEndpoint
import InvertedPendulum.Link.ModeReports
import InvertedPendulum.Link.DeviceIdentity
import InvertedPendulum.Link.DistinctIdentity
import InvertedPendulum.Application.Firmware
import InvertedPendulum.Link.FirmwarePeers
import InvertedPendulum.Application.Operations
import InvertedPendulum.Application.DriveCoherence
import InvertedPendulum.Application.DriveSafety
import InvertedPendulum.Application.TelemetryTruth
import InvertedPendulum.Application.CommandPaths
import InvertedPendulum.Application.DriverFault
import InvertedPendulum.Application.Robot
import InvertedPendulum.Application.CalibrationEvidence
import InvertedPendulum.Link.RadioInputs
import InvertedPendulum.Application.Main
import InvertedPendulum.Cli.NumberParser
import InvertedPendulum.Cli.Cli
import InvertedPendulum.Application.MainEvents
import InvertedPendulum.Application.MainRefinement
import InvertedPendulum.Application.FilterSelection
import InvertedPendulum.Application.ControlRequests
import InvertedPendulum.Application.LostLink
import InvertedPendulum.Application.Upkeep
import InvertedPendulum.Application.HeldRobot
import InvertedPendulum.Application.Incidents
import InvertedPendulum.Application.HeldCalibration
import InvertedPendulum.Application.Recovery
import InvertedPendulum.Application.Replies
import InvertedPendulum.Application.Registers
import InvertedPendulum.Application.Broadcast
