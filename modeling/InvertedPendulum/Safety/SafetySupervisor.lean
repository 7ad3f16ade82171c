import InvertedPendulum.Control.Stages
import InvertedPendulum.Motion.MotionActuation
import InvertedPendulum.Reactive.Machine
import Mathlib.Tactic.Simps.Basic

namespace InvertedPendulum.Safety
open Estimation Motion Sensing Control

inductive Mode where
  | init
  | calibrating
  | idle
  | armed
  | fault
  deriving DecidableEq

inductive FaultCause where
  | none
  | fall
  | driverFault
  | estimateInvalid
  | loopStalled
  | selfTestFailed
  | calibrationFailed
  deriving DecidableEq

/-- This interface takes the operator's commands and reports the mode. -/
class SafetySupervisor (σ : Type) where
  arm : σ → Bool × σ
  disarm : σ → Bool × σ
  clearFault : σ → Bool × σ
  calibrate : σ → Bool × σ
  current : σ → Mode
  latchedCause : σ → FaultCause

structure SafetySupervisorImpl.Config (F : Type) where
  fallThreshold : F
  armWindow : F
  servicePeriod : Duration
  missedServiceLimit : Nat
  selfTestDeadline : Duration
  deriving DecidableEq

/-- These are the calls that change an object behind the supervisor's references. -/
inductive SafetySupervisorImpl.Call (F : Type) where
  | disable (state : DisableState)
  | clearFault
  | startCalibration
  | engage
  | disengage
  | balance (estimate : Estimate F) (interval : Duration)
  | steer (interval : Duration)
  deriving DecidableEq

/-- The peers are the objects behind the references to actuation, sensing and control.
The calls of the operation under way are listed, each with the mode at that moment. -/
structure SafetySupervisorImpl (F σ : Type) where
  peers : σ
  config : SafetySupervisorImpl.Config F
  mode : Mode
  cause : FaultCause
  latest : Estimate F
  serviced : Bool
  missedServices : Nat
  started : TimePoint
  calls : List (Mode × SafetySupervisorImpl.Call F)
  deriving DecidableEq

namespace SafetySupervisorImpl
variable {F σ : Type} [FloatArithmetic F]

def Config.default : Config F where
  fallThreshold := ((35 * 314159265 / 100000000 / 180 : ℚ) : F)
  armWindow := ((5 * 314159265 / 100000000 / 180 : ℚ) : F)
  servicePeriod := milliseconds 2
  missedServiceLimit := 3
  selfTestDeadline := milliseconds 1000

/-- The constructor checks its configuration before it starts the supervision timer. -/
def construct [Clock σ] (peers : σ) (config : Config F) : Option (SafetySupervisorImpl F σ) :=
  if 0 < config.servicePeriod ∧ 0 < config.missedServiceLimit then
    some {
      peers
      config
      mode := .init
      cause := .none
      latest := AttitudeEstimationImpl.noEstimate
      serviced := false
      missedServices := config.missedServiceLimit
      started := Clock.now peers
      calls := [] }
  else none

/-- A call changes the peers and leaves the supervisor's own fields alone. -/
@[simps] def calling (supervisor : SafetySupervisorImpl F σ) (call : Call F) (peers : σ) :
    SafetySupervisorImpl F σ :=
  { supervisor with peers, calls := supervisor.calls ++ [(supervisor.mode, call)] }

def upright (supervisor : SafetySupervisorImpl F σ) : Bool :=
  fabs supervisor.latest.pitch ≤ supervisor.config.armWindow

def loopServiced (supervisor : SafetySupervisorImpl F σ) : Bool :=
  supervisor.serviced || supervisor.missedServices == 0

def drivePermitted (supervisor : SafetySupervisorImpl F σ) : Bool := supervisor.mode = .armed

section Sensing
variable [InertialSensing σ]

def startCalibration (supervisor : SafetySupervisorImpl F σ) : SafetySupervisorImpl F σ :=
  { supervisor.calling .startCalibration (InertialSensing.startCalibration supervisor.peers) with
    mode := .calibrating }

def calibrate (supervisor : SafetySupervisorImpl F σ) : Bool × SafetySupervisorImpl F σ :=
  if supervisor.mode ≠ .idle then (false, supervisor) else (true, supervisor.startCalibration)

end Sensing

section Actuation
variable [MotionActuation σ F]

def driverHealthy (supervisor : SafetySupervisorImpl F σ) : Bool :=
  MotionActuation.state supervisor.peers = .ready ∧ MotionActuation.fault supervisor.peers = .none

def selfTestPassed [InertialSensing σ] (supervisor : SafetySupervisorImpl F σ) : Bool :=
  let sensingCause := InertialSensing.cause supervisor.peers
  let sampling := sensingCause = .none ∨ sensingCause = .uncalibrated
  MotionActuation.state supervisor.peers = .ready ∧ sampling

def disable (supervisor : SafetySupervisorImpl F σ) (state : DisableState) :
    SafetySupervisorImpl F σ :=
  supervisor.calling (.disable state) (MotionActuation.disable supervisor.peers state)

def clearFault (supervisor : SafetySupervisorImpl F σ) : Bool × SafetySupervisorImpl F σ :=
  if supervisor.mode ≠ .fault then (false, supervisor)
  else
    (true, { supervisor.calling .clearFault (MotionActuation.clearFault supervisor.peers) with
      cause := .none
      mode := .idle })

variable [SupervisedControl σ F]

def leaveArmed (supervisor : SafetySupervisorImpl F σ) : SafetySupervisorImpl F σ :=
  let disabled := supervisor.disable .tristate
  disabled.calling .disengage (SupervisedControl.disengage disabled.peers)

def enterFault (supervisor : SafetySupervisorImpl F σ) (faultCause : FaultCause) :
    SafetySupervisorImpl F σ :=
  let released :=
    if supervisor.mode = .armed then supervisor.leaveArmed else supervisor.disable .tristate
  { released with cause := faultCause, mode := .fault }

def arm (supervisor : SafetySupervisorImpl F σ) : Bool × SafetySupervisorImpl F σ :=
  if supervisor.mode ≠ .idle ∨ ! supervisor.latest.valid ∨ ! supervisor.upright ∨
      ! supervisor.loopServiced ∨ ! supervisor.driverHealthy then
    (false, supervisor)
  else
    (true, { supervisor.calling .engage (SupervisedControl.engage supervisor.peers) with
      mode := .armed })

def disarm (supervisor : SafetySupervisorImpl F σ) : Bool × SafetySupervisorImpl F σ :=
  if supervisor.mode ≠ .armed then (false, supervisor)
  else (true, { supervisor.leaveArmed with mode := .idle })

def balance (supervisor : SafetySupervisorImpl F σ) (estimate : Estimate F) (interval : Duration) :
    SafetySupervisorImpl F σ :=
  let fed := { supervisor with serviced := true, latest := estimate }
  if fed.mode ≠ .armed then fed
  else if ! estimate.valid then fed.enterFault .estimateInvalid
  else if fed.config.fallThreshold < fabs estimate.pitch then fed.enterFault .fall
  else if MotionActuation.fault fed.peers ≠ .none then fed.enterFault .driverFault
  else fed.calling (.balance estimate interval) (BalanceStage.balance fed.peers estimate interval)

def steer (supervisor : SafetySupervisorImpl F σ) (interval : Duration) :
    SafetySupervisorImpl F σ :=
  if supervisor.mode = .armed then
    supervisor.calling (.steer interval) (OuterStage.steer supervisor.peers interval)
  else supervisor

variable [InertialSensing σ]

def superviseSelfTest [Clock σ] (supervisor : SafetySupervisorImpl F σ) :
    SafetySupervisorImpl F σ :=
  if supervisor.selfTestPassed then supervisor.startCalibration
  else if Clock.now supervisor.peers - supervisor.started ≥ supervisor.config.selfTestDeadline then
    supervisor.enterFault .selfTestFailed
  else supervisor

def superviseCalibration (supervisor : SafetySupervisorImpl F σ) : SafetySupervisorImpl F σ :=
  let calibration := InertialSensing.calibration supervisor.peers
  if calibration = .calibrated then { supervisor with mode := .idle }
  else if calibration = .failed then supervisor.enterFault .calibrationFailed
  else supervisor

omit [InertialSensing σ] in
/-- A served tick clears the count, and an unserved one counts up to the limit. -/
def superviseLiveness (supervisor : SafetySupervisorImpl F σ) : SafetySupervisorImpl F σ :=
  if MotionActuation.fault supervisor.peers ≠ .none then supervisor.enterFault .driverFault
  else
    let missedServices :=
      if supervisor.serviced then 0
      else if supervisor.missedServices < supervisor.config.missedServiceLimit then
        supervisor.missedServices + 1
      else supervisor.missedServices
    let counted := { supervisor with missedServices, serviced := false }
    if counted.mode = .armed ∧ counted.missedServices ≥ counted.config.missedServiceLimit then
      counted.enterFault .loopStalled
    else counted

def supervise [Clock σ] (supervisor : SafetySupervisorImpl F σ) : SafetySupervisorImpl F σ :=
  match supervisor.mode with
  | .init => supervisor.superviseSelfTest
  | .calibrating => supervisor.superviseCalibration
  | .idle => supervisor.superviseLiveness
  | .armed => supervisor.superviseLiveness
  | .fault => supervisor

instance : BalanceStage (SafetySupervisorImpl F σ) F where
  balance := balance

instance : OuterStage (SafetySupervisorImpl F σ) where
  steer := steer

instance : SafetySupervisor (SafetySupervisorImpl F σ) where
  arm := arm
  disarm := disarm
  clearFault := clearFault
  calibrate := calibrate
  current := mode
  latchedCause := cause

end Actuation
end SafetySupervisorImpl
end InvertedPendulum.Safety
