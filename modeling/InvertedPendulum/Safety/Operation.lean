import InvertedPendulum.Reactive.Watchdog
import InvertedPendulum.Safety.SafetySupervisor

namespace InvertedPendulum.Safety
open Estimation Motion Sensing Control Reactive

/-- One operation of the supervisor: an iteration of the loop, a tick or a command. -/
inductive Request (F : Type) where
  | balance (estimate : Estimate F) (interval : Duration)
  | steer (interval : Duration)
  | supervise
  | arm
  | disarm
  | clearFault
  | calibrate

namespace SafetySupervisorImpl
variable {F σ : Type}

/-- An operation starts with an empty list of calls and with peers in any state. -/
@[simps] def attend (supervisor : SafetySupervisorImpl F σ) (peers : σ) : SafetySupervisorImpl F σ :=
  { supervisor with peers, calls := [] }

/-- Every balance iteration leaves this record, whatever the mode. -/
@[simps] def fed (supervisor : SafetySupervisorImpl F σ) (estimate : Estimate F) :
    SafetySupervisorImpl F σ :=
  { supervisor with serviced := true, latest := estimate }

/-- A liveness tick without a driver fault leaves this record. -/
@[simps peers config mode cause latest serviced started calls]
def counted (supervisor : SafetySupervisorImpl F σ) : SafetySupervisorImpl F σ :=
  { supervisor with
    serviced := false
    missedServices :=
      if supervisor.serviced then 0
      else if supervisor.missedServices < supervisor.config.missedServiceLimit then
        supervisor.missedServices + 1
      else supervisor.missedServices }

/-- The two liveness fields are a watchdog. -/
def watchdog (supervisor : SafetySupervisorImpl F σ) : Watchdog :=
  ⟨supervisor.serviced, supervisor.missedServices⟩

/-- A balance iteration kicks the watchdog. -/
theorem fed_watchdog (supervisor : SafetySupervisorImpl F σ) (estimate : Estimate F) :
    (supervisor.fed estimate).watchdog = supervisor.watchdog.kick := rfl

/-- A counted tick is a tick of the watchdog. -/
theorem counted_watchdog (supervisor : SafetySupervisorImpl F σ) :
    supervisor.counted.watchdog = supervisor.watchdog.tick supervisor.config.missedServiceLimit := rfl

variable [MotionActuation σ F] [SupervisedControl σ F]

/-- Leaving armed releases the bridges first and disengages second. -/
theorem leaveArmed_eq (supervisor : SafetySupervisorImpl F σ) : supervisor.leaveArmed =
    { supervisor with
      peers := SupervisedControl.disengage (MotionActuation.disable supervisor.peers .tristate)
      calls := supervisor.calls ++
        [(supervisor.mode, .disable .tristate), (supervisor.mode, .disengage)] } := by
  simp [leaveArmed, disable, calling]

/-- A fault that ends armed leaves armed as a disarm does, and any other releases the bridges. -/
theorem enterFault_eq (supervisor : SafetySupervisorImpl F σ) (faultCause : FaultCause) :
    supervisor.enterFault faultCause =
      { supervisor with
        peers :=
          if supervisor.mode = .armed then
            SupervisedControl.disengage (MotionActuation.disable supervisor.peers .tristate)
          else MotionActuation.disable supervisor.peers .tristate
        calls := supervisor.calls ++
          if supervisor.mode = .armed then
            [(supervisor.mode, .disable .tristate), (supervisor.mode, .disengage)]
          else [(supervisor.mode, .disable .tristate)]
        cause := faultCause
        mode := .fault } := by
  unfold enterFault
  split
  · simp only [leaveArmed_eq]
  · rfl

@[simp] theorem leaveArmed_config (supervisor : SafetySupervisorImpl F σ) :
    supervisor.leaveArmed.config = supervisor.config := rfl

@[simp] theorem leaveArmed_started (supervisor : SafetySupervisorImpl F σ) :
    supervisor.leaveArmed.started = supervisor.started := rfl

@[simp] theorem leaveArmed_cause (supervisor : SafetySupervisorImpl F σ) :
    supervisor.leaveArmed.cause = supervisor.cause := rfl

@[simp] theorem leaveArmed_serviced (supervisor : SafetySupervisorImpl F σ) :
    supervisor.leaveArmed.serviced = supervisor.serviced := rfl

@[simp] theorem leaveArmed_missedServices (supervisor : SafetySupervisorImpl F σ) :
    supervisor.leaveArmed.missedServices = supervisor.missedServices := rfl

@[simp] theorem leaveArmed_latest (supervisor : SafetySupervisorImpl F σ) :
    supervisor.leaveArmed.latest = supervisor.latest := rfl

section Faulted
variable (supervisor : SafetySupervisorImpl F σ) (faultCause : FaultCause)

@[simp] theorem enterFault_mode : (supervisor.enterFault faultCause).mode = .fault := rfl

@[simp] theorem enterFault_cause : (supervisor.enterFault faultCause).cause = faultCause := rfl

@[simp] theorem enterFault_config :
    (supervisor.enterFault faultCause).config = supervisor.config := by
  rw [enterFault_eq]

@[simp] theorem enterFault_started :
    (supervisor.enterFault faultCause).started = supervisor.started := by
  rw [enterFault_eq]

@[simp] theorem enterFault_serviced :
    (supervisor.enterFault faultCause).serviced = supervisor.serviced := by
  rw [enterFault_eq]

@[simp] theorem enterFault_missedServices :
    (supervisor.enterFault faultCause).missedServices = supervisor.missedServices := by
  rw [enterFault_eq]

@[simp] theorem enterFault_latest :
    (supervisor.enterFault faultCause).latest = supervisor.latest := by
  rw [enterFault_eq]

end Faulted

variable [FloatArithmetic F] [InertialSensing σ] [Clock σ]

/-- The request runs as the operation of its name. -/
def perform (supervisor : SafetySupervisorImpl F σ) : Request F → SafetySupervisorImpl F σ
  | .balance estimate interval => supervisor.balance estimate interval
  | .steer interval => supervisor.steer interval
  | .supervise => supervisor.supervise
  | .arm => supervisor.arm.2
  | .disarm => supervisor.disarm.2
  | .clearFault => supervisor.clearFault.2
  | .calibrate => supervisor.calibrate.2

/-- The supervisor on its own: before each operation its peers change as they please. -/
def machine : Machine (SafetySupervisorImpl F σ) (σ × Request F) where
  step supervisor event := some ((supervisor.attend event.1).perform event.2)

/-- These are the guards of an arm command. -/
structure Armable (supervisor : SafetySupervisorImpl F σ) : Prop where
  idle : supervisor.mode = .idle
  valid : supervisor.latest.valid = true
  upright : supervisor.upright = true
  serviced : supervisor.loopServiced = true
  healthy : supervisor.driverHealthy = true

/-- Liveness ticks run in two modes. -/
def Live (supervisor : SafetySupervisorImpl F σ) : Prop :=
  supervisor.mode = .idle ∨ supervisor.mode = .armed

/-- This table lists everything an operation can do, each row with its guards. -/
inductive Outcome (supervisor : SafetySupervisorImpl F σ) :
    Request F → SafetySupervisorImpl F σ → Prop where
  | fed (estimate : Estimate F) (interval : Duration) (disarmed : supervisor.mode ≠ .armed) :
      Outcome supervisor (.balance estimate interval) (supervisor.fed estimate)
  | invalid (estimate : Estimate F) (interval : Duration) (armed : supervisor.mode = .armed)
      (invalid : estimate.valid = false) :
      Outcome supervisor (.balance estimate interval)
        ((supervisor.fed estimate).enterFault .estimateInvalid)
  | fell (estimate : Estimate F) (interval : Duration) (armed : supervisor.mode = .armed)
      (valid : estimate.valid = true) (above : supervisor.config.fallThreshold < fabs estimate.pitch) :
      Outcome supervisor (.balance estimate interval) ((supervisor.fed estimate).enterFault .fall)
  | failed (estimate : Estimate F) (interval : Duration) (armed : supervisor.mode = .armed)
      (valid : estimate.valid = true)
      (within : ¬ supervisor.config.fallThreshold < fabs estimate.pitch)
      (faulted : MotionActuation.fault supervisor.peers ≠ .none) :
      Outcome supervisor (.balance estimate interval)
        ((supervisor.fed estimate).enterFault .driverFault)
  | balanced (estimate : Estimate F) (interval : Duration) (armed : supervisor.mode = .armed)
      (valid : estimate.valid = true)
      (within : ¬ supervisor.config.fallThreshold < fabs estimate.pitch)
      (healthy : MotionActuation.fault supervisor.peers = .none) :
      Outcome supervisor (.balance estimate interval)
        ((supervisor.fed estimate).calling (.balance estimate interval)
          (BalanceStage.balance supervisor.peers estimate interval))
  | steered (interval : Duration) (armed : supervisor.mode = .armed) :
      Outcome supervisor (.steer interval)
        (supervisor.calling (.steer interval) (OuterStage.steer supervisor.peers interval))
  | notSteered (interval : Duration) (disarmed : supervisor.mode ≠ .armed) :
      Outcome supervisor (.steer interval) supervisor
  | selfTestPassed (init : supervisor.mode = .init) (passed : supervisor.selfTestPassed = true) :
      Outcome supervisor .supervise supervisor.startCalibration
  | selfTestOverdue (init : supervisor.mode = .init) (pending : supervisor.selfTestPassed = false)
      (overdue : supervisor.config.selfTestDeadline ≤
        Clock.now supervisor.peers - supervisor.started) :
      Outcome supervisor .supervise (supervisor.enterFault .selfTestFailed)
  | selfTestPending (init : supervisor.mode = .init) (pending : supervisor.selfTestPassed = false)
      (early : Clock.now supervisor.peers - supervisor.started <
        supervisor.config.selfTestDeadline) :
      Outcome supervisor .supervise supervisor
  | calibrated (calibrating : supervisor.mode = .calibrating)
      (succeeded : InertialSensing.calibration supervisor.peers = .calibrated) :
      Outcome supervisor .supervise { supervisor with mode := .idle }
  | calibrationFailed (calibrating : supervisor.mode = .calibrating)
      (failed : InertialSensing.calibration supervisor.peers = .failed) :
      Outcome supervisor .supervise (supervisor.enterFault .calibrationFailed)
  | calibrationPending (calibrating : supervisor.mode = .calibrating)
      (unfinished : InertialSensing.calibration supervisor.peers ≠ .calibrated)
      (unfailed : InertialSensing.calibration supervisor.peers ≠ .failed) :
      Outcome supervisor .supervise supervisor
  | polled (live : supervisor.Live) (faulted : MotionActuation.fault supervisor.peers ≠ .none) :
      Outcome supervisor .supervise (supervisor.enterFault .driverFault)
  | counted (live : supervisor.Live) (healthy : MotionActuation.fault supervisor.peers = .none)
      (unstalled : supervisor.mode = .armed →
        supervisor.counted.missedServices < supervisor.config.missedServiceLimit) :
      Outcome supervisor .supervise supervisor.counted
  | stalled (armed : supervisor.mode = .armed)
      (healthy : MotionActuation.fault supervisor.peers = .none)
      (reached : supervisor.config.missedServiceLimit ≤ supervisor.counted.missedServices) :
      Outcome supervisor .supervise (supervisor.counted.enterFault .loopStalled)
  | latched (fault : supervisor.mode = .fault) : Outcome supervisor .supervise supervisor
  | armed (armable : supervisor.Armable) :
      Outcome supervisor .arm
        { supervisor.calling .engage (SupervisedControl.engage supervisor.peers) with
          mode := .armed }
  | notArmed (refused : ¬ supervisor.Armable) : Outcome supervisor .arm supervisor
  | disarmed (armed : supervisor.mode = .armed) :
      Outcome supervisor .disarm { supervisor.leaveArmed with mode := .idle }
  | notDisarmed (refused : supervisor.mode ≠ .armed) : Outcome supervisor .disarm supervisor
  | cleared (fault : supervisor.mode = .fault) :
      Outcome supervisor .clearFault
        { supervisor.calling .clearFault (MotionActuation.clearFault supervisor.peers) with
          cause := .none
          mode := .idle }
  | notCleared (refused : supervisor.mode ≠ .fault) : Outcome supervisor .clearFault supervisor
  | recalibrated (idle : supervisor.mode = .idle) :
      Outcome supervisor .calibrate supervisor.startCalibration
  | notRecalibrated (refused : supervisor.mode ≠ .idle) : Outcome supervisor .calibrate supervisor

omit [InertialSensing σ] [Clock σ] in
/-- An arm command is accepted exactly under its guards. -/
theorem arm_accepted {supervisor : SafetySupervisorImpl F σ} :
    supervisor.arm.1 = true ↔ supervisor.Armable := by
  constructor
  · intro accepted
    unfold arm at accepted
    split at accepted
    · cases accepted
    · rename_i allowed
      simp only [ne_eq, not_or, Decidable.not_not, Bool.not_eq_true, Bool.not_eq_false'] at allowed
      obtain ⟨idle, valid, upright, serviced, healthy⟩ := allowed
      exact ⟨idle, valid, upright, serviced, healthy⟩
  · intro given
    obtain ⟨idle, valid, upright, serviced, healthy⟩ := given
    simp [arm, idle, valid, upright, serviced, healthy]

omit [InertialSensing σ] [Clock σ] in
/-- An accepted arm command engages control. -/
theorem Armable.arm_eq {supervisor : SafetySupervisorImpl F σ} (armable : supervisor.Armable) :
    supervisor.arm.2 =
      { supervisor.calling .engage (SupervisedControl.engage supervisor.peers) with
        mode := .armed } := by
  have accepted := arm_accepted.mpr armable
  unfold arm at accepted ⊢
  split at accepted
  · cases accepted
  · rename_i allowed
    rw [if_neg allowed]

theorem arm_outcome (supervisor : SafetySupervisorImpl F σ) :
    supervisor.Outcome .arm supervisor.arm.2 := by
  by_cases armable : supervisor.Armable
  · rw [armable.arm_eq]
    exact .armed armable
  · have refused := mt arm_accepted.mp armable
    unfold arm at refused ⊢
    split at refused
    · rename_i disallowed
      rw [if_pos disallowed]
      exact .notArmed armable
    · exact absurd rfl refused

theorem balance_outcome (supervisor : SafetySupervisorImpl F σ) (estimate : Estimate F)
    (interval : Duration) :
    supervisor.Outcome (.balance estimate interval) (supervisor.balance estimate interval) := by
  simp only [balance]
  split_ifs with disarmed invalid above faulted
  · exact .fed estimate interval disarmed
  · exact .invalid estimate interval (not_not.mp disarmed) (by simpa using invalid)
  · exact .fell estimate interval (not_not.mp disarmed) (by simpa using invalid) above
  · exact .failed estimate interval (not_not.mp disarmed) (by simpa using invalid) above faulted
  · exact .balanced estimate interval (not_not.mp disarmed) (by simpa using invalid) above
      (not_not.mp faulted)

omit [FloatArithmetic F] [InertialSensing σ] [Clock σ] in
/-- Without a driver fault a tick counts, and trips where the count reaches its limit. -/
theorem superviseLiveness_eq (supervisor : SafetySupervisorImpl F σ)
    (healthy : MotionActuation.fault supervisor.peers = .none) :
    supervisor.superviseLiveness =
      if supervisor.mode = .armed ∧
          supervisor.config.missedServiceLimit ≤ supervisor.counted.missedServices then
        supervisor.counted.enterFault .loopStalled
      else supervisor.counted := by
  unfold superviseLiveness
  rw [if_neg (not_not.mpr healthy)]
  rfl

theorem superviseLiveness_outcome (supervisor : SafetySupervisorImpl F σ)
    (live : supervisor.Live) : supervisor.Outcome .supervise supervisor.superviseLiveness := by
  by_cases healthy : MotionActuation.fault supervisor.peers = .none
  · rw [superviseLiveness_eq supervisor healthy]
    split
    · rename_i stalled
      exact .stalled stalled.1 healthy stalled.2
    · rename_i unstalled
      refine .counted live healthy ?_
      intro armed
      exact not_le.mp fun reached => unstalled ⟨armed, reached⟩
  · unfold superviseLiveness
    rw [if_pos healthy]
    exact .polled live healthy

theorem supervise_outcome (supervisor : SafetySupervisorImpl F σ) :
    supervisor.Outcome .supervise supervisor.supervise := by
  unfold supervise
  cases mode : supervisor.mode with
  | init =>
      simp only [superviseSelfTest]
      split_ifs with passed overdue
      · exact .selfTestPassed mode passed
      · exact .selfTestOverdue mode (by simpa using passed) overdue
      · exact .selfTestPending mode (by simpa using passed) (not_le.mp overdue)
  | calibrating =>
      simp only [superviseCalibration]
      split_ifs with succeeded failed
      · exact .calibrated mode succeeded
      · exact .calibrationFailed mode failed
      · exact .calibrationPending mode succeeded failed
  | idle => exact superviseLiveness_outcome supervisor (.inl mode)
  | armed => exact superviseLiveness_outcome supervisor (.inr mode)
  | fault => exact .latched mode

/-- Every operation does what one row of the table says. -/
theorem perform_outcome (supervisor : SafetySupervisorImpl F σ) (request : Request F) :
    supervisor.Outcome request (supervisor.perform request) := by
  cases request with
  | balance estimate interval => exact balance_outcome supervisor estimate interval
  | steer interval =>
      simp only [perform, steer]
      split_ifs with armed
      · exact .steered interval armed
      · exact .notSteered interval armed
  | supervise => exact supervise_outcome supervisor
  | arm => exact arm_outcome supervisor
  | disarm =>
      simp only [perform, disarm]
      split_ifs with disarmed
      · exact .notDisarmed disarmed
      · exact .disarmed (not_not.mp disarmed)
  | clearFault =>
      simp only [perform, clearFault]
      split_ifs with working
      · exact .notCleared working
      · exact .cleared (not_not.mp working)
  | calibrate =>
      simp only [perform, calibrate]
      split_ifs with busy
      · exact .notRecalibrated busy
      · exact .recalibrated (not_not.mp busy)

/-- A step of the machine is one row of the table. -/
theorem machine_outcome {supervisor next : SafetySupervisorImpl F σ} {event : σ × Request F}
    (stepped : machine.step supervisor event = some next) :
    (supervisor.attend event.1).Outcome event.2 next := by
  obtain rfl := Option.some.inj stepped
  exact perform_outcome _ _

end SafetySupervisorImpl

/-- These peers answer every query from a field and change nothing when called. -/
structure Answers (F : Type) where
  driver : DriverState
  driverFault : Motion.FaultCause
  sensing : Sensing.InvalidCause
  calibration : CalibrationState
  now : TimePoint
  deriving DecidableEq

namespace Answers
variable {F : Type}

/-- The driver is ready and the gyroscope is calibrated. -/
def healthy (now : TimePoint) : Answers F := ⟨.ready, .none, .none, .calibrated, now⟩

instance : MotionActuation (Answers F) F where
  apply answers _ _ := answers
  disable answers _ := answers
  fault answers := answers.driverFault
  clearFault answers := answers
  state answers := answers.driver

instance : SupervisedControl (Answers F) F where
  balance answers _ _ := answers
  steer answers _ := answers
  engage answers := answers
  disengage answers := answers

instance : InertialSensing (Answers F) where
  cause answers := answers.sensing
  startCalibration answers := answers
  calibration answers := answers.calibration

instance : Clock (Answers F) where
  now answers := answers.now

end Answers
end InvertedPendulum.Safety
