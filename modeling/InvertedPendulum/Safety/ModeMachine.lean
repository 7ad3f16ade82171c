import InvertedPendulum.Safety.Operation

namespace InvertedPendulum.Safety
open Estimation Motion Sensing Control Reactive Machine

/-- These are the labels of the documented state machine. -/
inductive Trigger where
  | selfTestPassed
  | selfTestOverdue
  | calibrationSucceeded
  | calibrationFailed
  | calibrateCommand
  | armCommand
  | disarmCommand
  | clearFaultCommand
  | driverFault
  | fall
  | estimateInvalid
  | loopStalled
  deriving DecidableEq

/-- The documented table gives the next mode and latched cause of each labelled edge. -/
def Trigger.edge : Trigger → Mode → Option (Mode × FaultCause)
  | .selfTestPassed, .init => some (.calibrating, .none)
  | .selfTestOverdue, .init => some (.fault, .selfTestFailed)
  | .calibrationSucceeded, .calibrating => some (.idle, .none)
  | .calibrationFailed, .calibrating => some (.fault, .calibrationFailed)
  | .calibrateCommand, .idle => some (.calibrating, .none)
  | .armCommand, .idle => some (.armed, .none)
  | .disarmCommand, .armed => some (.idle, .none)
  | .clearFaultCommand, .fault => some (.idle, .none)
  | .driverFault, .idle => some (.fault, .driverFault)
  | .driverFault, .armed => some (.fault, .driverFault)
  | .fall, .armed => some (.fault, .fall)
  | .estimateInvalid, .armed => some (.fault, .estimateInvalid)
  | .loopStalled, .armed => some (.fault, .loopStalled)
  | _, _ => none

/-- One move of the documented machine. -/
def DocumentedMove (before after : Mode × FaultCause) : Prop :=
  ∃ trigger : Trigger, trigger.edge before.1 = some after

/-- A documented edge latches a cause exactly where it ends in the fault mode. -/
theorem Trigger.edge_cause {trigger : Trigger} {before after : Mode} {cause : FaultCause}
    (edge : trigger.edge before = some (after, cause)) : after = .fault ↔ cause ≠ .none := by
  cases trigger <;> cases before <;> simp only [Trigger.edge, reduceCtorEq] at edge <;>
    obtain ⟨rfl, rfl⟩ := Prod.mk.inj (Option.some.inj edge) <;> simp

/-- No documented edge leads back to the self-test. -/
theorem Trigger.edge_init {trigger : Trigger} {before after : Mode} {cause : FaultCause}
    (edge : trigger.edge before = some (after, cause)) : after ≠ .init := by
  cases trigger <;> cases before <;> simp only [Trigger.edge, reduceCtorEq] at edge <;>
    obtain ⟨rfl, rfl⟩ := Prod.mk.inj (Option.some.inj edge) <;> simp

/-- The fault mode is left by the clear-fault command alone. -/
theorem Trigger.edge_fault {trigger : Trigger} {after : Mode × FaultCause}
    (edge : trigger.edge .fault = some after) :
    trigger = .clearFaultCommand ∧ after = (.idle, .none) := by
  cases trigger <;> simp_all [Trigger.edge]

/-- The armed mode is entered by the arm command alone. -/
theorem Trigger.edge_armed {trigger : Trigger} {before : Mode} {cause : FaultCause}
    (edge : trigger.edge before = some (.armed, cause)) : trigger = .armCommand := by
  cases trigger <;> cases before <;> simp_all [Trigger.edge]

/-- The arm command starts from idle. -/
theorem Trigger.edge_arm {before : Mode} {after : Mode × FaultCause}
    (edge : Trigger.armCommand.edge before = some after) : before = .idle := by
  cases before <;> simp_all [Trigger.edge]

namespace SafetySupervisorImpl
variable {F σ : Type}

/-- The cause is latched exactly in the fault mode, and the count stays within its limit. -/
structure WellFormed (supervisor : SafetySupervisorImpl F σ) : Prop where
  cause : supervisor.mode = .fault ↔ supervisor.cause ≠ .none
  limit : 0 < supervisor.config.missedServiceLimit
  count : supervisor.missedServices ≤ supervisor.config.missedServiceLimit

theorem WellFormed.causeNone {supervisor : SafetySupervisorImpl F σ}
    (formed : supervisor.WellFormed) (working : supervisor.mode ≠ .fault) :
    supervisor.cause = .none := by
  by_contra latched
  exact working (formed.cause.mpr latched)

/-- The form of the supervisor does not depend on its peers. -/
theorem WellFormed.attended {supervisor : SafetySupervisorImpl F σ} (formed : supervisor.WellFormed)
    (peers : σ) : (supervisor.attend peers).WellFormed :=
  ⟨formed.cause, formed.limit, formed.count⟩

/-- A constructed supervisor is well formed. -/
theorem construct_wellFormed [FloatArithmetic F] [Clock σ] {peers : σ} {config : Config F}
    {start : SafetySupervisorImpl F σ} (constructed : construct peers config = some start) :
    start.WellFormed := by
  unfold construct at constructed
  split at constructed
  · rename_i positive
    obtain rfl := Option.some.inj constructed
    exact ⟨by simp, positive.2, le_rfl⟩
  · cases constructed

/-- The count of a tick stays within its limit. -/
theorem counted_count {supervisor : SafetySupervisorImpl F σ}
    (count : supervisor.missedServices ≤ supervisor.config.missedServiceLimit) :
    supervisor.counted.missedServices ≤ supervisor.config.missedServiceLimit := by
  have within : supervisor.watchdog.missed ≤ supervisor.config.missedServiceLimit := count
  exact Watchdog.tick_missed_le within

/-- A count that reaches the limit belongs to an unserved tick. -/
theorem counted_reached {supervisor : SafetySupervisorImpl F σ}
    (limit : 0 < supervisor.config.missedServiceLimit)
    (reached : supervisor.config.missedServiceLimit ≤ supervisor.counted.missedServices) :
    supervisor.serviced = false ∧
      supervisor.config.missedServiceLimit ≤ supervisor.missedServices + 1 := by
  have late : supervisor.config.missedServiceLimit ≤
      (supervisor.watchdog.tick supervisor.config.missedServiceLimit).missed := reached
  exact Watchdog.tick_reached limit late

variable [FloatArithmetic F] [MotionActuation σ F] [SupervisedControl σ F]
  [InertialSensing σ] [Clock σ]

/-- The driver has verified its configuration, and the sensor has delivered a sample that is neither
stale nor a failed transfer. -/
def Tested (supervisor : SafetySupervisorImpl F σ) : Prop :=
  MotionActuation.state supervisor.peers = .ready ∧
    (InertialSensing.cause supervisor.peers = .none ∨
      InertialSensing.cause supervisor.peers = .uncalibrated)

/-- Each label has a guard on the state that an operation starts from. -/
def Guard (supervisor : SafetySupervisorImpl F σ) (request : Request F) : Trigger → Prop
  | .selfTestPassed => request = .supervise ∧ supervisor.Tested
  | .selfTestOverdue => request = .supervise ∧ ¬ supervisor.Tested ∧
      supervisor.config.selfTestDeadline ≤ Clock.now supervisor.peers - supervisor.started
  | .calibrationSucceeded => request = .supervise ∧
      InertialSensing.calibration supervisor.peers = .calibrated
  | .calibrationFailed => request = .supervise ∧
      InertialSensing.calibration supervisor.peers = .failed
  | .calibrateCommand => request = .calibrate
  | .armCommand => request = .arm ∧ supervisor.latest.valid = true ∧
      fabs supervisor.latest.pitch ≤ supervisor.config.armWindow ∧
      (supervisor.serviced = true ∨ supervisor.missedServices = 0) ∧
      MotionActuation.state supervisor.peers = .ready ∧
      MotionActuation.fault supervisor.peers = .none
  | .disarmCommand => request = .disarm
  | .clearFaultCommand => request = .clearFault
  | .driverFault => MotionActuation.fault supervisor.peers ≠ .none ∧
      (request = .supervise ∨ ∃ estimate interval, request = .balance estimate interval)
  | .fall => ∃ estimate interval, request = .balance estimate interval ∧ estimate.valid = true ∧
      supervisor.config.fallThreshold < fabs estimate.pitch
  | .estimateInvalid => ∃ estimate interval, request = .balance estimate interval ∧
      estimate.valid = false
  | .loopStalled => request = .supervise ∧ MotionActuation.fault supervisor.peers = .none ∧
      supervisor.serviced = false ∧
      supervisor.config.missedServiceLimit ≤ supervisor.missedServices + 1

omit [FloatArithmetic F] [SupervisedControl σ F] [Clock σ] in
theorem tested_iff {supervisor : SafetySupervisorImpl F σ} :
    supervisor.selfTestPassed = true ↔ supervisor.Tested := by
  unfold selfTestPassed
  exact decide_eq_true_iff

omit [SupervisedControl σ F] in
/-- A supervisor may be armed where it is idle under the guard of the arm command. -/
theorem armable_iff {supervisor : SafetySupervisorImpl F σ} :
    supervisor.Armable ↔ supervisor.mode = .idle ∧ supervisor.Guard .arm .armCommand := by
  have upright : supervisor.upright = true ↔
      fabs supervisor.latest.pitch ≤ supervisor.config.armWindow := decide_eq_true_iff
  have serviced : supervisor.loopServiced = true ↔
      supervisor.serviced = true ∨ supervisor.missedServices = 0 := by
    unfold loopServiced
    rw [Bool.or_eq_true, beq_iff_eq]
  have healthy : supervisor.driverHealthy = true ↔ MotionActuation.state supervisor.peers = .ready ∧
      MotionActuation.fault supervisor.peers = .none := decide_eq_true_iff
  constructor
  · intro armable
    exact ⟨armable.idle, rfl, armable.valid, upright.mp armable.upright,
      serviced.mp armable.serviced, healthy.mp armable.healthy⟩
  · rintro ⟨idle, -, valid, within, served, sound⟩
    exact ⟨idle, valid, upright.mpr within, serviced.mpr served, healthy.mpr sound⟩

/-- An operation keeps the mode and the cause, or it takes a documented edge under its guard. -/
def Documented (before after : SafetySupervisorImpl F σ) (request : Request F) : Prop :=
  after.mode = before.mode ∧ after.cause = before.cause ∨
    ∃ trigger : Trigger, before.Guard request trigger ∧
      trigger.edge before.mode = some (after.mode, after.cause)

/-- A row of the table keeps the configuration and the start of the supervision. -/
theorem Outcome.config {before after : SafetySupervisorImpl F σ} {request : Request F}
    (outcome : before.Outcome request after) :
    after.config = before.config ∧ after.started = before.started := by
  cases outcome <;> simp [startCalibration]

/-- A row of the table keeps the count within its limit. -/
theorem Outcome.count {before after : SafetySupervisorImpl F σ} {request : Request F}
    (outcome : before.Outcome request after)
    (count : before.missedServices ≤ before.config.missedServiceLimit) :
    after.missedServices ≤ after.config.missedServiceLimit := by
  have within := counted_count count
  cases outcome <;> simpa [startCalibration]

/-- Every row of the table keeps the mode and the cause or takes a documented edge. -/
theorem Outcome.documented {before after : SafetySupervisorImpl F σ} {request : Request F}
    (outcome : before.Outcome request after) (formed : before.WellFormed) :
    before.Documented after request := by
  have unlatched := formed.causeNone
  cases outcome with
  | fed | balanced | steered | notSteered | selfTestPending | calibrationPending | counted | latched
  | notArmed | notDisarmed | notCleared | notRecalibrated =>
      left
      exact ⟨rfl, rfl⟩
  | invalid estimate interval armed invalid =>
      right
      exact ⟨.estimateInvalid, ⟨estimate, interval, rfl, invalid⟩, by simp [Trigger.edge, armed]⟩
  | fell estimate interval armed valid above =>
      right
      exact ⟨.fall, ⟨estimate, interval, rfl, valid, above⟩, by simp [Trigger.edge, armed]⟩
  | failed estimate interval armed valid within faulted =>
      right
      exact ⟨.driverFault, ⟨faulted, .inr ⟨estimate, interval, rfl⟩⟩, by simp [Trigger.edge, armed]⟩
  | selfTestPassed init passed =>
      right
      refine ⟨.selfTestPassed, ⟨rfl, tested_iff.mp passed⟩, ?_⟩
      simp [startCalibration, Trigger.edge, init, unlatched]
  | selfTestOverdue init pending overdue =>
      have untested := mt tested_iff.mpr (Bool.eq_false_iff.mp pending)
      right
      exact ⟨.selfTestOverdue, ⟨rfl, untested, overdue⟩, by simp [Trigger.edge, init]⟩
  | calibrated calibrating succeeded =>
      right
      refine ⟨.calibrationSucceeded, ⟨rfl, succeeded⟩, ?_⟩
      simp [Trigger.edge, calibrating, unlatched]
  | calibrationFailed calibrating failed =>
      right
      exact ⟨.calibrationFailed, ⟨rfl, failed⟩, by simp [Trigger.edge, calibrating]⟩
  | polled live faulted =>
      right
      refine ⟨.driverFault, ⟨faulted, .inl rfl⟩, ?_⟩
      rcases live with idle | armed
      · simp [Trigger.edge, idle]
      · simp [Trigger.edge, armed]
  | stalled armed healthy reached =>
      have unserved := counted_reached formed.limit reached
      right
      exact ⟨.loopStalled, ⟨rfl, healthy, unserved.1, unserved.2⟩, by simp [Trigger.edge, armed]⟩
  | armed armable =>
      right
      refine ⟨.armCommand, (armable_iff.mp armable).2, ?_⟩
      simp [Trigger.edge, armable.idle, unlatched]
  | disarmed armed =>
      right
      exact ⟨.disarmCommand, rfl, by simp [Trigger.edge, armed, unlatched]⟩
  | cleared fault =>
      right
      exact ⟨.clearFaultCommand, rfl, by simp [Trigger.edge, fault]⟩
  | recalibrated idle =>
      right
      exact ⟨.calibrateCommand, rfl, by simp [startCalibration, Trigger.edge, idle, unlatched]⟩

/-- Every row of the table keeps a well formed supervisor well formed. -/
theorem Outcome.wellFormed {before after : SafetySupervisorImpl F σ} {request : Request F}
    (outcome : before.Outcome request after) (formed : before.WellFormed) : after.WellFormed := by
  refine ⟨?_, ?_, outcome.count formed.count⟩
  · rcases outcome.documented formed with ⟨sameMode, sameCause⟩ | ⟨trigger, guarded, edge⟩
    · rw [sameMode, sameCause]
      exact formed.cause
    · exact Trigger.edge_cause edge
  · rw [outcome.config.1]
    exact formed.limit

/-- An exit from armed makes two calls, in order, while the mode is still armed. -/
theorem Outcome.exits {before after : SafetySupervisorImpl F σ} {request : Request F}
    (outcome : before.Outcome request after) (quiet : before.calls = [])
    (armed : before.mode = .armed) (left : after.mode ≠ .armed) :
    after.calls = [(.armed, .disable .tristate), (.armed, .disengage)] := by
  cases outcome <;> simp_all [enterFault_eq, leaveArmed_eq]

/-- An entry to fault from another mode makes one call, while the mode is still the old one. -/
theorem Outcome.faults {before after : SafetySupervisorImpl F σ} {request : Request F}
    (outcome : before.Outcome request after) (quiet : before.calls = [])
    (disarmed : before.mode ≠ .armed) (working : before.mode ≠ .fault)
    (faulted : after.mode = .fault) : after.calls = [(before.mode, .disable .tristate)] := by
  cases outcome <;> simp_all [enterFault_eq, startCalibration]

/-- A tick at or past the deadline leaves the self-test. -/
theorem Outcome.deadline {before after : SafetySupervisorImpl F σ}
    (outcome : before.Outcome .supervise after)
    (overdue : before.config.selfTestDeadline ≤ Clock.now before.peers - before.started) :
    after.mode ≠ .init := by
  cases outcome with
  | selfTestPending init pending early => exact absurd overdue (not_le.mpr early)
  | counted live => rcases live with idle | armed <;> simp [*]
  | _ => simp_all [startCalibration]

/-- A step of the machine keeps the supervisor well formed. -/
theorem wellFormed_kept (state : SafetySupervisorImpl F σ) (event : σ × Request F)
    (next : SafetySupervisorImpl F σ) (formed : state.WellFormed)
    (stepped : machine.step state event = some next) : next.WellFormed :=
  (machine_outcome stepped).wellFormed (formed.attended event.1)

/-- A step of the machine keeps the mode and the cause or takes a documented edge. -/
theorem machine_documented {state next : SafetySupervisorImpl F σ} {event : σ × Request F}
    (formed : state.WellFormed) (stepped : machine.step state event = some next) :
    (state.attend event.1).Documented next event.2 :=
  (machine_outcome stepped).documented (formed.attended event.1)

/-- A step of the machine keeps the configuration and the start of the supervision. -/
theorem config_kept (start state : SafetySupervisorImpl F σ) (event : σ × Request F)
    (next : SafetySupervisorImpl F σ)
    (same : state.config = start.config ∧ state.started = start.started)
    (stepped : machine.step state event = some next) :
    next.config = start.config ∧ next.started = start.started := by
  obtain ⟨sameConfig, sameStarted⟩ := (machine_outcome stepped).config
  exact ⟨sameConfig.trans same.1, sameStarted.trans same.2⟩

/-- A supervisor that has left the self-test does not return to it. -/
theorem started_kept (state : SafetySupervisorImpl F σ) (event : σ × Request F)
    (next : SafetySupervisorImpl F σ) (holds : state.WellFormed ∧ state.mode ≠ .init)
    (stepped : machine.step state event = some next) : next.WellFormed ∧ next.mode ≠ .init := by
  refine ⟨wellFormed_kept state event next holds.1 stepped, ?_⟩
  rcases machine_documented holds.1 stepped with ⟨sameMode, -⟩ | ⟨trigger, -, edge⟩
  · rw [sameMode]
    exact holds.2
  · exact Trigger.edge_init edge

/-- A latched fault stays as it was first reported until it is cleared. -/
theorem latched_run {state final : SafetySupervisorImpl F σ} {events : List (σ × Request F)}
    (formed : state.WellFormed) (fault : state.mode = .fault)
    (unclear : ∀ event ∈ events, event.2 ≠ .clearFault)
    (ran : machine.run state events = some final) :
    final.mode = .fault ∧ final.cause = state.cause := by
  induction events generalizing state with
  | nil =>
      obtain rfl := Option.some.inj ran
      exact ⟨fault, rfl⟩
  | cons event rest ih =>
      obtain ⟨next, stepped, ran⟩ := run_cons.mp ran
      have latched : next.mode = .fault ∧ next.cause = state.cause := by
        rcases machine_documented formed stepped with ⟨sameMode, sameCause⟩ | ⟨trigger, guarded, edge⟩
        · exact ⟨sameMode.trans fault, sameCause⟩
        · rw [attend_mode, fault] at edge
          obtain ⟨rfl, -⟩ := Trigger.edge_fault edge
          exact absurd guarded (unclear event (by simp))
      have unclear : ∀ event ∈ rest, event.2 ≠ .clearFault := by
        intro event listed
        exact unclear event (by simp [listed])
      obtain ⟨still, same⟩ := ih (wellFormed_kept state event next formed stepped) latched.1 unclear ran
      exact ⟨still, same.trans latched.2⟩

/-- A step out of the fault mode is an accepted clear-fault command. -/
theorem clearing_step {state next : SafetySupervisorImpl F σ} {event : σ × Request F}
    (formed : state.WellFormed) (stepped : machine.step state event = some next)
    (fault : state.mode = .fault) (working : next.mode ≠ .fault) :
    event.2 = .clearFault ∧ next.mode = .idle := by
  rcases machine_documented formed stepped with ⟨sameMode, -⟩ | ⟨trigger, guarded, edge⟩
  · exact absurd (sameMode.trans fault) working
  · rw [attend_mode, fault] at edge
    obtain ⟨rfl, after⟩ := Trigger.edge_fault edge
    exact ⟨guarded, congrArg Prod.fst after⟩

/-- A step into the armed mode is an accepted arm command. -/
theorem arming_step {state next : SafetySupervisorImpl F σ} {event : σ × Request F}
    (formed : state.WellFormed) (stepped : machine.step state event = some next)
    (disarmed : state.mode ≠ .armed) (armed : next.mode = .armed) :
    event.2 = .arm ∧ (state.attend event.1).arm.1 = true := by
  rcases machine_documented formed stepped with ⟨sameMode, -⟩ | ⟨trigger, guarded, edge⟩
  · exact absurd (sameMode.symm.trans armed) disarmed
  · rw [armed] at edge
    obtain rfl := Trigger.edge_armed edge
    obtain ⟨requested, passed⟩ := guarded
    have idle : state.mode = .idle := Trigger.edge_arm edge
    exact ⟨requested, arm_accepted.mpr (armable_iff.mpr ⟨idle, rfl, passed⟩)⟩

/-- These events hold an accepted clear-fault command and, later, an accepted arm command. -/
def Rearmed (state : SafetySupervisorImpl F σ) (events : List (σ × Request F)) : Prop :=
  ∃ front middle back clearing arming cleared armed,
    events = front ++ (clearing, .clearFault) :: (middle ++ (arming, .arm) :: back) ∧
    machine.run state front = some cleared ∧ (cleared.attend clearing).clearFault.1 = true ∧
    machine.run state (front ++ (clearing, .clearFault) :: middle) = some armed ∧
    (armed.attend arming).arm.1 = true

/-- The drive is armed again after a fault only by two commands of the operator. -/
theorem rearmed_run {state final : SafetySupervisorImpl F σ} {events : List (σ × Request F)}
    (formed : state.WellFormed) (fault : state.mode = .fault) (armed : final.mode = .armed)
    (ran : machine.run state events = some final) : state.Rearmed events := by
  obtain ⟨front, ⟨clearing, request⟩, later, cleared, idle, rfl, reached, inside, cleares, outside,
    onward⟩ := run_crossing (fun state => state.mode ≠ .fault) ran (by simp [fault]) (by simp [armed])
  have clearedFormed := run_invariant wellFormed_kept formed reached
  have latched : cleared.mode = .fault := not_not.mp inside
  obtain ⟨rfl, idled⟩ := clearing_step clearedFormed cleares latched outside
  have accepted : (cleared.attend clearing).clearFault.1 = true := by
    simp [clearFault, latched]
  have idleFormed := wellFormed_kept _ _ _ clearedFormed cleares
  obtain ⟨middle, ⟨arming, request⟩, back, ready, engaged, rfl, waited, disarmed, arms, entered, -⟩ :=
    run_crossing (fun state => state.mode = .armed) onward (by simp [idled]) armed
  have readyFormed := run_invariant wellFormed_kept idleFormed waited
  obtain ⟨rfl, armable⟩ := arming_step readyFormed arms disarmed entered
  refine ⟨front, middle, back, clearing, arming, cleared, ready, rfl, reached, accepted, ?_, armable⟩
  exact run_append.mpr ⟨cleared, reached, run_cons.mpr ⟨idle, cleares, waited⟩⟩

/-- The supervisor that starts here refines its documented mode machine. -/
structure RefinesModeMachine (start : SafetySupervisorImpl F σ) : Prop where
  /-- Every step keeps the mode and the cause or takes a documented edge under its guard. -/
  edges : ∀ state event next, machine.Reachable start state →
    machine.step state event = some next → (state.attend event.1).Documented next event.2
  /-- Every run maps to a path of documented moves. -/
  paths : ∀ final, machine.Reachable start final →
    Relation.ReflTransGen DocumentedMove (start.mode, start.cause) (final.mode, final.cause)
  /-- The fault mode is the one with a cause. -/
  faultCause : ∀ state, machine.Reachable start state → (state.mode = .fault ↔ state.cause ≠ .none)
  /-- A fault keeps the cause that was first reported until it is cleared. -/
  latched : ∀ state events final, machine.Reachable start state → state.mode = .fault →
    (∀ event ∈ events, event.2 ≠ .clearFault) → machine.run state events = some final →
    final.mode = .fault ∧ final.cause = state.cause
  /-- A clear-fault command is refused outside the fault mode and changes nothing there. -/
  unclear : ∀ state peers next, machine.Reachable start state → state.mode ≠ .fault →
    machine.step state (peers, .clearFault) = some next →
    (state.attend peers).clearFault.1 = false ∧ next = state.attend peers
  /-- Two separate commands lead from a fault back to armed. -/
  rearmed : ∀ state events final, machine.Reachable start state → state.mode = .fault →
    machine.run state events = some final → final.mode = .armed → state.Rearmed events
  /-- The self-test is over after any tick at or past its deadline. -/
  deadline : ∀ state peers next events final, machine.Reachable start state →
    start.config.selfTestDeadline ≤ Clock.now peers - start.started →
    machine.step state (peers, .supervise) = some next → machine.run next events = some final →
    final.mode ≠ .init
  /-- Every exit from armed tri-states the bridges and then disengages, before the mode changes. -/
  exits : ∀ state event next, machine.Reachable start state → machine.step state event = some next →
    state.mode = .armed → next.mode ≠ .armed →
    next.calls = [(.armed, .disable .tristate), (.armed, .disengage)]
  /-- Every other edge into fault tri-states the bridges before the mode changes. -/
  faults : ∀ state event next, machine.Reachable start state → machine.step state event = some next →
    state.mode ≠ .armed → state.mode ≠ .fault → next.mode = .fault →
    next.calls = [(state.mode, .disable .tristate)]

/-- A constructed supervisor refines its documented mode machine, whatever its peers answer. -/
theorem supervisor_refines_mode_machine {peers : σ} {config : Config F}
    {start : SafetySupervisorImpl F σ} (constructed : construct peers config = some start) :
    start.RefinesModeMachine where
  edges state event next reached stepped := by
    have formed := reached.invariant wellFormed_kept (construct_wellFormed constructed)
    exact machine_documented formed stepped
  paths final reached := by
    obtain ⟨events, ran⟩ := reached
    refine run_refines (fun state => (state.mode, state.cause)) wellFormed_kept ?_
      (construct_wellFormed constructed) ran
    intro state event next formed stepped
    rcases machine_documented formed stepped with ⟨sameMode, sameCause⟩ | ⟨trigger, -, edge⟩
    · left
      exact Prod.ext sameMode sameCause
    · right
      exact ⟨trigger, edge⟩
  faultCause state reached :=
    (reached.invariant wellFormed_kept (construct_wellFormed constructed)).cause
  latched state events final reached fault unclear ran := by
    have formed := reached.invariant wellFormed_kept (construct_wellFormed constructed)
    exact latched_run formed fault unclear ran
  unclear state peers next reached working stepped := by
    obtain rfl := Option.some.inj stepped
    simp [perform, clearFault, working]
  rearmed state events final reached fault ran armed := by
    have formed := reached.invariant wellFormed_kept (construct_wellFormed constructed)
    exact rearmed_run formed fault armed ran
  deadline state peers next events final reached overdue stepped ran := by
    have formed := reached.invariant wellFormed_kept (construct_wellFormed constructed)
    obtain ⟨sameConfig, sameStarted⟩ := reached.invariant (config_kept start) ⟨rfl, rfl⟩
    have tested : next.mode ≠ .init := by
      apply (machine_outcome stepped).deadline
      rw [attend_config, attend_started, attend_peers, sameConfig, sameStarted]
      exact overdue
    have holds := run_invariant started_kept ⟨wellFormed_kept _ _ _ formed stepped, tested⟩ ran
    exact holds.2
  exits state event next reached stepped armed left :=
    (machine_outcome stepped).exits rfl armed left
  faults state event next reached stepped disarmed working faulted :=
    (machine_outcome stepped).faults rfl disarmed working faulted

/-- The default configuration starts a supervisor that refines the mode machine. -/
theorem supervisor_refines_mode_machine_default :
    ∃ start : SafetySupervisorImpl ℚ (Answers ℚ),
      construct (Answers.healthy 0) Config.default = some start ∧ start.RefinesModeMachine :=
  ⟨_, rfl, supervisor_refines_mode_machine
    (rfl : construct (Answers.healthy 0) Config.default = some _)⟩

end SafetySupervisorImpl
end InvertedPendulum.Safety
