import InvertedPendulum.Application.CommandPaths
import InvertedPendulum.Application.DriveSafety

namespace InvertedPendulum.Safety.SafetySupervisorImpl
open Estimation Motion Sensing Control

section Polling
variable {F σ : Type} [FloatArithmetic F] [MotionActuation σ F] [SupervisedControl σ F]
  [InertialSensing σ] [Clock σ] {before after : SafetySupervisorImpl F σ}

/-- A live tick on a faulted driver ends in the fault mode. -/
theorem Outcome.polled_fault (outcome : before.Outcome .supervise after) (live : before.Live)
    (faulted : MotionActuation.fault before.peers ≠ .none) : after.mode = .fault := by
  cases outcome with
  | selfTestPassed init | selfTestOverdue init | selfTestPending init =>
      rcases live with idle | armed <;> simp_all
  | calibrated calibrating | calibrationFailed calibrating | calibrationPending calibrating =>
      rcases live with idle | armed <;> simp_all
  | polled | stalled => simp
  | counted _ healthy => exact absurd healthy faulted
  | latched fault => exact fault

/-- An armed balance iteration on a faulted driver ends in the fault mode. -/
theorem Outcome.balanced_fault {estimate : Estimate F} {interval : Duration}
    (outcome : before.Outcome (.balance estimate interval) after) (armed : before.mode = .armed)
    (faulted : MotionActuation.fault before.peers ≠ .none) : after.mode = .fault := by
  cases outcome with
  | fed _ _ disarmed => exact absurd armed disarmed
  | invalid | fell | failed => simp
  | balanced _ _ _ _ _ healthy => exact absurd healthy faulted

omit [InertialSensing σ] [Clock σ] in
/-- A faulted driver cannot be armed. -/
theorem unarmed_faulted {supervisor : SafetySupervisorImpl F σ}
    (faulted : MotionActuation.fault supervisor.peers ≠ .none) : supervisor.arm.1 = false := by
  refine Bool.eq_false_iff.mpr fun accepted => ?_
  have healthy := of_decide_eq_true (arm_accepted.mp accepted).healthy
  exact faulted healthy.2

omit [FloatArithmetic F] [SupervisedControl σ F] [InertialSensing σ] [Clock σ] in
/-- A clear-fault command is accepted in the fault mode alone. -/
theorem clearFault_accepted {supervisor : SafetySupervisorImpl F σ} :
    supervisor.clearFault.1 = true ↔ supervisor.mode = .fault := by
  unfold clearFault
  by_cases fault : supervisor.mode = .fault <;> simp [fault]

end Polling
end InvertedPendulum.Safety.SafetySupervisorImpl

namespace InvertedPendulum.Application
open Platform Motion Estimation Sensing Control Balance Safety Link Reactive Machine

variable {F S τ : Type} [FloatArithmetic F] [FloatRounding F] [ControlStrategy S F]
  [InertialSensing τ] [FloatBits F]

namespace Firmware

/-- An input clears the fault when it makes a clear-fault call that the supervisor accepts. -/
def Clears (firmware : Firmware F S τ) (event : Moment F τ × Input F) : Prop :=
  event.2.operation? firmware.control = some .clearFault ∧
    (firmware.begin event.1).supervisor.clearFault.1 = true

/-- An input keeps the bridges released when all of its calls come from a release. -/
def KeepsReleased (firmware : Firmware F S τ) (event : Moment F τ × Input F) : Prop :=
  ∀ next, commandedMachine.step firmware event = some next →
    ∀ call ∈ next.motors.calls, call.site = .releaseBridges

/-- The bridges are released. -/
def Released (firmware : Firmware F S τ) : Prop :=
  firmware.motors.last.left = releasedInputs ∧ firmware.motors.last.right = releasedInputs

/-- These inputs poll the driver in the modes where they do. -/
def Polls (firmware : Firmware F S τ) : Input F → Prop
  | .supervise => firmware.supervisor.mode = .idle ∨ firmware.supervisor.mode = .armed
  | .balance _ _ => firmware.supervisor.mode = .armed
  | _ => False

/-- This holds of the firmware while a driver fault waits to be cleared. -/
structure AwaitsClear (firmware : Firmware F S τ) : Prop where
  /-- The fault stays latched in the actuation. -/
  fault : firmware.actuation.fault = .driverFault
  /-- The last operation has only released the bridges. -/
  released : ∀ call ∈ firmware.motors.calls,
    call.left = releasedInputs ∧ call.right = releasedInputs
  /-- An arm command is refused. -/
  unarmed : ∀ moment, (firmware.begin moment).supervisor.arm.1 = false
  /-- A poll of the driver ends in the fault mode. -/
  escalates : ∀ moment input next, commandedMachine.step firmware (moment, input) = some next →
    firmware.Polls input → next.supervisor.mode = .fault
  /-- The fault is cleared in the fault mode, without a call on the driver, and the bridges stay
  released until an apply or a brake. -/
  cleared : ∀ event next, commandedMachine.step firmware event = some next →
    firmware.Clears event →
    firmware.supervisor.mode = .fault ∧ next.motors.calls = [] ∧
      ∀ events final, commandedMachine.run next events = some final →
        commandedMachine.Along KeepsReleased next events → final.Released

omit [ControlStrategy S F] [InertialSensing τ] [FloatBits F] in
/-- An operation makes one call on the motor driver or none. -/
theorem DriveStep.drives {before after : Firmware F S τ} {operation : Operation F}
    (step : before.DriveStep after operation) :
    after.actuation.motors = before.actuation.motors ∨
      ∃ call, after.actuation.motors = before.actuation.motors.drive call := by
  cases step with
  | requested operation request requested step =>
      cases step with
      | kept _ actuation => exact .inl (congrArg MotionActuationImpl.motors actuation)
      | released _ actuation => exact .inr ⟨_, congrArg MotionActuationImpl.motors actuation⟩
      | cleared fault actuation =>
          exact .inl ((congrArg MotionActuationImpl.motors actuation).trans rfl)
      | applied estimate interval armed valid within healthy actuation =>
          have actuation : after.actuation = before.actuation.apply after.control.applied.left
            after.control.applied.right := actuation
          rw [actuation]
          rcases before.actuation.apply_cases after.control.applied.left
            after.control.applied.right with ⟨same, -⟩ | ⟨driven, -⟩
          · exact .inl (congrArg MotionActuationImpl.motors same)
          · exact .inr ⟨_, congrArg MotionActuationImpl.motors driven⟩
  | prepared _ actuation => exact .inl (congrArg MotionActuationImpl.motors actuation)
  | tristate actuation | brake actuation =>
      rw [actuation]
      rcases before.actuation.disable_cases _ with released | ⟨braked, -⟩
      · exact .inr ⟨_, congrArg MotionActuationImpl.motors released⟩
      · exact .inr ⟨_, congrArg MotionActuationImpl.motors braked⟩
  | driverFault actuation => exact .inr ⟨_, congrArg MotionActuationImpl.motors actuation⟩
  | configured verified actuation =>
      exact .inl ((congrArg MotionActuationImpl.motors actuation).trans rfl)

omit [ControlStrategy S F] [InertialSensing τ] [FloatBits F] in
/-- A latched fault is cleared by the supervisor in the fault mode and by nothing else. -/
theorem DriveStep.fault {before after : Firmware F S τ} {operation : Operation F}
    (step : before.DriveStep after operation) (latched : before.actuation.fault = .driverFault) :
    after.actuation.fault = .driverFault ∨
      operation = .clearFault ∧ before.supervisor.mode = .fault := by
  cases step with
  | requested operation request requested step =>
      cases step with
      | kept _ actuation | released _ actuation =>
          left
          exact (congrArg MotionActuationImpl.fault actuation).trans latched
      | cleared fault actuation =>
          right
          cases operation <;> cases requested
          exact ⟨rfl, fault⟩
      | applied estimate interval armed valid within healthy actuation =>
          have healthy : before.actuation.fault = .none := healthy
          rw [latched] at healthy
          cases healthy
  | prepared _ actuation | configured _ actuation =>
      left
      exact (congrArg MotionActuationImpl.fault actuation).trans latched
  | tristate actuation | brake actuation =>
      left
      rw [actuation]
      rcases before.actuation.disable_cases _ with released | ⟨braked, -⟩
      · exact (congrArg MotionActuationImpl.fault released).trans latched
      · exact (congrArg MotionActuationImpl.fault braked).trans latched
  | driverFault actuation => exact .inl (congrArg MotionActuationImpl.fault actuation)

omit [ControlStrategy S F] [InertialSensing τ] [FloatBits F] in
/-- A step of the machine on released bridges keeps them released when each of its calls is a
release. -/
theorem released_step {before after : Firmware F S τ} {operation : Operation F}
    (step : before.DriveStep after operation) (quiet : before.actuation.motors.calls = [])
    (released : before.Released)
    (calls : ∀ call ∈ after.motors.calls, call = MotionActuationImpl.released) :
    after.Released := by
  rcases step.drives with same | ⟨call, driven⟩
  · have motors : after.motors = before.motors := same
    unfold Released
    rw [motors]
    exact released
  · have motors : after.motors = before.actuation.motors.drive call := driven
    have called : call ∈ after.motors.calls := by simp [motors, quiet]
    obtain rfl := calls call called
    unfold Released
    rw [motors]
    exact ⟨rfl, rfl⟩

/-- The four objects agree, whoever called the motor driver last. -/
def Agreed (firmware : Firmware F S τ) : Prop := ∃ caller, firmware.Coherent caller

/-- The fault is latched on released bridges. -/
structure Latched (firmware : Firmware F S τ) : Prop where
  agreed : firmware.Agreed
  fault : firmware.actuation.fault = .driverFault
  released : firmware.Released
  calls : ∀ call ∈ firmware.motors.calls, call = MotionActuationImpl.released

/-- An input keeps the four objects in agreement. -/
theorem agreed_kept (firmware : Firmware F S τ) (event : Moment F τ × Input F)
    (next : Firmware F S τ) (agreed : firmware.Agreed)
    (stepped : commandedMachine.step firmware event = some next) : next.Agreed := by
  obtain ⟨caller, coherent⟩ := agreed
  rcases commanded_cases stepped with ⟨operation, -, performed⟩ | ⟨-, rfl⟩
  · exact ⟨_, perform_coherent (coherent.begin event.1) rfl performed⟩
  · exact ⟨caller, coherent.begin event.1⟩

/-- An input does one thing to the motors, or makes no call at all. -/
theorem commanded_driveStep {firmware next : Firmware F S τ} {event : Moment F τ × Input F}
    (agreed : firmware.Agreed)
    (stepped : commandedMachine.step firmware event = some next) :
    (∃ operation, event.2.operation? firmware.control = some operation ∧
        (firmware.begin event.1).DriveStep next operation) ∨
      next = firmware.begin event.1 := by
  obtain ⟨caller, coherent⟩ := agreed
  rcases commanded_cases stepped with ⟨operation, read, performed⟩ | ⟨-, passed⟩
  · exact .inl ⟨operation, read, perform_driveStep (coherent.begin event.1) performed⟩
  · exact .inr passed

/-- A driver fault latches, whatever went before. -/
theorem driverFault_latched {firmware next : Firmware F S τ} {moment : Moment F τ}
    (agreed : firmware.Agreed)
    (stepped : commandedMachine.step firmware (moment, .driverFault) = some next) : next.Latched where
  agreed := agreed_kept _ _ _ agreed stepped
  fault := by
    obtain rfl := Option.some.inj stepped
    rfl
  released := by
    obtain rfl := Option.some.inj stepped
    exact ⟨rfl, rfl⟩
  calls := by
    obtain rfl := Option.some.inj stepped
    intro call called
    exact List.mem_singleton.mp called

/-- Every input but an accepted clear-fault command leaves the fault latched. -/
theorem latched_kept (state : Firmware F S τ) (event : Moment F τ × Input F)
    (next : Firmware F S τ) (latched : state.Latched) (unclear : ¬ state.Clears event)
    (stepped : commandedMachine.step state event = some next) : next.Latched := by
  have agreed := agreed_kept _ _ _ latched.agreed stepped
  rcases commanded_driveStep latched.agreed stepped with ⟨operation, read, step⟩ | rfl
  · have calls : ∀ call ∈ next.motors.calls, call = MotionActuationImpl.released := by
      intro call called
      have unpermitted : ¬ (state.begin event.1).actuation.drivePermitted = true := by
        intro permitted
        have healthy : state.actuation.fault = .none :=
          (MotionActuationImpl.drivePermitted_iff.mp permitted).2
        rw [latched.fault] at healthy
        cases healthy
      rcases step.called rfl called with released | ⟨-, -, permitted⟩ |
        ⟨_, _, -, -, -, -, -, permitted⟩
      · exact released
      · exact absurd permitted unpermitted
      · exact absurd permitted unpermitted
    refine ⟨agreed, ?_, released_step step rfl latched.released calls, calls⟩
    rcases step.fault latched.fault with fault | ⟨rfl, fault⟩
    · exact fault
    · exact absurd ⟨read, SafetySupervisorImpl.clearFault_accepted.mpr fault⟩ unclear
  · exact ⟨agreed, latched.fault, latched.released, fun _ called => by cases called⟩

/-- An accepted clear-fault command makes no call on the motor driver. -/
theorem cleared_step {firmware next : Firmware F S τ} {event : Moment F τ × Input F}
    (released : firmware.Released) (clears : firmware.Clears event)
    (stepped : commandedMachine.step firmware event = some next) :
    firmware.supervisor.mode = .fault ∧ next.motors.calls = [] ∧ next.Released := by
  obtain ⟨read, accepted⟩ := clears
  have fault : (firmware.begin event.1).supervisor.mode = .fault :=
    SafetySupervisorImpl.clearFault_accepted.mp accepted
  rcases commanded_cases stepped with ⟨operation, same, performed⟩ | ⟨unread, -⟩
  · obtain rfl := Option.some.inj (same.symm.trans read)
    obtain rfl := Option.some.inj performed
    have motors : ((firmware.begin event.1).withSupervisor
        (firmware.begin event.1).supervisor.clearFault.2).motors = ⟨firmware.motors.last, []⟩ := by
      unfold SafetySupervisorImpl.clearFault
      split <;> rfl
    unfold Released
    rw [motors]
    exact ⟨fault, rfl, released⟩
  · rw [unread] at read
    cases read

/-- Released bridges stay released while every call is a release. -/
theorem released_kept (state : Firmware F S τ) (event : Moment F τ × Input F)
    (next : Firmware F S τ) (holds : state.Agreed ∧ state.Released)
    (keeps : state.KeepsReleased event) (stepped : commandedMachine.step state event = some next) :
    next.Agreed ∧ next.Released := by
  obtain ⟨agreed, released⟩ := holds
  refine ⟨agreed_kept _ _ _ agreed stepped, ?_⟩
  rcases commanded_driveStep agreed stepped with ⟨operation, -, step⟩ | rfl
  · apply released_step step rfl released
    intro call called
    have site := keeps next stepped call called
    rcases step.called rfl called with same | ⟨rfl, -⟩ | ⟨_, _, -, rfl, -⟩
    · exact same
    · cases site
    · cases site
  · exact released

/-- A latched fault awaits its clear. -/
theorem Latched.awaitsClear {firmware : Firmware F S τ} (latched : firmware.Latched) :
    firmware.AwaitsClear where
  fault := latched.fault
  released call called := by
    rw [latched.calls call called]
    exact ⟨rfl, rfl⟩
  unarmed moment := by
    apply SafetySupervisorImpl.unarmed_faulted
    change firmware.actuation.fault ≠ .none
    simp [latched.fault]
  escalates moment input next stepped polls := by
    have faulted : MotionActuation.fault (firmware.begin moment).supervisor.peers ≠
        Motion.FaultCause.none := by
      change firmware.actuation.fault ≠ .none
      simp [latched.fault]
    cases input with
    | supervise =>
        obtain rfl := Option.some.inj stepped
        have outcome := (firmware.begin moment).supervisor.perform_outcome .supervise
        exact outcome.polled_fault polls faulted
    | balance estimate interval =>
        obtain rfl := Option.some.inj stepped
        have outcome := (firmware.begin moment).supervisor.perform_outcome (.balance estimate interval)
        exact outcome.balanced_fault polls faulted
    | _ => cases polls
  cleared event next stepped clears := by
    obtain ⟨fault, quiet, released⟩ := cleared_step latched.released clears stepped
    refine ⟨fault, quiet, ?_⟩
    intro events final ran along
    have agreed := agreed_kept _ _ _ latched.agreed stepped
    exact (run_invariant_along released_kept ⟨agreed, released⟩ along ran).2

/-- A driver fault at any point of any run waits to be cleared. -/
def FaultsAwaitClear (start : Firmware F S τ) : Prop :=
  ∀ firmware moment faulted events final, commandedMachine.Reachable start firmware →
    commandedMachine.step firmware (moment, .driverFault) = some faulted →
    commandedMachine.run faulted events = some final →
    commandedMachine.Along (fun state event => ¬ state.Clears event) faulted events →
    final.AwaitsClear

/-- In the constructed firmware a driver fault escalates and is cleared by the operator alone. -/
theorem construct_faultsAwaitClear {fullScale : DutyCycle} {decay : Decay} {strategies : List S}
    {moment : Moment F τ} {balanceConfig : BalanceControlImpl.Config F}
    {safetyConfig : SafetySupervisorImpl.Config F} {start : Firmware F S τ}
    (constructed : construct fullScale decay strategies moment balanceConfig safetyConfig =
      some start) : start.FaultsAwaitClear := by
  intro firmware moment faulted events final reached stepped ran unclear
  have initially : start.Agreed := ⟨none, (construct_starts constructed).1⟩
  have agreed : firmware.Agreed := reached.invariant agreed_kept initially
  have latched := driverFault_latched agreed stepped
  exact (run_invariant_along latched_kept latched unclear ran).awaitsClear

/-- The firmware of `Main.cpp` holds every driver fault for the operator. -/
theorem main_faultsAwaitClear : ∃ start : Firmware Extended _ (Answers Extended),
    main 1000 ⟨0, ⟨0, 0⟩, .healthy 0⟩ = some start ∧ start.FaultsAwaitClear :=
  ⟨_, rfl, construct_faultsAwaitClear
    (rfl : main (F := Extended) 1000 ⟨0, ⟨0, 0⟩, Answers.healthy 0⟩ = some _)⟩

end Firmware
end InvertedPendulum.Application
