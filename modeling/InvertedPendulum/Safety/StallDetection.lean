import InvertedPendulum.Safety.Liveness

namespace InvertedPendulum.Safety
open Estimation Motion Sensing Control Reactive Machine

namespace SafetySupervisorImpl
variable {F σ : Type} [FloatArithmetic F] [MotionActuation σ F] [SupervisedControl σ F]
  [InertialSensing σ] [Clock σ]

/-- A request is neither a balance iteration nor an accepted arm command. -/
def Unserved (supervisor : SafetySupervisorImpl F σ) (event : σ × Request F) : Prop :=
  (∀ estimate interval, event.2 ≠ .balance estimate interval) ∧
    (event.2 = .arm → (supervisor.attend event.1).arm.1 = false)

/-- A supervisor that starts here detects a stalled loop exactly. -/
structure DetectsStalls (start : SafetySupervisorImpl F σ) : Prop where
  /-- The mode is not armed after more ticks than the limit without service and without arming. -/
  noMissedAlarm : ∀ state events final, machine.Reachable start state →
    machine.Along Unserved state events → machine.run state events = some final →
    start.config.missedServiceLimit < events.countP (fun event => event.2 matches .supervise) →
    final.mode ≠ .armed
  /-- A stall is reported after as many armed ticks as the limit, none of which found service. -/
  noFalseAlarm : ∀ state watched peers next seen,
    watchedMachine.Reachable (start, .nothing) (state, watched) →
    watchedMachine.step (state, watched) (peers, .supervise) = some (next, seen) →
    state.mode ≠ .fault → next.mode = .fault → next.cause = .loopStalled →
    seen.found.take start.config.missedServiceLimit =
      List.replicate start.config.missedServiceLimit (.armed, false)
  /-- The count never exceeds the limit. -/
  bounded : ∀ state, machine.Reachable start state →
    state.missedServices ≤ start.config.missedServiceLimit

/-- A supervisor that ends an unserved operation armed was armed before it. -/
theorem Outcome.armedBefore {before after : SafetySupervisorImpl F σ} {request : Request F}
    (outcome : before.Outcome request after)
    (refused : request = .arm → before.arm.1 = false) (armed : after.mode = .armed) :
    before.mode = .armed ∧ (request = .supervise → before.Counts) := by
  rcases outcome.armedAfter armed with ⟨requested, armable⟩ | ⟨armed, served⟩
  · have accepted := SafetySupervisorImpl.arm_accepted.mpr armable
    rw [refused requested] at accepted
    cases accepted
  · exact ⟨armed, fun requested => (served requested).1⟩

/-- Every tick of an unserved run that ends armed counts. -/
theorem unserved_run {state final : SafetySupervisorImpl F σ} {before after : Watched F}
    {events : List (σ × Request F)} (unserved : machine.Along Unserved state events)
    (ran : watchedMachine.run (state, before) events = some (final, after))
    (armed : final.mode = .armed) :
    state.mode = .armed ∧ after.last = before.last ∧
      after.counted = before.counted + events.countP (fun event => event.2 matches .supervise) := by
  induction events generalizing state before with
  | nil =>
      obtain ⟨rfl, rfl⟩ := Prod.mk.inj (Option.some.inj ran)
      exact ⟨armed, rfl, rfl⟩
  | cons event rest ih =>
      obtain ⟨⟨next, seen⟩, both, ran⟩ := run_cons.mp ran
      obtain ⟨stepped, rfl⟩ := observed_step.mp both
      obtain ⟨stillArmed, last, counted⟩ := ih (unserved.2 next stepped) ran
      obtain ⟨peers, request⟩ := event
      obtain ⟨unbalanced, refused⟩ := unserved.1
      obtain ⟨armedBefore, counts⟩ := (machine_outcome stepped).armedBefore refused stillArmed
      refine ⟨armedBefore, ?_⟩
      cases request with
      | balance estimate interval => exact absurd rfl (unbalanced estimate interval)
      | supervise =>
          have counts := counts rfl
          simp only [watch, if_pos counts] at last counted
          simp only [List.countP_cons]
          refine ⟨last, ?_⟩
          rw [counted]
          simp only [if_true]
          omega
      | steer | arm | disarm | clearFault | calibrate =>
          exact ⟨last, by simpa [watch, List.countP_cons] using counted⟩

/-- A tick that reports a stall runs armed and finds the count one short of its limit. -/
theorem Outcome.stallReported {before after : SafetySupervisorImpl F σ}
    (outcome : before.Outcome .supervise after) (formed : before.WellFormed)
    (working : before.mode ≠ .fault) (fault : after.mode = .fault)
    (stalled : after.cause = .loopStalled) :
    before.mode = .armed ∧ before.serviced = false ∧
      before.config.missedServiceLimit ≤ before.missedServices + 1 := by
  cases outcome with
  | stalled armed healthy reached => exact ⟨armed, counted_reached formed.limit reached⟩
  | latched mode => exact absurd mode working
  | _ => simp_all [startCalibration]

/-- A stall that is reported shows in what the last ticks found. -/
theorem Audited.stallReported {before after : SafetySupervisorImpl F σ} {watched : Watched F}
    (audited : before.Audited watched) (outcome : before.Outcome .supervise after)
    (working : before.mode ≠ .fault) (fault : after.mode = .fault)
    (stalled : after.cause = .loopStalled) :
    (watch watched before .supervise).found.take before.config.missedServiceLimit =
      List.replicate before.config.missedServiceLimit (.armed, false) := by
  obtain ⟨armed, unserved, reached⟩ := outcome.stallReported audited.formed working fault stalled
  have unserved : before.serviced ≠ true := Bool.eq_false_iff.mp unserved
  have unbalanced : watched.balanced = false := Bool.eq_false_iff.mpr (mt audited.served unserved)
  change List.take _ ((before.mode, watched.balanced) :: watched.found) = _
  rw [armed, unbalanced]
  exact take_found ((audited.missed armed).resolve_left unserved) reached

/-- A constructed supervisor detects a stalled loop exactly, whatever its peers answer. -/
theorem supervisor_detects_stalls {peers : σ} {config : Config F}
    {start : SafetySupervisorImpl F σ} (constructed : construct peers config = some start) :
    start.DetectsStalls where
  noMissedAlarm state events final reached unserved ran many armed := by
    obtain ⟨before, reached⟩ := watched_reachable reached
    obtain ⟨after, ran⟩ := (observed_run before).mp ran
    have initially := And.intro (construct_audited constructed) (Eq.refl start.config)
    obtain ⟨audited, config⟩ := run_invariant (watched_config_kept start)
      (reached.invariant (watched_config_kept start) initially) ran
    obtain ⟨-, last, counted⟩ := unserved_run unserved ran armed
    have young := audited.young armed
    rw [config] at young
    simp only [Watched.age, last, counted] at young
    cases seen : before.last <;> simp only [seen] at young <;> omega
  noFalseAlarm state watched peers next seen reached stepped working fault stalled := by
    have initially := And.intro (construct_audited constructed) (Eq.refl start.config)
    obtain ⟨audited, config⟩ := reached.invariant (watched_config_kept start) initially
    obtain ⟨moved, rfl⟩ := observed_step.mp stepped
    rw [← config]
    exact (audited.attended peers).stallReported (machine_outcome moved) working fault stalled
  bounded state reached := by
    have formed := reached.invariant wellFormed_kept (construct_wellFormed constructed)
    obtain ⟨config, -⟩ := reached.invariant (config_kept start) ⟨rfl, rfl⟩
    rw [← config]
    exact formed.count

/-- The default configuration starts a supervisor that detects a stalled loop exactly. -/
theorem supervisor_detects_stalls_default :
    ∃ start : SafetySupervisorImpl ℚ (Answers ℚ),
      construct (Answers.healthy 0) Config.default = some start ∧ start.DetectsStalls :=
  ⟨_, rfl, supervisor_detects_stalls
    (rfl : construct (Answers.healthy 0) Config.default = some _)⟩

end SafetySupervisorImpl
end InvertedPendulum.Safety
