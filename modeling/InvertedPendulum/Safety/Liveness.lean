import InvertedPendulum.Safety.ModeMachine

namespace InvertedPendulum.Safety
open Estimation Motion Sensing Control Reactive Machine

/-- An observer notes the estimate delivered last, the ticks since then and what each tick found. -/
structure Watched (F : Type) where
  last : Option (Estimate F)
  ticks : Nat
  counted : Nat
  found : List (Mode × Bool)

namespace Watched
variable {F : Type}

/-- Nothing has been delivered before the first operation. -/
def nothing : Watched F := ⟨none, 0, 0, []⟩

/-- A balance iteration came after the preceding tick. -/
def balanced (watched : Watched F) : Bool := watched.last.isSome && watched.ticks == 0

/-- Before the first delivery the age exceeds the limit. -/
def age (watched : Watched F) (limit : Nat) : Nat :=
  match watched.last with
  | none => limit + 1 + watched.counted
  | some _ => watched.counted

end Watched

namespace SafetySupervisorImpl
variable {F σ : Type}

instance (supervisor : SafetySupervisorImpl F σ) : Decidable supervisor.Live :=
  inferInstanceAs (Decidable (_ ∨ _))

variable [FloatArithmetic F] [MotionActuation σ F] [SupervisedControl σ F]
  [InertialSensing σ] [Clock σ]

/-- A tick runs the liveness count in the two live modes, unless the driver has faulted. -/
def Counts (supervisor : SafetySupervisorImpl F σ) : Prop :=
  supervisor.Live ∧ MotionActuation.fault supervisor.peers = .none

instance (supervisor : SafetySupervisorImpl F σ) : Decidable supervisor.Counts :=
  inferInstanceAs (Decidable (_ ∧ _))

/-- The observer sees the request and the state that it meets. -/
def watch (watched : Watched F) (supervisor : SafetySupervisorImpl F σ) :
    Request F → Watched F
  | .balance estimate _ => { watched with last := some estimate, ticks := 0, counted := 0 }
  | .supervise =>
      { watched with
        ticks := watched.ticks + 1
        counted := if supervisor.Counts then watched.counted + 1 else watched.counted
        found := (supervisor.mode, watched.balanced) :: watched.found }
  | _ => watched

/-- The watched machine is the supervisor with its observer. -/
def watchedMachine : Machine (SafetySupervisorImpl F σ × Watched F) (σ × Request F) :=
  machine.observed fun watched supervisor event _ =>
    watch watched (supervisor.attend event.1) event.2

omit [FloatArithmetic F] [InertialSensing σ] [Clock σ] in
@[simp] theorem enterFault_watchdog (supervisor : SafetySupervisorImpl F σ)
    (faultCause : FaultCause) :
    (supervisor.enterFault faultCause).watchdog = supervisor.watchdog := by
  simp [SafetySupervisorImpl.watchdog]

omit [FloatArithmetic F] [SupervisedControl σ F] [InertialSensing σ] [Clock σ] in
/-- No tick counts in the self-test, during a calibration or in a fault. -/
theorem not_counts {supervisor : SafetySupervisorImpl F σ} (idle : supervisor.mode ≠ .idle)
    (armed : supervisor.mode ≠ .armed) : ¬ supervisor.Counts := by
  intro given
  obtain ⟨live, -⟩ := given
  exact live.elim idle armed

/-- Only a counted tick and a balance iteration touch the watchdog. -/
theorem Outcome.watchdog {before after : SafetySupervisorImpl F σ} {request : Request F}
    (outcome : before.Outcome request after) :
    after.watchdog = match request with
      | .balance _ _ => before.watchdog.kick
      | .supervise =>
          if before.Counts then before.watchdog.tick before.config.missedServiceLimit
          else before.watchdog
      | _ => before.watchdog := by
  cases outcome with
  | counted live healthy =>
      change before.counted.watchdog = if before.Counts then _ else _
      rw [if_pos ⟨live, healthy⟩, counted_watchdog]
  | stalled armed healthy =>
      change (before.counted.enterFault .loopStalled).watchdog = if before.Counts then _ else _
      rw [if_pos ⟨.inr armed, healthy⟩, enterFault_watchdog, counted_watchdog]
  | polled live faulted =>
      change (before.enterFault .driverFault).watchdog = if before.Counts then _ else _
      rw [if_neg fun counts => faulted counts.2, enterFault_watchdog]
  | selfTestOverdue mode | calibrationFailed mode =>
      have uncounted : ¬ before.Counts := not_counts (by simp [mode]) (by simp [mode])
      simp only [uncounted, if_false, enterFault_watchdog]
  | selfTestPassed mode | selfTestPending mode | calibrated mode | calibrationPending mode
  | latched mode =>
      have uncounted : ¬ before.Counts := not_counts (by simp [mode]) (by simp [mode])
      exact (if_neg uncounted).symm
  | invalid | fell | failed => simp only [enterFault_watchdog, fed_watchdog]
  | _ => rfl

/-- Only a balance iteration replaces the stored estimate. -/
theorem Outcome.latest {before after : SafetySupervisorImpl F σ} {request : Request F}
    (outcome : before.Outcome request after) :
    after.latest = match request with
      | .balance estimate _ => estimate
      | _ => before.latest := by
  cases outcome <;> simp [startCalibration]

/-- A supervisor that ends armed accepted an arm command or stayed armed. -/
theorem Outcome.armedAfter {before after : SafetySupervisorImpl F σ} {request : Request F}
    (outcome : before.Outcome request after) (armed : after.mode = .armed) :
    request = .arm ∧ before.Armable ∨
      before.mode = .armed ∧ (request = .supervise → before.Counts ∧
        after.missedServices < before.config.missedServiceLimit) := by
  cases outcome with
  | armed armable => exact .inl ⟨rfl, armable⟩
  | counted live healthy unstalled =>
      right
      exact ⟨armed, fun _ => ⟨⟨live, healthy⟩, unstalled armed⟩⟩
  | selfTestPending mode | calibrationPending mode | latched mode =>
      rw [mode] at armed
      cases armed
  | _ => simp_all [startCalibration]

/-- The supervisor agrees with what its observer has seen. -/
structure Audited (supervisor : SafetySupervisorImpl F σ) (watched : Watched F) : Prop where
  formed : supervisor.WellFormed
  tracks : Watchdog.Tracks supervisor.config.missedServiceLimit supervisor.watchdog
    (watched.age supervisor.config.missedServiceLimit)
  latest : supervisor.latest = watched.last.getD AttitudeEstimationImpl.noEstimate
  young : supervisor.mode = .armed →
    watched.age supervisor.config.missedServiceLimit ≤ supervisor.config.missedServiceLimit
  served : watched.balanced = true → supervisor.serviced = true
  missed : supervisor.mode = .armed → supervisor.serviced = true ∨
    watched.found.take supervisor.missedServices =
      List.replicate supervisor.missedServices (.armed, false)

omit [MotionActuation σ F] [SupervisedControl σ F] [InertialSensing σ] in
/-- The observer of a constructed supervisor has seen nothing. -/
theorem construct_audited {peers : σ} {config : Config F} {start : SafetySupervisorImpl F σ}
    (constructed : construct peers config = some start) : start.Audited .nothing := by
  have formed := construct_wellFormed constructed
  unfold construct at constructed
  split at constructed
  · obtain rfl := Option.some.inj constructed
    exact {
      formed
      tracks := Watchdog.tracks_unkicked config.missedServiceLimit
      latest := rfl
      young := by simp
      served := by simp [Watched.balanced, Watched.nothing]
      missed := by simp }
  · cases constructed

/-- A longer or equal record of one finding extends a record of that finding. -/
theorem take_found {Found : Type} {found : List Found} {finding : Found} {missed now : Nat}
    (before : found.take missed = List.replicate missed finding) (within : now ≤ missed + 1) :
    (finding :: found).take now = List.replicate now finding := by
  have longest : (finding :: found).take (missed + 1) = List.replicate (missed + 1) finding := by
    rw [List.take_succ_cons, before, List.replicate_succ]
  have shorter := congrArg (List.take now) longest
  rwa [List.take_take, List.take_replicate, min_eq_left within] at shorter

section Steps
variable {before after : SafetySupervisorImpl F σ} {watched : Watched F}

omit [InertialSensing σ] [SupervisedControl σ F] [Clock σ] in
/-- An operation that leaves the watchdog and the estimate alone keeps the agreement. -/
theorem Audited.retained (audited : before.Audited watched) (formed : after.WellFormed)
    (config : after.config = before.config) (watchdog : after.watchdog = before.watchdog)
    (latest : after.latest = before.latest)
    (armed : after.mode = .armed → before.mode = .armed ∨ before.Armable) :
    after.Audited watched := by
  have serviced : after.serviced = before.serviced := congrArg Watchdog.kicked watchdog
  have missed : after.missedServices = before.missedServices := congrArg Watchdog.missed watchdog
  refine ⟨formed, ?_, latest.trans audited.latest, ?_, ?_, ?_⟩
  · rw [config, watchdog]
    exact audited.tracks
  · intro engaged
    rw [config]
    rcases armed engaged with armed | armable
    · exact audited.young armed
    · have fresh : before.watchdog.fresh = true := armable.serviced
      have recent := (audited.tracks.fresh_iff audited.formed.limit).mp fresh
      have positive := audited.formed.limit
      omega
  · rw [serviced]
    exact audited.served
  · intro engaged
    rw [serviced, missed]
    rcases armed engaged with armed | armable
    · exact audited.missed armed
    · have fresh : (before.serviced || before.missedServices == 0) = true := armable.serviced
      rcases Bool.or_eq_true_iff.mp fresh with kicked | none
      · exact .inl kicked
      · right
        rw [beq_iff_eq.mp none, List.take_zero, List.replicate_zero]

omit [InertialSensing σ] [SupervisedControl σ F] [MotionActuation σ F] [Clock σ] in
/-- A balance iteration makes everything recent. -/
theorem Audited.kicked (formed : after.WellFormed) {estimate : Estimate F}
    (watchdog : after.watchdog = before.watchdog.kick) (latest : after.latest = estimate) :
    after.Audited { watched with last := some estimate, ticks := 0, counted := 0 } where
  formed := formed
  tracks := by
    rw [watchdog]
    exact Watchdog.tracks_kick _ _
  latest := latest
  young _ := Nat.zero_le _
  served _ := congrArg Watchdog.kicked watchdog
  missed _ := .inl (congrArg Watchdog.kicked watchdog)

omit [InertialSensing σ] [SupervisedControl σ F] [MotionActuation σ F] [Clock σ] in
/-- A counted tick makes everything one tick older. -/
theorem Audited.ticked (audited : before.Audited watched) (formed : after.WellFormed)
    (config : after.config = before.config)
    (watchdog : after.watchdog = before.watchdog.tick before.config.missedServiceLimit)
    (latest : after.latest = before.latest)
    (armed : after.mode = .armed →
      before.mode = .armed ∧ after.missedServices < before.config.missedServiceLimit) :
    after.Audited { watched with
      ticks := watched.ticks + 1
      counted := watched.counted + 1
      found := (before.mode, watched.balanced) :: watched.found } := by
  let older : Watched F := { watched with
    ticks := watched.ticks + 1
    counted := watched.counted + 1
    found := (before.mode, watched.balanced) :: watched.found }
  have aged : older.age before.config.missedServiceLimit =
      watched.age before.config.missedServiceLimit + 1 := by
    unfold Watched.age
    cases watched.last <;> rfl
  have tracks := audited.tracks.tick
  rw [← watchdog, ← aged, ← config] at tracks
  refine ⟨formed, tracks, latest.trans audited.latest, ?_, ?_, ?_⟩
  · intro engaged
    obtain ⟨-, under⟩ := armed engaged
    rw [config, aged] at tracks ⊢
    exact tracks.missed_lt_iff.mp under
  · simp [Watched.balanced]
  · intro engaged
    obtain ⟨engagedBefore, -⟩ := armed engaged
    have missed : after.missedServices =
        (before.watchdog.tick before.config.missedServiceLimit).missed :=
      congrArg Watchdog.missed watchdog
    right
    by_cases kicked : before.serviced = true
    · have cleared : after.missedServices = 0 := by
        rw [missed]
        simp [SafetySupervisorImpl.watchdog, Watchdog.tick, kicked]
      rw [cleared, List.take_zero, List.replicate_zero]
    · have stalled := (audited.missed engagedBefore).resolve_left kicked
      have unbalanced : watched.balanced = false := Bool.eq_false_iff.mpr (mt audited.served kicked)
      rw [missed, engagedBefore, unbalanced]
      exact take_found stalled Watchdog.tick_missed_le_succ

omit [InertialSensing σ] [SupervisedControl σ F] [MotionActuation σ F] [Clock σ] in
/-- An uncounted tick ends disarmed and leaves the watchdog alone. -/
theorem Audited.uncounted (audited : before.Audited watched) (formed : after.WellFormed)
    (config : after.config = before.config) (watchdog : after.watchdog = before.watchdog)
    (latest : after.latest = before.latest) (disarmed : after.mode ≠ .armed) :
    after.Audited { watched with
      ticks := watched.ticks + 1
      found := (before.mode, watched.balanced) :: watched.found } where
  formed := formed
  tracks := by
    rw [config, watchdog]
    exact audited.tracks
  latest := latest.trans audited.latest
  young armed := absurd armed disarmed
  served := by simp [Watched.balanced]
  missed armed := absurd armed disarmed

/-- Every row of the table keeps the agreement. -/
theorem Outcome.audited {request : Request F} (outcome : before.Outcome request after)
    (audited : before.Audited watched) : after.Audited (watch watched before request) := by
  have formed := outcome.wellFormed audited.formed
  have config := outcome.config.1
  have watchdog := outcome.watchdog
  have latest := outcome.latest
  have armed : after.mode = .armed → before.mode = .armed ∨ before.Armable := by
    intro engaged
    rcases outcome.armedAfter engaged with ⟨-, armable⟩ | ⟨armed, -⟩
    · exact .inr armable
    · exact .inl armed
  cases request with
  | balance estimate interval => exact .kicked formed watchdog latest
  | supervise =>
      have armed : after.mode = .armed → before.mode = .armed ∧ before.Counts ∧
          after.missedServices < before.config.missedServiceLimit := by
        intro engaged
        rcases outcome.armedAfter engaged with ⟨requested, -⟩ | ⟨armed, served⟩
        · cases requested
        · exact ⟨armed, served rfl⟩
      by_cases counts : before.Counts
      · simp only [watch, if_pos counts] at watchdog ⊢
        exact audited.ticked formed config watchdog latest fun engaged =>
          ⟨(armed engaged).1, (armed engaged).2.2⟩
      · simp only [watch, if_neg counts] at watchdog ⊢
        exact audited.uncounted formed config watchdog latest fun engaged =>
          counts (armed engaged).2.1
  | steer | arm | disarm | clearFault | calibrate =>
      exact audited.retained formed config watchdog latest armed

end Steps

omit [SupervisedControl σ F] [MotionActuation σ F] [InertialSensing σ] [Clock σ] in
/-- The agreement does not depend on the peers. -/
theorem Audited.attended {supervisor : SafetySupervisorImpl F σ} {watched : Watched F}
    (audited : supervisor.Audited watched) (peers : σ) : (supervisor.attend peers).Audited watched :=
  ⟨audited.formed.attended peers, audited.tracks, audited.latest, audited.young, audited.served,
    audited.missed⟩

/-- A step of the watched machine keeps the agreement. -/
theorem audited_kept (pair : SafetySupervisorImpl F σ × Watched F) (event : σ × Request F)
    (next : SafetySupervisorImpl F σ × Watched F) (audited : pair.1.Audited pair.2)
    (stepped : watchedMachine.step pair event = some next) : next.1.Audited next.2 := by
  obtain ⟨stepped, seen⟩ := observed_step.mp stepped
  rw [seen]
  exact (machine_outcome stepped).audited (audited.attended event.1)

/-- Every reachable supervisor is reachable together with what its observer has seen. -/
theorem watched_reachable {start state : SafetySupervisorImpl F σ}
    (reached : machine.Reachable start state) :
    ∃ watched, watchedMachine.Reachable (start, .nothing) (state, watched) := by
  obtain ⟨events, ran⟩ := reached
  obtain ⟨watched, ran⟩ := (observed_run Watched.nothing).mp ran
  exact ⟨watched, events, ran⟩

/-- The configuration is that of the start in every watched state too. -/
theorem watched_config_kept (start : SafetySupervisorImpl F σ)
    (pair : SafetySupervisorImpl F σ × Watched F) (event : σ × Request F)
    (next : SafetySupervisorImpl F σ × Watched F)
    (holds : pair.1.Audited pair.2 ∧ pair.1.config = start.config)
    (stepped : watchedMachine.step pair event = some next) :
    next.1.Audited next.2 ∧ next.1.config = start.config := by
  refine ⟨audited_kept pair event next holds.1 stepped, ?_⟩
  exact (machine_outcome (observed_step.mp stepped).1).config.1.trans holds.2

end SafetySupervisorImpl
end InvertedPendulum.Safety
