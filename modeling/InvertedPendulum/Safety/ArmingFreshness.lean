import InvertedPendulum.Safety.Liveness

namespace InvertedPendulum.Safety
open Estimation Motion Sensing Control Reactive Machine

namespace SafetySupervisorImpl
variable {F σ : Type} [FloatArithmetic F] [MotionActuation σ F] [SupervisedControl σ F]
  [InertialSensing σ] [Clock σ]

/-- An accepted arm command rests on an estimate that is at most one tick old, valid and upright. -/
def ArmsLive (pair : SafetySupervisorImpl F σ × Watched F) (event : σ × Request F) : Prop :=
  event.2 = .arm → (pair.1.attend event.1).arm.1 = true →
    pair.2.ticks ≤ 1 ∧ ∃ estimate, pair.2.last = some estimate ∧ estimate.valid = true ∧
      fabs estimate.pitch ≤ pair.1.config.armWindow

/-- An arm command meets frozen evidence when two ticks or more have passed since an upright
estimate and at most one of them has counted. -/
def MeetsFrozenEvidence (pair : SafetySupervisorImpl F σ × Watched F) (event : σ × Request F) :
    Prop :=
  event.2 = .arm ∧ pair.1.mode = .idle ∧ (pair.1.attend event.1).driverHealthy = true ∧
    (∃ estimate, pair.2.last = some estimate ∧ estimate.valid = true ∧
      fabs estimate.pitch ≤ pair.1.config.armWindow) ∧
    pair.2.counted ≤ 1 ∧ 2 ≤ pair.2.ticks

omit [InertialSensing σ] [Clock σ] in
/-- An audited arm command is accepted exactly on upright evidence of which one tick has counted. -/
theorem Audited.arm_accepted {supervisor : SafetySupervisorImpl F σ} {watched : Watched F}
    (audited : supervisor.Audited watched) (peers : σ) :
    (supervisor.attend peers).arm.1 = true ↔
      supervisor.mode = .idle ∧ (supervisor.attend peers).driverHealthy = true ∧
        (∃ estimate, watched.last = some estimate ∧ estimate.valid = true ∧
          fabs estimate.pitch ≤ supervisor.config.armWindow) ∧ watched.counted ≤ 1 := by
  have positive := audited.formed.limit
  have recent := audited.tracks.fresh_iff positive
  have latest := audited.latest
  rw [SafetySupervisorImpl.arm_accepted]
  constructor
  · intro given
    obtain ⟨idle, valid, upright, serviced, healthy⟩ := given
    have young := recent.mp serviced
    cases last : watched.last with
    | none =>
        simp only [Watched.age, last] at young
        omega
    | some estimate =>
        simp only [Watched.age, last] at young
        simp only [last, Option.getD_some] at latest
        refine ⟨idle, healthy, ⟨estimate, rfl, ?_, ?_⟩, young⟩
        · rw [← latest]
          exact valid
        · rw [← latest]
          exact of_decide_eq_true upright
  · intro given
    obtain ⟨idle, healthy, ⟨estimate, last, valid, upright⟩, young⟩ := given
    simp only [last, Option.getD_some] at latest
    refine ⟨idle, ?_, ?_, ?_, healthy⟩
    · rw [attend_latest, latest]
      exact valid
    · unfold SafetySupervisorImpl.upright
      rw [attend_latest, latest]
      exact decide_eq_true upright
    · apply recent.mpr
      simpa only [Watched.age, last] using young

/-- Every accepted arm command of a run rests on a live loop exactly when none of them meets frozen
evidence. -/
theorem arming_is_live_iff_evidence_not_frozen {peers : σ} {config : Config F}
    {start : SafetySupervisorImpl F σ} (constructed : construct peers config = some start)
    (events : List (σ × Request F)) :
    watchedMachine.Along ArmsLive (start, .nothing) events ↔
      watchedMachine.Along (fun pair event => ¬ MeetsFrozenEvidence pair event)
        (start, .nothing) events := by
  refine along_congr (fun pair => pair.1.Audited pair.2) ?_ ?_ (construct_audited constructed) events
  · intro pair event next audited _ stepped
    exact audited_kept pair event next audited stepped
  intro pair event audited
  have accepted := audited.arm_accepted event.1
  constructor
  · rintro live ⟨requested, idle, healthy, upright, young, old⟩
    obtain ⟨recent, -⟩ := live requested (accepted.mpr ⟨idle, healthy, upright, young⟩)
    omega
  · intro current requested armed
    obtain ⟨idle, healthy, upright, young⟩ := accepted.mp armed
    refine ⟨?_, upright⟩
    by_contra old
    exact current ⟨requested, idle, healthy, upright, young, by omega⟩

/-- The loop delivers one upright estimate, the driver faults, and no iteration comes again. -/
def stalledLoop : List (Answers ℚ × Request ℚ) :=
  let healthy := Answers.healthy 0
  [(healthy, .supervise), (healthy, .supervise),
    (healthy, .balance ⟨0, 0, true, .none⟩ (milliseconds 2)),
    ({ healthy with driverFault := .driverFault }, .supervise),
    (healthy, .supervise), (healthy, .supervise), (healthy, .supervise), (healthy, .supervise),
    (healthy, .clearFault)]

/-- The stalled loop ends in this state, with its estimate five ticks old. -/
def afterStalledLoop : SafetySupervisorImpl ℚ (Answers ℚ) × Watched ℚ :=
  ({ peers := .healthy 0
     config := Config.default
     mode := .idle
     cause := .none
     latest := ⟨0, 0, true, .none⟩
     serviced := true
     missedServices := 3
     started := 0
     calls := [(.fault, .clearFault)] },
    { last := some ⟨0, 0, true, .none⟩
      ticks := 5
      counted := 0
      found := [(.fault, false), (.fault, false), (.fault, false), (.fault, false), (.idle, true),
        (.calibrating, false), (.init, false)] })

/-- The supervisor arms on an estimate that is five ticks old. -/
theorem arming_is_not_live :
    ∃ start : SafetySupervisorImpl ℚ (Answers ℚ),
      construct (Answers.healthy 0) Config.default = some start ∧
        ¬ watchedMachine.Along ArmsLive (start, .nothing)
          (stalledLoop ++ [(Answers.healthy 0, .arm)]) := by
  refine ⟨_, rfl, ?_⟩
  intro along
  have accepted : (afterStalledLoop.1.attend (Answers.healthy 0)).arm.1 = true := by
    decide +kernel
  have live := along_iff_prefix.mp along stalledLoop _ [] rfl afterStalledLoop rfl rfl accepted
  exact absurd live.1 (by decide)

/-- Both sides of the condition agree on the stalled loop, where each of them fails. -/
theorem arming_is_live_iff_evidence_not_frozen_stalled :
    ∃ start : SafetySupervisorImpl ℚ (Answers ℚ),
      construct (Answers.healthy 0) Config.default = some start ∧
        (watchedMachine.Along ArmsLive (start, .nothing)
            (stalledLoop ++ [(Answers.healthy 0, .arm)]) ↔
          watchedMachine.Along (fun pair event => ¬ MeetsFrozenEvidence pair event)
            (start, .nothing) (stalledLoop ++ [(Answers.healthy 0, .arm)])) :=
  ⟨_, rfl, arming_is_live_iff_evidence_not_frozen
    (rfl : construct (Answers.healthy 0) Config.default = some _) _⟩

end SafetySupervisorImpl
end InvertedPendulum.Safety
