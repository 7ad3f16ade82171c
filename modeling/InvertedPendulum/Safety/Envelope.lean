import InvertedPendulum.Arithmetic.Extended
import InvertedPendulum.Safety.Operation

namespace InvertedPendulum.Safety
open Estimation Motion Sensing Control Reactive Machine

namespace SafetySupervisorImpl
variable {F σ : Type} [FloatArithmetic F] [MotionActuation σ F] [SupervisedControl σ F]
  [InertialSensing σ] [Clock σ]

/-- An estimate is recoverable when it is valid and its pitch lies between the two thresholds. -/
def Recoverable (config : Config F) (estimate : Estimate F) : Prop :=
  estimate.valid = true ∧ -config.fallThreshold ≤ estimate.pitch ∧
    estimate.pitch ≤ config.fallThreshold

/-- A balance iteration that stays armed was given a recoverable estimate, and control is given a
recoverable estimate or none. -/
def StaysWithin (supervisor : SafetySupervisorImpl F σ) (event : σ × Request F) : Prop :=
  ∀ next, machine.step supervisor event = some next →
    (∀ estimate interval, event.2 = .balance estimate interval → next.mode = .armed →
      Recoverable supervisor.config estimate) ∧
    ∀ mode estimate interval, (mode, Call.balance estimate interval) ∈ next.calls →
      event.2 = .balance estimate interval ∧ Recoverable supervisor.config estimate

/-- An armed balance iteration without a driver fault meets an unordered pitch. -/
def MeetsUnordered (supervisor : SafetySupervisorImpl F σ) (event : σ × Request F) : Prop :=
  supervisor.mode = .armed ∧ MotionActuation.fault event.1 = .none ∧
    ∃ estimate interval, event.2 = .balance estimate interval ∧ estimate.valid = true ∧
      Unordered (fabs estimate.pitch) supervisor.config.fallThreshold

/-- A balance iteration that stays armed hands its estimate to control. -/
theorem Outcome.balanced_iff {before after : SafetySupervisorImpl F σ} {estimate : Estimate F}
    {interval : Duration} (outcome : before.Outcome (.balance estimate interval) after) :
    after.mode = .armed ↔ before.mode = .armed ∧ estimate.valid = true ∧
      ¬ before.config.fallThreshold < fabs estimate.pitch ∧
      MotionActuation.fault before.peers = .none := by
  cases outcome <;> simp_all

omit [FloatArithmetic F] [InertialSensing σ] [Clock σ] in
/-- Entering a fault does not balance. -/
@[simp] theorem enterFault_called (supervisor : SafetySupervisorImpl F σ) (faultCause : FaultCause)
    (mode : Mode) (estimate : Estimate F) (interval : Duration) :
    (mode, Call.balance estimate interval) ∈ (supervisor.enterFault faultCause).calls ↔
      (mode, Call.balance estimate interval) ∈ supervisor.calls := by
  rw [enterFault_eq]
  by_cases armed : supervisor.mode = .armed <;> simp [armed]

/-- Control is called from a balance iteration that stays armed, with its own estimate. -/
theorem Outcome.balance_called {before after : SafetySupervisorImpl F σ} {request : Request F}
    (outcome : before.Outcome request after) (quiet : before.calls = []) {mode : Mode}
    {estimate : Estimate F} {interval : Duration}
    (called : (mode, Call.balance estimate interval) ∈ after.calls) :
    request = .balance estimate interval ∧ after.mode = .armed := by
  cases outcome <;> simp_all [leaveArmed_eq, startCalibration]

/-- An ordered magnitude that does not exceed the threshold lies between the thresholds. -/
theorem recoverable_iff [IeeeOrder F] {config : Config F} {estimate : Estimate F} :
    Recoverable config estimate ↔
      estimate.valid = true ∧ fabs estimate.pitch ≤ config.fallThreshold := by
  unfold Recoverable
  rw [fabs_le_iff]

/-- A step stays within the envelope exactly when it meets no unordered pitch. -/
theorem staysWithin_iff [IeeeOrder F] (supervisor : SafetySupervisorImpl F σ)
    (event : σ × Request F) : StaysWithin supervisor event ↔ ¬ MeetsUnordered supervisor event := by
  obtain ⟨peers, request⟩ := event
  constructor
  · rintro within ⟨armed, healthy, estimate, interval, rfl, valid, unordered⟩
    have balanced := balance_outcome (supervisor.attend peers) estimate interval
    have still := balanced.balanced_iff.mpr ⟨armed, valid, unordered.2, healthy⟩
    obtain ⟨-, below⟩ := recoverable_iff.mp ((within _ rfl).1 estimate interval rfl still)
    exact unordered.1 below
  · intro ordered next stepped
    have outcome := machine_outcome stepped
    have delivered : ∀ estimate interval, request = .balance estimate interval →
        next.mode = .armed → Recoverable supervisor.config estimate := by
      rintro estimate interval rfl still
      obtain ⟨armed, valid, unfallen, healthy⟩ := outcome.balanced_iff.mp still
      refine recoverable_iff.mpr ⟨valid, ?_⟩
      by_contra above
      exact ordered ⟨armed, healthy, estimate, interval, rfl, valid, above, unfallen⟩
    refine ⟨delivered, ?_⟩
    intro mode estimate interval called
    obtain ⟨requested, still⟩ := outcome.balance_called rfl called
    exact ⟨requested, delivered estimate interval requested still⟩

/-- Every iteration of a run stays within the envelope exactly when none meets an unordered pitch. -/
theorem envelope_kept_iff_ordered [IeeeOrder F] (start : SafetySupervisorImpl F σ)
    (events : List (σ × Request F)) :
    machine.Along StaysWithin start events ↔
      machine.Along (fun supervisor event => ¬ MeetsUnordered supervisor event) start events :=
  along_congr (fun _ => True) (fun _ _ _ _ _ _ => trivial)
    (fun supervisor event _ => staysWithin_iff supervisor event) trivial events

/-- These operations bring a fresh supervisor to armed on an upright estimate. -/
def armingSequence : List (Answers Extended × Request Extended) :=
  let healthy := Answers.healthy 0
  [(healthy, .supervise), (healthy, .supervise),
    (healthy, .balance ⟨0, 0, true, .none⟩ (milliseconds 2)), (healthy, .arm)]

/-- A valid estimate may carry a pitch that is not a number. -/
def unorderedIteration : Answers Extended × Request Extended :=
  (.healthy 0, .balance ⟨.notANumber, 0, true, .none⟩ (milliseconds 2))

/-- The arming sequence ends in this state. -/
def afterArming : SafetySupervisorImpl Extended (Answers Extended) where
  peers := .healthy 0
  config := Config.default
  mode := .armed
  cause := .none
  latest := ⟨0, 0, true, .none⟩
  serviced := true
  missedServices := 3
  started := 0
  calls := [(.idle, .engage)]

/-- The supervisor stays armed on a pitch that is not a number. -/
theorem envelope_left :
    ∃ start : SafetySupervisorImpl Extended (Answers Extended),
      construct (Answers.healthy 0) Config.default = some start ∧
        ¬ machine.Along StaysWithin start (armingSequence ++ [unorderedIteration]) := by
  refine ⟨_, rfl, ?_⟩
  intro along
  have within := along_iff_prefix.mp along armingSequence unorderedIteration [] rfl afterArming
    (by decide +kernel)
  exact (staysWithin_iff _ _).mp within ⟨rfl, rfl, _, _, rfl, rfl, by decide +kernel⟩

/-- The condition separates the two on this sequence, whose last iteration meets the pitch. -/
theorem envelope_kept_iff_ordered_extended :
    machine.Along StaysWithin afterArming [unorderedIteration] ↔
      machine.Along (fun supervisor event => ¬ MeetsUnordered supervisor event) afterArming
        [unorderedIteration] :=
  envelope_kept_iff_ordered afterArming [unorderedIteration]

end SafetySupervisorImpl
end InvertedPendulum.Safety
