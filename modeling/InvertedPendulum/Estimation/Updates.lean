import InvertedPendulum.Estimation.AttitudeEstimation

namespace InvertedPendulum.Estimation
open Sensing

namespace AttitudeEstimationImpl

/-- The control loop updates the estimation, and the firmware selects its filter. -/
inductive Call (F : Type) where
  | update (measurement : Measurement F)
  | select (filter : Filter)

section Calls
variable {F Complementary Kalman : Type} [FloatArithmetic F] [FloatGeometry F]
  [PitchFilter Complementary F] [PitchFilter Kalman F]

def answer (estimation : AttitudeEstimationImpl F Complementary Kalman) :
    Call F → AttitudeEstimationImpl F Complementary Kalman
  | .update measurement => (estimation.update measurement).2
  | .select filter => estimation.select filter

/-- The estimation answers its calls in order. -/
def after (estimation : AttitudeEstimationImpl F Complementary Kalman) (calls : List (Call F)) :
    AttitudeEstimationImpl F Complementary Kalman := calls.foldl answer estimation

@[simp] theorem after_nil (estimation : AttitudeEstimationImpl F Complementary Kalman) :
    estimation.after [] = estimation := rfl

@[simp] theorem after_cons (estimation : AttitudeEstimationImpl F Complementary Kalman)
    (call : Call F) (calls : List (Call F)) :
    estimation.after (call :: calls) = (estimation.answer call).after calls := rfl

theorem after_append (estimation : AttitudeEstimationImpl F Complementary Kalman)
    (front back : List (Call F)) :
    estimation.after (front ++ back) = (estimation.after front).after back := List.foldl_append

theorem after_snoc (estimation : AttitudeEstimationImpl F Complementary Kalman)
    (calls : List (Call F)) (call : Call F) :
    estimation.after (calls ++ [call]) = (estimation.after calls).answer call := by
  rw [after_append]
  rfl

end Calls

section Cases
variable {F Complementary Kalman : Type}
  {estimation : AttitudeEstimationImpl F Complementary Kalman} {measurement : Measurement F}

/-- A valid measurement restarts the filter that stands still, or that it reaches too soon or too
late. -/
def Restarts (estimation : AttitudeEstimationImpl F Complementary Kalman)
    (measurement : Measurement F) : Prop :=
  measurement.valid = true ∧
    (estimation.running = false ∨ measurement.sampledAt - estimation.previousSample ≤ 0 ∨
      estimation.config.maximumInterval < measurement.sampledAt - estimation.previousSample)

/-- A filter that runs fuses a valid measurement within the longest interval. -/
structure Fuses (estimation : AttitudeEstimationImpl F Complementary Kalman)
    (measurement : Measurement F) : Prop where
  valid : measurement.valid = true
  running : estimation.running = true
  later : 0 < measurement.sampledAt - estimation.previousSample
  timely : measurement.sampledAt - estimation.previousSample ≤ estimation.config.maximumInterval

/-- An update stops the filter, restarts it or goes on with it. -/
inductive Updated (estimation : AttitudeEstimationImpl F Complementary Kalman)
    (measurement : Measurement F) (estimate : Estimate F)
    (next : AttitudeEstimationImpl F Complementary Kalman) : Prop where
  | stopped (invalid : measurement.valid = false) (running : next.running = false)
      (cause : estimate.valid = false ∧ estimate.cause = .sensing)
  | restarted (restarts : estimation.Restarts measurement) (running : next.running = true)
      (begun : next.convergenceStarted = measurement.sampledAt)
      (previous : next.previousSample = measurement.sampledAt)
      (cause : estimate.valid = false ∧ estimate.cause = .converging)
  | fused (fuses : estimation.Fuses measurement) (running : next.running = true)
      (begun : next.convergenceStarted = estimation.convergenceStarted)
      (previous : next.previousSample = measurement.sampledAt)
      (valid : estimate.valid = true ↔ estimation.config.convergenceInterval ≤
        measurement.sampledAt - estimation.convergenceStarted)
      (cause : estimate.cause = .none ↔ estimate.valid = true)

/-- A valid measurement restarts the filter or is fused. -/
theorem not_restarts_iff (valid : measurement.valid = true) :
    ¬ estimation.Restarts measurement ↔ estimation.Fuses measurement := by
  unfold Restarts
  rw [not_and, forall_prop_of_true valid, not_or, not_or, not_le, not_lt, Bool.not_eq_false]
  constructor
  · intro given
    obtain ⟨running, later, timely⟩ := given
    exact ⟨valid, running, later, timely⟩
  · intro fuses
    exact ⟨fuses.running, fuses.later, fuses.timely⟩

end Cases

section Updates
variable {F Complementary Kalman : Type} [PitchFilter Complementary F] [PitchFilter Kalman F]
  {estimation : AttitudeEstimationImpl F Complementary Kalman} {measurement : Measurement F}

theorem restartActive_frame (pitch : F) :
    (estimation.restartActive pitch).config = estimation.config := by
  unfold restartActive
  split <;> rfl

/-- The filters leave the configuration and the state of the convergence alone. -/
theorem updateActive_frame (pitchRate pitch trust interval : F) :
    (estimation.updateActive pitchRate pitch trust interval).2.config = estimation.config ∧
      (estimation.updateActive pitchRate pitch trust interval).2.running = estimation.running ∧
      (estimation.updateActive pitchRate pitch trust interval).2.convergenceStarted =
        estimation.convergenceStarted := by
  unfold updateActive
  split <;> exact ⟨rfl, rfl, rfl⟩

variable [FloatArithmetic F] [FloatGeometry F]

/-- An update stores the estimate that it returns. -/
theorem update_latest : (estimation.update measurement).2.latest = (estimation.update measurement).1 := by
  unfold update
  split <;> rfl

theorem update_config : (estimation.update measurement).2.config = estimation.config := by
  unfold update
  split
  · rfl
  · dsimp only
    split
    · exact restartActive_frame _
    · exact (updateActive_frame _ _ _ _).1

/-- An invalid measurement stops the filter. -/
theorem update_stops (invalid : measurement.valid = false) :
    estimation.update measurement =
      (⟨estimation.latest.pitch, 0, false, .sensing⟩,
        { estimation with
          running := false
          latest := ⟨estimation.latest.pitch, 0, false, .sensing⟩ }) := by
  unfold update
  rw [invalid]
  rfl

theorem update_restarts (restarts : estimation.Restarts measurement) :
    estimation.update measurement =
      ((estimation.restart measurement).1,
        { (estimation.restart measurement).2 with
          latest := (estimation.restart measurement).1
          previousSample := measurement.sampledAt }) := by
  obtain ⟨valid, restarts⟩ := restarts
  have taken : (! estimation.running) = true ∨ measurement.sampledAt - estimation.previousSample ≤ 0 ∨
      measurement.sampledAt - estimation.previousSample > estimation.config.maximumInterval := by
    rw [Bool.not_eq_true']
    exact restarts
  unfold update
  simp only [valid, Bool.not_true, Bool.false_eq_true, if_false, if_pos taken]

theorem update_fuses (fuses : estimation.Fuses measurement) :
    let interval := measurement.sampledAt - estimation.previousSample
    estimation.update measurement =
      ((estimation.fuse measurement interval).1,
        { (estimation.fuse measurement interval).2 with
          latest := (estimation.fuse measurement interval).1
          previousSample := measurement.sampledAt }) := by
  have untaken : ¬ ((! estimation.running) = true ∨
      measurement.sampledAt - estimation.previousSample ≤ 0 ∨
      measurement.sampledAt - estimation.previousSample > estimation.config.maximumInterval) := by
    rw [fuses.running]
    have later := fuses.later
    have timely := fuses.timely
    simp only [Bool.not_true, Bool.false_eq_true, false_or, not_or, not_le, not_lt, gt_iff_lt]
    exact ⟨later, timely⟩
  unfold update
  simp only [fuses.valid, Bool.not_true, Bool.false_eq_true, if_false, if_neg untaken]

/-- Each update is one of the three. -/
theorem update_updated (estimation : AttitudeEstimationImpl F Complementary Kalman)
    (measurement : Measurement F) :
    Updated estimation measurement (estimation.update measurement).1
      (estimation.update measurement).2 := by
  cases valid : measurement.valid with
  | false =>
      rw [update_stops valid]
      exact .stopped valid rfl ⟨rfl, rfl⟩
  | true =>
      by_cases restarts : estimation.Restarts measurement
      · rw [update_restarts restarts]
        exact .restarted restarts rfl rfl rfl ⟨rfl, rfl⟩
      · have fuses := (not_restarts_iff valid).mp restarts
        obtain ⟨-, running, begun⟩ := estimation.updateActive_frame
          (pitchRateAboutBodyY measurement.angularRate) (accelerometerPitch measurement.acceleration)
          (accelerometerTrust measurement.acceleration estimation.config.accelerationBand)
          (seconds (measurement.sampledAt - estimation.previousSample))
        rw [update_fuses fuses]
        refine .fused fuses (running.trans fuses.running) begun rfl decide_eq_true_iff ?_
        show (if decide _ then InvalidCause.none else InvalidCause.converging) = .none ↔ _
        split <;> simp_all [fuse]

end Updates
end AttitudeEstimationImpl
end InvertedPendulum.Estimation
