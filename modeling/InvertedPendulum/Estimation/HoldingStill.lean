import InvertedPendulum.Estimation.LeastSquaresPitch
import InvertedPendulum.Estimation.Updates

namespace InvertedPendulum.Estimation
open Averaging Matrix Sensing

/-- A filter holds a pitch when a restart levels it, and it stays level while the rate is zero and the
accelerometer agrees. -/
structure HoldsPitch (σ F : Type) [Field F] [LinearOrder F] [PitchFilter σ F] where
  proper : σ → Prop
  level : σ → F → Prop
  restart_proper {filter : σ} (pitch : F) : proper filter → proper (PitchFilter.restart filter pitch)
  update_proper {filter : σ} (rate pitch trust interval : F) :
    proper filter → proper (PitchFilter.update filter rate pitch trust interval).2
  restarted {filter : σ} (pitch : F) : proper filter → level (PitchFilter.restart filter pitch) pitch
  updated {filter : σ} {pitch interval : F} (trust : F) :
    proper filter → level filter pitch → 0 < interval →
      (PitchFilter.update filter 0 pitch trust interval).1 = pitch ∧
        level (PitchFilter.update filter 0 pitch trust interval).2 pitch

section Filters
variable {C K F : Type} [Field F] [LinearOrder F]

/-- The complementary filter is level at its state, and proper with a crossover. -/
def ComplementaryPitchFilter.holdsPitch [IsStrictOrderedRing F] [ComplementaryFilter C F]
    {alpha state : C → F} (documented : BlendsAsDocumented alpha state) :
    HoldsPitch (ComplementaryPitchFilter C F) F where
  proper filter := 0 < filter.crossoverSeconds
  level filter pitch := state filter.filter = pitch
  restart_proper _ := id
  update_proper _ _ _ _ := id
  restarted pitch _ := documented.reset _ pitch
  updated := by
    intro filter pitch interval trust positive level elapsed
    have spans : 0 < (⟨0, pitch, trust, interval⟩ : Reading F).intervalSeconds := elapsed
    obtain ⟨value, kept, -⟩ := read_blends documented positive spans
    have held : blended filter.crossoverSeconds (state filter.filter) ⟨0, pitch, trust, interval⟩ =
        pitch := by
      unfold blended blend
      rw [level]
      ring
    rw [held] at value
    exact ⟨value, kept.trans value⟩

/-- The view of a Kalman filter is level when it believes in the pitch and in no bias. -/
structure LevelView (filter : DocumentedKalmanFilter F) (pitch : F) : Prop where
  state : filter.state = ![pitch, 0]
  measurement : filter.measurement = ![1, 0]

omit [LinearOrder F] in
/-- A level view stays level without a rate. -/
theorem LevelView.predicted {filter : DocumentedKalmanFilter F} {pitch : F}
    (level : LevelView filter pitch) (interval : F) (input : Fin 2 → F)
    (noise : Matrix (Fin 2) (Fin 2) F) :
    LevelView ({ filter with
      stateTransition := KalmanFilter.matrix ((1, -interval), (0, 1))
      controlInput := input
      processNoise := noise }.predict 0) pitch := by
  refine ⟨?_, level.measurement⟩
  change KalmanFilter.matrix ((1, -interval), (0, 1)) *ᵥ filter.state + (0 : F) • input = _
  rw [level.state, zero_smul, add_zero]
  funext index
  fin_cases index <;> simp [KalmanFilter.matrix, mulVec, dotProduct, Fin.sum_univ_two]

omit [LinearOrder F] in
/-- A measurement that agrees leaves a level view level. -/
theorem LevelView.measured {filter : DocumentedKalmanFilter F} {pitch : F}
    (level : LevelView filter pitch) : LevelView (filter.update pitch) pitch := by
  refine ⟨?_, level.measurement⟩
  have seen : filter.measurement ⬝ᵥ filter.state = pitch := by
    rw [level.measurement, level.state]
    simp [dotProduct, Fin.sum_univ_two]
  change filter.state + (pitch - filter.measurement ⬝ᵥ filter.state) • filter.gain = _
  rw [seen, sub_self, zero_smul, add_zero]
  exact level.state

/-- The Kalman filter is level where its view is. -/
def KalmanPitchFilter.holdsPitch [KalmanFilter K F] {view : K → DocumentedKalmanFilter F}
    (documented : FiltersAsDocumented view) : HoldsPitch (KalmanPitchFilter K F) F where
  proper _ := True
  level filter pitch := LevelView (view filter.filter) pitch
  restart_proper _ := id
  update_proper _ _ _ _ := id
  restarted := by
    intro filter pitch _
    have measures := documented.setMeasurementMatrix (KalmanFilter.construct (pitch, 0)
      ((filter.config.initialPitchVariance, 0), (0, filter.config.initialBiasVariance))) (1, 0)
    change LevelView (view (KalmanFilter.setMeasurementMatrix _ _)) pitch
    rw [measures]
    exact ⟨(documented.construct _ _).1, rfl⟩
  updated := by
    intro filter pitch interval trust _ level _
    have predicted : LevelView (view (filter.predict 0 interval).filter) pitch := by
      change LevelView (view (KalmanFilter.predict _ _)) pitch
      rw [documented.predict, documented.setProcessNoise, documented.setControlInputMatrix,
        documented.setStateTransition]
      exact level.predicted _ _ _
    have corrected : LevelView (view ((filter.predict 0 interval).correct pitch trust).filter)
        pitch := by
      change LevelView (view (KalmanFilter.update _ _)) pitch
      rw [documented.update, documented.setMeasurementNoise]
      exact LevelView.measured ⟨predicted.state, predicted.measurement⟩
    have after : LevelView (view (filter.update 0 pitch trust interval).2.filter) pitch := by
      unfold KalmanPitchFilter.update
      dsimp only
      split
      · exact corrected
      · exact predicted
    refine ⟨?_, after⟩
    change (KalmanFilter.getState (filter.update 0 pitch trust interval).2.filter).1 = pitch
    rw [documented.getState, after.state]
    rfl

end Filters

namespace AttitudeEstimationImpl
variable {F C K : Type} [Field F] [LinearOrder F] [PitchFilter C F] [PitchFilter K F]
  {complementary : HoldsPitch C F} {kalman : HoldsPitch K F}
  {estimation : AttitudeEstimationImpl F C K} {pitch : F}

def Proper (complementary : HoldsPitch C F) (kalman : HoldsPitch K F)
    (estimation : AttitudeEstimationImpl F C K) : Prop :=
  complementary.proper estimation.complementary ∧ kalman.proper estimation.kalman

/-- The selected filter is level. -/
def Level (complementary : HoldsPitch C F) (kalman : HoldsPitch K F)
    (estimation : AttitudeEstimationImpl F C K) (pitch : F) : Prop :=
  match estimation.selected with
  | .kalman => kalman.level estimation.kalman pitch
  | .complementary => complementary.level estimation.complementary pitch

theorem Proper.restartActive (proper : Proper complementary kalman estimation) (pitch : F) :
    Proper complementary kalman (estimation.restartActive pitch) := by
  unfold AttitudeEstimationImpl.restartActive
  split
  · exact ⟨proper.1, kalman.restart_proper pitch proper.2⟩
  · exact ⟨complementary.restart_proper pitch proper.1, proper.2⟩

theorem Proper.updateActive (proper : Proper complementary kalman estimation)
    (rate pitch trust interval : F) :
    Proper complementary kalman (estimation.updateActive rate pitch trust interval).2 := by
  unfold AttitudeEstimationImpl.updateActive
  split
  · exact ⟨proper.1, kalman.update_proper rate pitch trust interval proper.2⟩
  · exact ⟨complementary.update_proper rate pitch trust interval proper.1, proper.2⟩

/-- A restart levels the selected filter. -/
theorem Proper.level (proper : Proper complementary kalman estimation) (pitch : F) :
    Level complementary kalman (estimation.restartActive pitch) pitch := by
  unfold AttitudeEstimationImpl.restartActive Level
  cases selected : estimation.selected with
  | kalman => exact kalman.restarted pitch proper.2
  | complementary => exact complementary.restarted pitch proper.1

/-- A level filter stays level without a rate. -/
theorem Level.updateActive (level : Level complementary kalman estimation pitch)
    (proper : Proper complementary kalman estimation) (trust : F) {interval : F}
    (elapsed : 0 < interval) :
    (estimation.updateActive 0 pitch trust interval).1 = pitch ∧
      Level complementary kalman (estimation.updateActive 0 pitch trust interval).2 pitch := by
  unfold AttitudeEstimationImpl.updateActive Level
  unfold Level at level
  cases selected : estimation.selected with
  | kalman =>
      simp only [selected] at level ⊢
      exact kalman.updated trust proper.2 level elapsed
  | complementary =>
      simp only [selected] at level ⊢
      exact complementary.updated trust proper.1 level elapsed

variable [FloatGeometry F] {measurement : Measurement F}

theorem Proper.update (proper : Proper complementary kalman estimation)
    (measurement : Measurement F) :
    Proper complementary kalman (estimation.update measurement).2 := by
  cases valid : measurement.valid with
  | false =>
      rw [update_stops valid]
      exact proper
  | true =>
      by_cases restarts : estimation.Restarts measurement
      · rw [update_restarts restarts]
        exact proper.restartActive _
      · rw [update_fuses ((not_restarts_iff valid).mp restarts)]
        exact proper.updateActive _ _ _ _

/-- No call makes a filter improper. -/
theorem Proper.after (proper : Proper complementary kalman estimation) (calls : List (Call F)) :
    Proper complementary kalman (estimation.after calls) := by
  induction calls generalizing estimation with
  | nil => exact proper
  | cons call rest ih =>
      cases call with
      | update measurement => exact ih (proper.update measurement)
      | select filter => exact ih proper

/-- An estimation that runs is level since its last measurement. -/
structure Steady (complementary : HoldsPitch C F) (kalman : HoldsPitch K F)
    (estimation : AttitudeEstimationImpl F C K) (pitch : F) (time : TimePoint) : Prop where
  proper : Proper complementary kalman estimation
  level : estimation.running = true → Level complementary kalman estimation pitch
  previous : estimation.running = true → estimation.previousSample = time
  begun : estimation.running = true → estimation.convergenceStarted ≤ time

/-- A measurement that restarts the estimation leaves it steady, and so does an invalid one. -/
theorem Proper.steady (proper : Proper complementary kalman estimation)
    (upright : accelerometerPitch measurement.acceleration = pitch)
    (fresh : measurement.valid = true → estimation.Restarts measurement) :
    Steady complementary kalman (estimation.update measurement).2 pitch measurement.sampledAt := by
  cases valid : measurement.valid with
  | false =>
      rw [update_stops valid]
      exact ⟨proper, nofun, nofun, nofun⟩
  | true =>
      rw [update_restarts (fresh valid)]
      have level : Level complementary kalman (estimation.restartActive pitch) pitch :=
        proper.level pitch
      rw [← upright] at level
      refine ⟨proper.restartActive _, fun _ => ?_, fun _ => rfl, fun _ => le_rfl⟩
      rw [← upright]
      exact level

/-- A steady estimation takes an upright measurement without a rate: it stays steady, and a valid
measurement gives the pitch and goes on with the convergence that runs. -/
theorem Steady.update [IsStrictOrderedRing F] {time : TimePoint}
    (steady : Steady complementary kalman estimation pitch time)
    (upright : accelerometerPitch measurement.acceleration = pitch)
    (still : measurement.valid = true → pitchRateAboutBodyY measurement.angularRate = 0)
    (later : 0 < measurement.sampledAt - time)
    (timely : measurement.sampledAt - time ≤ estimation.config.maximumInterval) :
    Steady complementary kalman (estimation.update measurement).2 pitch measurement.sampledAt ∧
      (measurement.valid = true → (estimation.update measurement).1.pitch = pitch ∧
        (estimation.update measurement).2.running = true ∧
        (estimation.running = true →
          (estimation.update measurement).2.convergenceStarted = estimation.convergenceStarted ∧
          ((estimation.update measurement).1.valid = true ↔ estimation.config.convergenceInterval ≤
            measurement.sampledAt - estimation.convergenceStarted))) := by
  cases running : estimation.running with
  | false =>
      have restarts (valid : measurement.valid = true) : estimation.Restarts measurement :=
        ⟨valid, .inl running⟩
      refine ⟨steady.proper.steady upright restarts, fun valid => ?_⟩
      rw [update_restarts (restarts valid)]
      exact ⟨upright, rfl, nofun⟩
  | true =>
      cases valid : measurement.valid with
      | false => exact ⟨steady.proper.steady upright (by simp [valid]), nofun⟩
      | true =>
          have previous := steady.previous running
          rw [← previous] at later timely
          have fuses : estimation.Fuses measurement := ⟨valid, running, later, timely⟩
          have elapsed : (0 : F) < seconds (measurement.sampledAt - estimation.previousSample) := by
            have exact : (0 : ℚ) <
                (measurement.sampledAt - estimation.previousSample : Int) / 1000000000 := by
              positivity
            show (0 : F) < ((_ : ℚ) : F)
            exact_mod_cast exact
          obtain ⟨value, level⟩ := (steady.level running).updateActive steady.proper
            (accelerometerTrust measurement.acceleration estimation.config.accelerationBand) elapsed
          obtain ⟨-, goesOn, begun⟩ := estimation.updateActive_frame 0 pitch
            (accelerometerTrust measurement.acceleration estimation.config.accelerationBand)
            (seconds (measurement.sampledAt - estimation.previousSample))
          rw [update_fuses fuses]
          unfold fuse
          simp only [still valid, upright]
          refine ⟨⟨steady.proper.updateActive _ _ _ _, fun _ => level, fun _ => rfl, fun _ => ?_⟩,
            fun _ => ⟨value, goesOn.trans running, fun _ => ⟨begun, decide_eq_true_iff⟩⟩⟩
          calc _ = estimation.convergenceStarted := begun
            _ ≤ estimation.previousSample := (steady.begun running).trans previous.ge
            _ ≤ measurement.sampledAt := (sub_pos.mp later).le

end AttitudeEstimationImpl
end InvertedPendulum.Estimation
