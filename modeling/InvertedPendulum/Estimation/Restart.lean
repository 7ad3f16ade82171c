import InvertedPendulum.Estimation.PitchFilters
import InvertedPendulum.Estimation.Updates
import InvertedPendulum.Reactive.Bisimulation

namespace InvertedPendulum.Estimation
open Sensing Reactive

section Filters

/-- A filter forgets its past when a restart keeps nothing of it but the settings. -/
structure Forgetful (σ F : Type) [PitchFilter σ F] where
  Settings : Type
  settings : σ → Settings
  alike : σ → σ → Prop
  settings_restart (filter : σ) (pitch : F) :
    settings (PitchFilter.restart filter pitch) = settings filter
  settings_update (filter : σ) (rate pitch trust interval : F) :
    settings (PitchFilter.update filter rate pitch trust interval).2 = settings filter
  restart {first second : σ} (same : settings first = settings second) (pitch : F) :
    alike (PitchFilter.restart first pitch) (PitchFilter.restart second pitch)
  answer {first second : σ} (related : alike first second) (rate pitch trust interval : F) :
    (PitchFilter.update first rate pitch trust interval).1 =
      (PitchFilter.update second rate pitch trust interval).1
  update {first second : σ} (related : alike first second) (rate pitch trust interval : F) :
    alike (PitchFilter.update first rate pitch trust interval).2
      (PitchFilter.update second rate pitch trust interval).2

/-- `Reset` sets the only state of the complementary filter that an update reads after its alpha and
its interval have been set. -/
structure ResetsState {C F : Type} [ComplementaryFilter C F] (state : C → F) : Prop where
  reset (filter : C) (value : F) : state (ComplementaryFilter.reset filter value) = value
  answer {first second : C} (same : state first = state second)
    (alpha rate reference interval : F) :
    (ComplementaryFilter.update (ComplementaryFilter.setAlpha first alpha) rate reference
        interval).1 =
      (ComplementaryFilter.update (ComplementaryFilter.setAlpha second alpha) rate reference
        interval).1
  next {first second : C} (same : state first = state second) (alpha rate reference interval : F) :
    state (ComplementaryFilter.update (ComplementaryFilter.setAlpha first alpha) rate reference
        interval).2 =
      state (ComplementaryFilter.update (ComplementaryFilter.setAlpha second alpha) rate reference
        interval).2

variable {C K F : Type} [FloatArithmetic F] [ComplementaryFilter C F] [KalmanFilter K F]

/-- The complementary filter keeps its crossover and the state that `Reset` sets. -/
def ComplementaryPitchFilter.forgetful {state : C → F} (documented : ResetsState state) :
    Forgetful (ComplementaryPitchFilter C F) F where
  Settings := F
  settings filter := filter.crossoverSeconds
  alike first second := first.crossoverSeconds = second.crossoverSeconds ∧
    state first.filter = state second.filter
  settings_restart _ _ := rfl
  settings_update _ _ _ _ _ := rfl
  restart := by
    intro first second same pitch
    constructor
    · exact same
    · exact (documented.reset _ pitch).trans (documented.reset _ pitch).symm
  answer := by
    rintro ⟨crossover, first⟩ ⟨_, second⟩ ⟨rfl, related⟩ rate pitch trust interval
    exact documented.answer related _ rate pitch interval
  update := by
    rintro ⟨crossover, first⟩ ⟨_, second⟩ ⟨rfl, related⟩ rate pitch trust interval
    exact ⟨rfl, documented.next related _ rate pitch interval⟩

/-- A new Kalman filter keeps nothing of the one that it replaces. -/
def KalmanPitchFilter.forgetful : Forgetful (KalmanPitchFilter K F) F where
  Settings := KalmanPitchFilter.Config F
  settings filter := filter.config
  alike := Eq
  settings_restart _ _ := rfl
  settings_update := by
    intro filter rate pitch trust interval
    show KalmanPitchFilter.config (if _ then _ else _) = _
    split <;> rfl
  restart := by
    rintro ⟨config, first⟩ ⟨_, second⟩ rfl pitch
    rfl
  answer := by
    rintro first _ rfl _ _ _ _
    rfl
  update := by
    rintro first _ rfl _ _ _ _
    rfl

end Filters

namespace AttitudeEstimationImpl

section Runs
variable {F Complementary Kalman : Type} [PitchFilter Complementary F] [PitchFilter Kalman F]
  {complementary : Forgetful Complementary F} {kalman : Forgetful Kalman F}
  {first second : AttitudeEstimationImpl F Complementary Kalman} {measurement : Measurement F}

/-- No call changes the configuration, whether of the estimation or of its filters. -/
structure SameSettings (complementary : Forgetful Complementary F) (kalman : Forgetful Kalman F)
    (first second : AttitudeEstimationImpl F Complementary Kalman) : Prop where
  config : first.config = second.config
  complementary :
    complementary.settings first.complementary = complementary.settings second.complementary
  kalman : kalman.settings first.kalman = kalman.settings second.kalman

/-- The selected filters are alike, whatever the others are. -/
def ActiveAlike (complementary : Forgetful Complementary F) (kalman : Forgetful Kalman F)
    (first second : AttitudeEstimationImpl F Complementary Kalman) : Prop :=
  match first.selected with
  | .kalman => kalman.alike first.kalman second.kalman
  | .complementary => complementary.alike first.complementary second.complementary

/-- Two estimations are alike in all that their next estimates depend on. -/
structure Alike (complementary : Forgetful Complementary F) (kalman : Forgetful Kalman F)
    (first second : AttitudeEstimationImpl F Complementary Kalman) : Prop where
  settings : SameSettings complementary kalman first second
  selected : first.selected = second.selected
  active : ActiveAlike complementary kalman first second
  running : first.running = second.running
  previous : first.previousSample = second.previousSample
  begun : first.convergenceStarted = second.convergenceStarted
  latest : first.latest = second.latest

theorem SameSettings.trans {third : AttitudeEstimationImpl F Complementary Kalman}
    (before : SameSettings complementary kalman first second)
    (after : SameSettings complementary kalman second third) :
    SameSettings complementary kalman first third :=
  ⟨before.config.trans after.config, before.complementary.trans after.complementary,
    before.kalman.trans after.kalman⟩

theorem SameSettings.symm (same : SameSettings complementary kalman first second) :
    SameSettings complementary kalman second first :=
  ⟨same.config.symm, same.complementary.symm, same.kalman.symm⟩

/-- A restart of the selected filter keeps the settings. -/
theorem restartActive_settings (complementary : Forgetful Complementary F)
    (kalman : Forgetful Kalman F) (pitch : F) :
    SameSettings complementary kalman (first.restartActive pitch) first := by
  unfold restartActive
  split
  · exact ⟨rfl, rfl, kalman.settings_restart _ _⟩
  · exact ⟨rfl, complementary.settings_restart _ _, rfl⟩

/-- An update of the selected filter keeps the settings. -/
theorem updateActive_settings (complementary : Forgetful Complementary F)
    (kalman : Forgetful Kalman F) (rate pitch trust interval : F) :
    SameSettings complementary kalman (first.updateActive rate pitch trust interval).2 first := by
  unfold updateActive
  split
  · exact ⟨rfl, rfl, kalman.settings_update _ _ _ _ _⟩
  · exact ⟨rfl, complementary.settings_update _ _ _ _ _, rfl⟩

theorem restartActive_selected (pitch : F) :
    (first.restartActive pitch).selected = first.selected := by
  unfold restartActive
  split <;> rfl

theorem updateActive_selected (rate pitch trust interval : F) :
    (first.updateActive rate pitch trust interval).2.selected = first.selected := by
  unfold updateActive
  split <;> rfl

/-- A restart of the selected filter leaves it alike wherever the settings are. -/
theorem restartActive_alike (same : SameSettings complementary kalman first second)
    (selected : first.selected = second.selected) (pitch : F) :
    ActiveAlike complementary kalman (first.restartActive pitch) (second.restartActive pitch) := by
  unfold ActiveAlike
  rw [restartActive_selected]
  unfold restartActive
  rw [← selected]
  cases first.selected with
  | kalman => exact kalman.restart same.kalman pitch
  | complementary => exact complementary.restart same.complementary pitch

/-- Selected filters that are alike answer alike and stay so. -/
theorem updateActive_alike (active : ActiveAlike complementary kalman first second)
    (selected : first.selected = second.selected) (rate pitch trust interval : F) :
    (first.updateActive rate pitch trust interval).1 =
        (second.updateActive rate pitch trust interval).1 ∧
      ActiveAlike complementary kalman (first.updateActive rate pitch trust interval).2
        (second.updateActive rate pitch trust interval).2 := by
  unfold ActiveAlike at active ⊢
  rw [updateActive_selected]
  unfold updateActive
  rw [← selected]
  cases filter : first.selected with
  | kalman =>
      rw [filter] at active
      exact ⟨kalman.answer active _ _ _ _, kalman.update active _ _ _ _⟩
  | complementary =>
      rw [filter] at active
      exact ⟨complementary.answer active _ _ _ _, complementary.update active _ _ _ _⟩

/-- Estimations that are alike restart on the same measurements. -/
theorem Alike.restarts_iff (related : Alike complementary kalman first second) :
    first.Restarts measurement ↔ second.Restarts measurement := by
  unfold Restarts
  rw [related.running, related.previous, related.settings.config]

variable [FloatArithmetic F] [FloatGeometry F]

/-- Two restarts by one measurement give the same estimate, and leave the estimations alike. -/
theorem update_restarts_alike (same : SameSettings complementary kalman first second)
    (selected : first.selected = second.selected) (restarts : first.Restarts measurement)
    (again : second.Restarts measurement) :
    (first.update measurement).1 = (second.update measurement).1 ∧
      Alike complementary kalman (first.update measurement).2 (second.update measurement).2 := by
  rw [update_restarts restarts, update_restarts again]
  let pitch := accelerometerPitch measurement.acceleration
  have settings : SameSettings complementary kalman (first.restartActive pitch)
      (second.restartActive pitch) :=
    ((restartActive_settings complementary kalman pitch).trans same).trans
      (restartActive_settings complementary kalman pitch).symm
  have active := restartActive_alike same selected pitch
  have kept : (first.restartActive pitch).selected = (second.restartActive pitch).selected := by
    rw [restartActive_selected, restartActive_selected, selected]
  constructor
  · rfl
  · exact ⟨⟨settings.config, settings.complementary, settings.kalman⟩, kept, active, rfl, rfl, rfl,
      rfl⟩

/-- Estimations that are alike stop in the same way. -/
theorem Alike.stopped (related : Alike complementary kalman first second)
    (invalid : measurement.valid = false) :
    (first.update measurement).1 = (second.update measurement).1 ∧
      Alike complementary kalman (first.update measurement).2 (second.update measurement).2 := by
  rw [update_stops invalid, update_stops invalid, related.latest]
  constructor
  · rfl
  · obtain ⟨⟨config, others, filters⟩, selected, active, -, previous, begun, -⟩ := related
    exact ⟨⟨config, others, filters⟩, selected, active, rfl, previous, begun, rfl⟩

/-- Estimations that are alike fuse a measurement in the same way. -/
theorem Alike.fused (related : Alike complementary kalman first second)
    (fuses : first.Fuses measurement) (again : second.Fuses measurement) :
    (first.update measurement).1 = (second.update measurement).1 ∧
      Alike complementary kalman (first.update measurement).2 (second.update measurement).2 := by
  let rate := pitchRateAboutBodyY measurement.angularRate
  let pitch := accelerometerPitch measurement.acceleration
  let trust := accelerometerTrust measurement.acceleration second.config.accelerationBand
  let interval : F := seconds (measurement.sampledAt - second.previousSample)
  obtain ⟨answered, active⟩ :=
    updateActive_alike related.active related.selected rate pitch trust interval
  have settings : SameSettings complementary kalman
      (first.updateActive rate pitch trust interval).2
      (second.updateActive rate pitch trust interval).2 :=
    ((updateActive_settings complementary kalman _ _ _ _).trans related.settings).trans
      (updateActive_settings complementary kalman _ _ _ _).symm
  have selected : (first.updateActive rate pitch trust interval).2.selected =
      (second.updateActive rate pitch trust interval).2.selected := by
    rw [updateActive_selected, updateActive_selected, related.selected]
  obtain ⟨-, running, begun⟩ := first.updateActive_frame rate pitch trust interval
  obtain ⟨-, otherRunning, otherBegun⟩ := second.updateActive_frame rate pitch trust interval
  rw [update_fuses fuses, update_fuses again]
  unfold fuse
  dsimp only
  rw [related.settings.config, related.previous, related.begun, answered]
  constructor
  · rfl
  · constructor
    · exact ⟨settings.config, settings.complementary, settings.kalman⟩
    · exact selected
    · exact active
    · exact running.trans (related.running.trans otherRunning.symm)
    · rfl
    · exact begun.trans (related.begun.trans otherBegun.symm)
    · rfl

/-- Estimations that are alike give the same estimates for ever. -/
theorem alike_bisimulation (complementary : Forgetful Complementary F)
    (kalman : Forgetful Kalman F) :
    Bisimulation (@update F Complementary Kalman _ _ _ _) update
      (Alike complementary kalman) := by
  have each : ∀ {first second : AttitudeEstimationImpl F Complementary Kalman},
      Alike complementary kalman first second → ∀ measurement,
        (first.update measurement).1 = (second.update measurement).1 ∧
          Alike complementary kalman (first.update measurement).2
            (second.update measurement).2 := by
    intro first second related measurement
    cases valid : measurement.valid with
    | false => exact related.stopped valid
    | true =>
        by_cases restarts : first.Restarts measurement
        · have again := related.restarts_iff.mp restarts
          exact update_restarts_alike related.settings related.selected restarts again
        · have fuses := (not_restarts_iff valid).mp restarts
          have again := (not_restarts_iff valid).mp (mt related.restarts_iff.mpr restarts)
          exact related.fused fuses again
  constructor
  · intro first second related measurement
    exact (each related measurement).1
  · intro first second related measurement
    exact (each related measurement).2

/-- An update keeps the settings. -/
theorem update_settings (complementary : Forgetful Complementary F) (kalman : Forgetful Kalman F)
    (measurement : Measurement F) :
    SameSettings complementary kalman (first.update measurement).2 first := by
  cases valid : measurement.valid with
  | false =>
      rw [update_stops valid]
      exact ⟨rfl, rfl, rfl⟩
  | true =>
      by_cases restarts : first.Restarts measurement
      · rw [update_restarts restarts]
        obtain ⟨config, others, filters⟩ := first.restartActive_settings complementary kalman
          (accelerometerPitch measurement.acceleration)
        exact ⟨config, others, filters⟩
      · rw [update_fuses ((not_restarts_iff valid).mp restarts)]
        obtain ⟨config, others, filters⟩ := first.updateActive_settings complementary kalman
          (pitchRateAboutBodyY measurement.angularRate) (accelerometerPitch measurement.acceleration)
          (accelerometerTrust measurement.acceleration first.config.accelerationBand)
          (seconds (measurement.sampledAt - first.previousSample))
        exact ⟨config, others, filters⟩

/-- No history of calls changes the settings. -/
theorem after_settings (complementary : Forgetful Complementary F) (kalman : Forgetful Kalman F)
    (calls : List (Call F)) : SameSettings complementary kalman (first.after calls) first := by
  induction calls generalizing first with
  | nil => exact ⟨rfl, rfl, rfl⟩
  | cons call calls ih =>
      rw [after_cons]
      apply ih.trans
      cases call with
      | update measurement => exact update_settings complementary kalman measurement
      | select filter => exact ⟨rfl, rfl, rfl⟩

/-- This call stops the filter. -/
def Call.stops : Call F → Bool
  | .update measurement => ! measurement.valid
  | .select _ => true

/-- The filter stands still after a call that stops it. -/
theorem answer_stops {call : Call F} (stops : call.stops = true) :
    (first.answer call).running = false := by
  cases call with
  | update measurement =>
      have invalid : measurement.valid = false := by simpa [Call.stops] using stops
      rw [answer, update_stops invalid]
  | select filter => rfl

/-- Whatever two estimations of one configuration went through, they give the same estimates from a
valid measurement on when their filters were last stopped. -/
theorem restart_forgets (complementary : Forgetful Complementary F) (kalman : Forgetful Kalman F)
    (same : SameSettings complementary kalman first second)
    (selected : first.selected = second.selected) (stopped : first.running = false)
    (stoppedToo : second.running = false) (valid : measurement.valid = true)
    (rest : List (Measurement F)) :
    responses update first (measurement :: rest) = responses update second (measurement :: rest) := by
  have restarts : first.Restarts measurement := ⟨valid, .inl stopped⟩
  have again : second.Restarts measurement := ⟨valid, .inl stoppedToo⟩
  obtain ⟨answered, related⟩ := update_restarts_alike same selected restarts again
  have bisimulation := alike_bisimulation complementary kalman
  rw [responses_cons, responses_cons, answered, bisimulation.responses_eq related]

end Runs

section Filters
variable {C K F : Type} [FloatArithmetic F] [ComplementaryFilter C F] [KalmanFilter K F]

/-- The constructor builds both filters from the configuration. -/
def build (config : Config F) (complementary : ComplementaryPitchFilter.Config F)
    (kalman : KalmanPitchFilter.Config F) :
    AttitudeEstimationImpl F (ComplementaryPitchFilter C F) (KalmanPitchFilter K F) :=
  construct config (.construct complementary) (.construct kalman)

/-- The last of these calls stops the filter. -/
def Stopped (calls : List (Call F)) : Prop :=
  ∃ earlier last, calls = earlier ++ [last] ∧ last.stops = true

variable [FloatGeometry F]

theorem Stopped.running {calls : List (Call F)} (stopped : Stopped calls)
    (estimation : AttitudeEstimationImpl F (ComplementaryPitchFilter C F) (KalmanPitchFilter K F)) :
    (estimation.after calls).running = false := by
  obtain ⟨earlier, last, rfl, stops⟩ := stopped
  rw [after_snoc]
  exact answer_stops stops

/-- Two histories that were stopped on the same filter lead to the same estimates from the next valid
measurement on, with the complementary filter as with the Kalman filter. -/
theorem restarted_estimates_agree {state : C → F} (documented : ResetsState state)
    (config : Config F) (complementary : ComplementaryPitchFilter.Config F)
    (kalman : KalmanPitchFilter.Config F) {first second : List (Call F)} (stopped : Stopped first)
    (stoppedToo : Stopped second) :
    let start : AttitudeEstimationImpl F (ComplementaryPitchFilter C F) (KalmanPitchFilter K F) :=
      build config complementary kalman
    (start.after first).selected = (start.after second).selected →
      ∀ measurement rest, measurement.valid = true →
        responses update (start.after first) (measurement :: rest) =
          responses update (start.after second) (measurement :: rest) := by
  intro start selected measurement rest valid
  let complementaryForgets := ComplementaryPitchFilter.forgetful documented
  let kalmanForgets : Forgetful (KalmanPitchFilter K F) F := KalmanPitchFilter.forgetful
  have same : SameSettings complementaryForgets kalmanForgets (start.after first)
      (start.after second) :=
    (after_settings _ _ first).trans (after_settings _ _ second).symm
  exact restart_forgets complementaryForgets kalmanForgets same selected (stopped.running start)
    (stoppedToo.running start) valid rest

end Filters
end AttitudeEstimationImpl

/-- This complementary filter weighs the integrated rate against the reference. -/
structure WeighingFilter where
  alpha : ℚ
  angle : ℚ

instance : ComplementaryFilter WeighingFilter ℚ where
  alphaFromTau tau interval := tau / (tau + interval)
  construct alpha _ := ⟨alpha, 0⟩
  reset filter angle := { filter with angle }
  setAlpha filter alpha := { filter with alpha }
  update filter rate reference interval :=
    let angle := filter.alpha * (filter.angle + rate * interval) + (1 - filter.alpha) * reference
    (angle, { filter with angle })

theorem weighing_resets : ResetsState fun filter : WeighingFilter => filter.angle where
  reset _ _ := rfl
  answer := by
    rintro ⟨_, angle⟩ ⟨_, _⟩ rfl _ _ _ _
    rfl
  next := by
    rintro ⟨_, angle⟩ ⟨_, _⟩ rfl _ _ _ _
    rfl

/-- This Kalman filter keeps its matrices beside the state and the covariance. -/
structure MatrixFilter where
  state : KalmanFilter.StateVector ℚ
  covariance : KalmanFilter.StateMatrix ℚ
  measurementMatrix : KalmanFilter.MeasurementMatrix ℚ
  transition : KalmanFilter.StateMatrix ℚ
  control : KalmanFilter.ControlMatrix ℚ
  processNoise : KalmanFilter.StateMatrix ℚ
  measurementNoise : ℚ

namespace MatrixFilter

/-- This is a row of one matrix times a column of another. -/
def dot (row column : ℚ × ℚ) : ℚ := row.1 * column.1 + row.2 * column.2

def predict (filter : MatrixFilter) (control : ℚ) : MatrixFilter :=
  let rows := filter.transition
  let (first, second) := filter.covariance
  -- the covariance is symmetric, so that its rows are its columns
  let firstRow := (dot rows.1 first, dot rows.1 second)
  let secondRow := (dot rows.2 first, dot rows.2 second)
  { filter with
    state := (dot rows.1 filter.state + filter.control.1 * control,
      dot rows.2 filter.state + filter.control.2 * control)
    covariance := ((dot firstRow rows.1 + filter.processNoise.1.1,
        dot firstRow rows.2 + filter.processNoise.1.2),
      (dot secondRow rows.1 + filter.processNoise.2.1,
        dot secondRow rows.2 + filter.processNoise.2.2)) }

def update (filter : MatrixFilter) (measurement : ℚ) : MatrixFilter :=
  let (first, second) := filter.covariance
  let weights := (dot first filter.measurementMatrix, dot second filter.measurementMatrix)
  let innovation := dot filter.measurementMatrix weights + filter.measurementNoise
  let gain := (weights.1 / innovation, weights.2 / innovation)
  let residual := measurement - dot filter.measurementMatrix filter.state
  { filter with
    state := (filter.state.1 + gain.1 * residual, filter.state.2 + gain.2 * residual)
    covariance := ((first.1 - gain.1 * weights.1, first.2 - gain.1 * weights.2),
      (second.1 - gain.2 * weights.1, second.2 - gain.2 * weights.2)) }

instance : KalmanFilter MatrixFilter ℚ where
  construct state covariance :=
    ⟨state, covariance, (0, 0), ((0, 0), (0, 0)), (0, 0), ((0, 0), (0, 0)), 0⟩
  setMeasurementMatrix filter measurementMatrix := { filter with measurementMatrix }
  setStateTransition filter transition := { filter with transition }
  setControlInputMatrix filter control := { filter with control }
  setProcessNoise filter processNoise := { filter with processNoise }
  predict := predict
  setMeasurementNoise filter measurementNoise := { filter with measurementNoise }
  update := update
  getState filter := filter.state

end MatrixFilter

/-- A fresh filter and one that has run give the same estimates after a selection. -/
theorem restarted_estimates_agree_selected :
    let _ : FloatGeometry ℚ := ⟨fun y _ => y, fun square => square⟩
    let config : AttitudeEstimationImpl.Config ℚ := ⟨.complementary, 2, 1000, 1⟩
    let start : AttitudeEstimationImpl ℚ (ComplementaryPitchFilter WeighingFilter ℚ)
        (KalmanPitchFilter MatrixFilter ℚ) := .build config .default .default
    let tilted (now : TimePoint) (pitch : ℚ) : Measurement ℚ :=
      ⟨⟨0, 1, 0⟩, ⟨-pitch, 0, -1⟩, now, true, .none⟩
    responses AttitudeEstimationImpl.update (start.after [.select .kalman])
        [tilted 5 1, tilted 6 2, tilted 7 3] =
      responses AttitudeEstimationImpl.update
        (start.after [.select .kalman, .update (tilted 1 4), .update (tilted 2 5), .select .kalman])
        [tilted 5 1, tilted 6 2, tilted 7 3] := by
  intro geometry config start tilted
  have fresh : AttitudeEstimationImpl.Stopped ([.select .kalman] : List (AttitudeEstimationImpl.Call ℚ)) :=
    ⟨[], _, rfl, rfl⟩
  have used : AttitudeEstimationImpl.Stopped
      [.select .kalman, .update (tilted 1 4), .update (tilted 2 5), .select .kalman] :=
    ⟨[_, _, _], _, rfl, rfl⟩
  exact AttitudeEstimationImpl.restarted_estimates_agree weighing_resets config .default .default
    fresh used rfl (tilted 5 1) _ rfl

end InvertedPendulum.Estimation
