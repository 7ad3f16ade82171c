import InvertedPendulum.Estimation.Blending
import InvertedPendulum.LeastSquares.Filtering
import Mathlib.Data.Fin.VecNotation
import Mathlib.LinearAlgebra.Matrix.Notation

namespace InvertedPendulum.Estimation
open Matrix LeastSquares

namespace KalmanFilter
variable {F : Type}

def vector (state : StateVector F) : Fin 2 → F := ![state.1, state.2]

def matrix (rows : StateMatrix F) : Matrix (Fin 2) (Fin 2) F :=
  !![rows.1.1, rows.1.2; rows.2.1, rows.2.2]

end KalmanFilter

open KalmanFilter (vector matrix)

/-- The library documents its Kalman filter by its state and its matrices. -/
structure DocumentedKalmanFilter (F : Type) where
  state : Fin 2 → F
  covariance : Matrix (Fin 2) (Fin 2) F
  stateTransition : Matrix (Fin 2) (Fin 2) F
  controlInput : Fin 2 → F
  processNoise : Matrix (Fin 2) (Fin 2) F
  measurement : Fin 2 → F
  measurementNoise : F

namespace DocumentedKalmanFilter
variable {F : Type} [Field F] (filter : DocumentedKalmanFilter F)

def predict (control : F) : DocumentedKalmanFilter F :=
  { filter with
    state := filter.stateTransition *ᵥ filter.state + control • filter.controlInput
    covariance :=
      filter.stateTransition * filter.covariance * filter.stateTransitionᵀ + filter.processNoise }

def gain : Fin 2 → F :=
  (filter.measurement ⬝ᵥ filter.covariance *ᵥ filter.measurement + filter.measurementNoise)⁻¹ •
    filter.covariance *ᵥ filter.measurement

def update (measured : F) : DocumentedKalmanFilter F :=
  { filter with
    state := filter.state + (measured - filter.measurement ⬝ᵥ filter.state) • filter.gain
    covariance := (1 - vecMulVec filter.gain filter.measurement) * filter.covariance }

instance : KalmanFilter (DocumentedKalmanFilter F) F where
  construct state covariance := ⟨vector state, matrix covariance, 0, 0, 0, 0, 0⟩
  setMeasurementMatrix filter row := { filter with measurement := vector row }
  setStateTransition filter rows := { filter with stateTransition := matrix rows }
  setControlInputMatrix filter column := { filter with controlInput := vector column }
  setProcessNoise filter rows := { filter with processNoise := matrix rows }
  predict := predict
  setMeasurementNoise filter variance := { filter with measurementNoise := variance }
  update := update
  getState filter := (filter.state 0, filter.state 1)

end DocumentedKalmanFilter

/-- A filter computes as documented where a view of it does. -/
structure FiltersAsDocumented {K F : Type} [Field F] [KalmanFilter K F]
    (view : K → DocumentedKalmanFilter F) : Prop where
  construct (state : KalmanFilter.StateVector F) (covariance : KalmanFilter.StateMatrix F) :
    (view (KalmanFilter.construct state covariance)).state = vector state ∧
      (view (KalmanFilter.construct state covariance)).covariance = matrix covariance
  setMeasurementMatrix (filter : K) (row : KalmanFilter.MeasurementMatrix F) :
    view (KalmanFilter.setMeasurementMatrix filter row) =
      { view filter with measurement := vector row }
  setStateTransition (filter : K) (rows : KalmanFilter.StateMatrix F) :
    view (KalmanFilter.setStateTransition filter rows) =
      { view filter with stateTransition := matrix rows }
  setControlInputMatrix (filter : K) (column : KalmanFilter.ControlMatrix F) :
    view (KalmanFilter.setControlInputMatrix filter column) =
      { view filter with controlInput := vector column }
  setProcessNoise (filter : K) (rows : KalmanFilter.StateMatrix F) :
    view (KalmanFilter.setProcessNoise filter rows) =
      { view filter with processNoise := matrix rows }
  predict (filter : K) (control : F) :
    view (KalmanFilter.predict filter control) = (view filter).predict control
  setMeasurementNoise (filter : K) (variance : F) :
    view (KalmanFilter.setMeasurementNoise filter variance) =
      { view filter with measurementNoise := variance }
  update (filter : K) (measured : F) :
    view (KalmanFilter.update filter measured) = (view filter).update measured
  getState (filter : K) :
    KalmanFilter.getState filter = ((view filter).state 0, (view filter).state 1)

theorem documented_as_documented {F : Type} [Field F] :
    FiltersAsDocumented (id : DocumentedKalmanFilter F → DocumentedKalmanFilter F) := by
  constructor <;> intros <;> first | rfl | exact ⟨rfl, rfl⟩

namespace KalmanPitchFilter
variable {K F : Type} [Field F] [LinearOrder F]

/-- Every variance and density of the configuration is positive, and so is the least trust. -/
structure Config.Positive (config : Config F) : Prop where
  pitchNoiseDensity : 0 < config.pitchNoiseDensity
  biasNoiseDensity : 0 < config.biasNoiseDensity
  accelerometerPitchVariance : 0 < config.accelerometerPitchVariance
  initialPitchVariance : 0 < config.initialPitchVariance
  initialBiasVariance : 0 < config.initialBiasVariance
  minimumTrust : 0 < config.minimumTrust

theorem Config.default_positive [IsStrictOrderedRing F] : (Config.default : Config F).Positive := by
  constructor <;> simp only [Config.default] <;> norm_num

/-- A pitch and a bias of the gyroscope are explained at a cost by what they may have been before. -/
abbrev Explanations (F : Type) := (pitch bias cost : F) → Prop

/-- A restart expects its pitch and no bias. -/
def Config.restarted (config : Config F) (restart : F) : Explanations F :=
  fun pitch bias cost =>
    cost = (pitch - restart) ^ 2 / config.initialPitchVariance + bias ^ 2 / config.initialBiasVariance

/-- The pitch follows the rate without the bias and the bias stays, each up to its noise. -/
def Config.drifted (config : Config F) (before : Explanations F) (reading : Reading F) :
    Explanations F :=
  fun pitch bias cost => ∃ formerPitch formerBias former, before formerPitch formerBias former ∧
    cost = former +
      ((pitch - (formerPitch + (reading.pitchRate - formerBias) * reading.intervalSeconds)) ^ 2 /
          (config.pitchNoiseDensity * reading.intervalSeconds) +
        (bias - formerBias) ^ 2 / (config.biasNoiseDensity * reading.intervalSeconds))

/-- The accelerometer sees the pitch up to its noise, which trust divides. -/
def Config.sighted (config : Config F) (before : Explanations F) (reading : Reading F) :
    Explanations F :=
  fun pitch bias cost => ∃ former, before pitch bias former ∧
    cost = former + (reading.accelerometerPitch - pitch) ^ 2 /
      (config.accelerometerPitchVariance / reading.accelerometerTrust)

/-- A reading explains the pitch and the bias after it, by the accelerometer only where it is
trusted. -/
def Config.explained (config : Config F) (before : Explanations F) (reading : Reading F) :
    Explanations F :=
  if reading.accelerometerTrust ≥ config.minimumTrust then
    config.sighted (config.drifted before reading) reading
  else config.drifted before reading

/-- The readings since a restart explain a pitch and a bias together. -/
def Config.explanations (config : Config F) (restart : F) (readings : List (Reading F)) :
    Explanations F :=
  readings.foldl config.explained (config.restarted restart)

variable [KalmanFilter K F]

/-- This is the update for a reading. -/
def read (pitchFilter : KalmanPitchFilter K F) (reading : Reading F) : F × KalmanPitchFilter K F :=
  pitchFilter.update reading.pitchRate reading.accelerometerPitch reading.accelerometerTrust
    reading.intervalSeconds

/-- The last update gives its estimate and its filter, and before the first the restart does. -/
def after (pitchFilter : KalmanPitchFilter K F) (restart : F) (readings : List (Reading F)) :
    F × KalmanPitchFilter K F :=
  readings.foldl (fun estimate reading => estimate.2.read reading)
    (restart, pitchFilter.restart restart)

variable [IsStrictOrderedRing F] {view : K → DocumentedKalmanFilter F}

/-- The filter holds a belief about the pitch and the bias. -/
structure Holds (view : K → DocumentedKalmanFilter F) (filter : K) (belief : Belief (Fin 2) F) :
    Prop where
  state : (view filter).state = belief.mean
  covariance : (view filter).covariance = belief.covariance.matrix
  measurement : (view filter).measurement = ![1, 0]

def transition (intervalSeconds : F) : Matrix (Fin 2) (Fin 2) F := !![1, -intervalSeconds; 0, 1]

/-- The noise of a move is that of the configuration over the interval. -/
def Config.noise {config : Config F} (positive : config.Positive) {intervalSeconds : F}
    (elapsed : 0 < intervalSeconds) : Covariance (Fin 2) F :=
  Covariance.diagonal
    ![config.pitchNoiseDensity * intervalSeconds, config.biasNoiseDensity * intervalSeconds] (by
      intro index
      fin_cases index
      · exact mul_pos positive.pitchNoiseDensity elapsed
      · exact mul_pos positive.biasNoiseDensity elapsed)

/-- The belief of a restart takes its variances from the configuration. -/
def Config.belief {config : Config F} (positive : config.Positive) (restart : F) :
    Belief (Fin 2) F where
  mean := ![restart, 0]
  covariance := Covariance.diagonal ![config.initialPitchVariance, config.initialBiasVariance] (by
    intro index
    fin_cases index
    · exact positive.initialPitchVariance
    · exact positive.initialBiasVariance)

omit [LinearOrder F] [IsStrictOrderedRing F] [KalmanFilter K F] in
theorem matrix_diagonal (first second : F) :
    matrix ((first, 0), (0, second)) = Matrix.diagonal ![first, second] := by
  ext row column
  fin_cases row <;> fin_cases column <;> rfl

theorem restart_holds (documented : FiltersAsDocumented view) (pitchFilter : KalmanPitchFilter K F)
    (positive : pitchFilter.config.Positive) (restart : F) :
    Holds view (pitchFilter.restart restart).filter (Config.belief positive restart) := by
  obtain ⟨state, covariance⟩ := documented.construct (restart, 0)
    ((pitchFilter.config.initialPitchVariance, 0), (0, pitchFilter.config.initialBiasVariance))
  have measures := documented.setMeasurementMatrix (KalmanFilter.construct (restart, 0)
    ((pitchFilter.config.initialPitchVariance, 0), (0, pitchFilter.config.initialBiasVariance))) (1, 0)
  have emplaces : (pitchFilter.restart restart).filter = KalmanFilter.setMeasurementMatrix
      (KalmanFilter.construct (restart, 0) ((pitchFilter.config.initialPitchVariance, 0),
        (0, pitchFilter.config.initialBiasVariance))) (1, 0) := rfl
  constructor
  · rw [emplaces, measures]
    exact state
  · rw [emplaces, measures]
    exact covariance.trans (matrix_diagonal _ _)
  · rw [emplaces, measures]
    rfl

theorem predict_holds (documented : FiltersAsDocumented view) {pitchFilter : KalmanPitchFilter K F}
    (positive : pitchFilter.config.Positive) {belief : Belief (Fin 2) F}
    (holds : Holds view pitchFilter.filter belief) (pitchRate : F) {intervalSeconds : F}
    (elapsed : 0 < intervalSeconds) :
    Holds view (pitchFilter.predict pitchRate intervalSeconds).filter
      (belief.moved (transition intervalSeconds) ![pitchRate * intervalSeconds, 0]
        (Config.noise positive elapsed)) := by
  have drift : pitchRate • vector (intervalSeconds, 0) = ![pitchRate * intervalSeconds, 0] := by
    simp [vector]
  unfold predict
  constructor
  · simp only [documented.predict, documented.setProcessNoise, documented.setControlInputMatrix,
      documented.setStateTransition, DocumentedKalmanFilter.predict, holds.state, drift]
    rfl
  · simp only [documented.predict, documented.setProcessNoise, documented.setControlInputMatrix,
      documented.setStateTransition, DocumentedKalmanFilter.predict, holds.covariance]
    exact congrArg _ (matrix_diagonal _ _)
  · simp only [documented.predict, documented.setProcessNoise, documented.setControlInputMatrix,
      documented.setStateTransition, DocumentedKalmanFilter.predict, holds.measurement]

theorem correct_holds (documented : FiltersAsDocumented view) {pitchFilter : KalmanPitchFilter K F}
    {belief : Belief (Fin 2) F} (holds : Holds view pitchFilter.filter belief)
    (accelerometerPitch : F) {accelerometerTrust : F}
    (noisy : 0 < pitchFilter.config.accelerometerPitchVariance / accelerometerTrust) :
    Holds view (pitchFilter.correct accelerometerPitch accelerometerTrust).filter
      (belief.measured ![1, 0] accelerometerPitch noisy) := by
  let noised := { view pitchFilter.filter with
    measurementNoise := pitchFilter.config.accelerometerPitchVariance / accelerometerTrust }
  have updated : view (pitchFilter.correct accelerometerPitch accelerometerTrust).filter =
      noised.update accelerometerPitch := by
    show view (KalmanFilter.update _ _) = _
    rw [documented.update, documented.setMeasurementNoise]
  have state : noised.state = belief.mean := holds.state
  have covariance : noised.covariance = belief.covariance.matrix := holds.covariance
  have measurement : noised.measurement = ![1, 0] := holds.measurement
  have gain : noised.gain = belief.covariance.gain ![1, 0]
      (pitchFilter.config.accelerometerPitchVariance / accelerometerTrust) := by
    unfold DocumentedKalmanFilter.gain
    rw [measurement, covariance]
    rfl
  constructor
  · rw [updated]
    show noised.state + (accelerometerPitch - noised.measurement ⬝ᵥ noised.state) • noised.gain = _
    rw [gain, state, measurement]
    rfl
  · rw [updated]
    show (1 - vecMulVec noised.gain noised.measurement) * noised.covariance = _
    rw [gain, covariance, measurement, Matrix.sub_mul, Matrix.one_mul, vecMulVec_mul,
      ← mulVec_transpose, belief.covariance.symmetric]
    rfl
  · rw [updated]
    exact measurement

/-- The explanations of a pitch and a bias are the courses of the state that they make up. -/
def Explanations.courses (explanations : Explanations F) : Courses (Fin 2) F :=
  fun state cost => explanations (state 0) (state 1) cost

omit [KalmanFilter K F] in
theorem restarted_courses {config : Config F} (positive : config.Positive) (restart : F) :
    Explanations.courses (config.restarted restart) = (Config.belief positive restart).courses := by
  funext state cost
  unfold Belief.courses Belief.penalty Config.belief
  rw [Covariance.penalty_diagonal, Fin.sum_univ_two]
  simp [Explanations.courses, Config.restarted]

omit [KalmanFilter K F] in
/-- A reading moves the courses with the noise of its interval. -/
theorem drifted_courses {config : Config F} (positive : config.Positive) (before : Explanations F)
    {reading : Reading F} (elapsed : 0 < reading.intervalSeconds) :
    Explanations.courses (config.drifted before reading) =
      before.courses.moved (transition reading.intervalSeconds)
        ![reading.pitchRate * reading.intervalSeconds, 0] (Config.noise positive elapsed) := by
  have penalty (former state : Fin 2 → F) :
      (Config.noise positive elapsed).penalty (state - (transition reading.intervalSeconds *ᵥ former +
          ![reading.pitchRate * reading.intervalSeconds, 0])) =
        (state 0 - (former 0 + (reading.pitchRate - former 1) * reading.intervalSeconds)) ^ 2 /
            (config.pitchNoiseDensity * reading.intervalSeconds) +
          (state 1 - former 1) ^ 2 / (config.biasNoiseDensity * reading.intervalSeconds) := by
    let drift := transition reading.intervalSeconds *ᵥ former +
      ![reading.pitchRate * reading.intervalSeconds, 0]
    have pitch : drift 0 = former 0 + (reading.pitchRate - former 1) * reading.intervalSeconds := by
      simp [drift, transition, dotProduct, Fin.sum_univ_two]
      ring
    have bias : drift 1 = former 1 := by
      simp [drift, transition, dotProduct, Fin.sum_univ_two]
    unfold Config.noise
    rw [Covariance.penalty_diagonal, Fin.sum_univ_two, ← pitch, ← bias]
    rfl
  funext state cost
  apply propext
  constructor
  · rintro ⟨formerPitch, formerBias, former, explained, rfl⟩
    exact ⟨![formerPitch, formerBias], former, explained, by rw [penalty]; rfl⟩
  · rintro ⟨former, paid, course, rfl⟩
    exact ⟨former 0, former 1, paid, course, by rw [penalty]⟩

omit [LinearOrder F] [IsStrictOrderedRing F] [KalmanFilter K F] in
/-- A trusted reading measures the pitch of the courses. -/
theorem sighted_courses (config : Config F) (before : Explanations F) (reading : Reading F) :
    Explanations.courses (config.sighted before reading) =
      before.courses.measured ![1, 0] reading.accelerometerPitch
        (config.accelerometerPitchVariance / reading.accelerometerTrust) := by
  have row (state : Fin 2 → F) : ![1, 0] ⬝ᵥ state = state 0 := by
    simp [dotProduct, Fin.sum_univ_two]
  funext state cost
  unfold Courses.measured
  rw [row]
  rfl

/-- The filter understands explanations by a belief that summarizes them. -/
def Understands (view : K → DocumentedKalmanFilter F) (filter : K) (explanations : Explanations F) :
    Prop :=
  ∃ belief base, Holds view filter belief ∧ belief.Summarizes base explanations.courses

theorem restart_understands (documented : FiltersAsDocumented view)
    (pitchFilter : KalmanPitchFilter K F) (positive : pitchFilter.config.Positive) (restart : F) :
    Understands view (pitchFilter.restart restart).filter (pitchFilter.config.restarted restart) := by
  refine ⟨_, 0, restart_holds documented pitchFilter positive restart, ?_⟩
  rw [restarted_courses positive]
  exact Belief.summarizes_start _

/-- A reading keeps the understanding. -/
theorem read_understands (documented : FiltersAsDocumented view)
    {pitchFilter : KalmanPitchFilter K F} (positive : pitchFilter.config.Positive)
    {explanations : Explanations F}
    (understands : Understands view pitchFilter.filter explanations) {reading : Reading F}
    (elapsed : 0 < reading.intervalSeconds) :
    Understands view (pitchFilter.read reading).2.filter
        (pitchFilter.config.explained explanations reading) ∧
      (pitchFilter.read reading).2.config = pitchFilter.config := by
  obtain ⟨belief, base, holds, summarizes⟩ := understands
  have predicts := predict_holds documented positive holds reading.pitchRate elapsed
  have moves := summarizes.moved (transition reading.intervalSeconds)
    ![reading.pitchRate * reading.intervalSeconds, 0] (Config.noise positive elapsed)
  rw [← drifted_courses positive explanations elapsed] at moves
  have result : (pitchFilter.read reading).2 =
      if reading.accelerometerTrust ≥ pitchFilter.config.minimumTrust then
        (pitchFilter.predict reading.pitchRate reading.intervalSeconds).correct
          reading.accelerometerPitch reading.accelerometerTrust
      else pitchFilter.predict reading.pitchRate reading.intervalSeconds := rfl
  rw [result, Config.explained]
  split
  · rename_i trusted
    have noisy := div_pos positive.accelerometerPitchVariance (positive.minimumTrust.trans_le trusted)
    have corrects := correct_holds documented predicts reading.accelerometerPitch noisy
    have measures := moves.measured ![1, 0] reading.accelerometerPitch noisy
    rw [← sighted_courses] at measures
    exact ⟨⟨_, _, corrects, measures⟩, rfl⟩
  · exact ⟨⟨_, _, predicts, moves⟩, rfl⟩

/-- Restarted, the filter understands every explanation of its readings, and its last estimate is the
pitch of its state. -/
theorem after_understands (documented : FiltersAsDocumented view)
    {pitchFilter : KalmanPitchFilter K F} (positive : pitchFilter.config.Positive) (restart : F)
    {readings : List (Reading F)} (elapsed : ∀ reading ∈ readings, 0 < reading.intervalSeconds) :
    Understands view (pitchFilter.after restart readings).2.filter
        (pitchFilter.config.explanations restart readings) ∧
      (pitchFilter.after restart readings).2.config = pitchFilter.config ∧
      (pitchFilter.after restart readings).1 =
        (KalmanFilter.getState (pitchFilter.after restart readings).2.filter).1 := by
  induction readings using List.reverseRecOn with
  | nil =>
      refine ⟨restart_understands documented pitchFilter positive restart, rfl, ?_⟩
      have begun : pitchFilter.after restart [] = (restart, pitchFilter.restart restart) := rfl
      rw [begun, documented.getState, (restart_holds documented pitchFilter positive restart).state]
      rfl
  | append_singleton readings reading ih =>
      obtain ⟨understands, same, -⟩ := ih fun earlier listed =>
        elapsed earlier (List.mem_append_left _ listed)
      have now := elapsed reading (List.mem_append_right _ List.mem_cons_self)
      obtain ⟨reads, kept⟩ := read_understands documented (same ▸ positive) understands now
      have last : pitchFilter.after restart (readings ++ [reading]) =
          (pitchFilter.after restart readings).2.read reading := List.foldl_append
      have explained : pitchFilter.config.explanations restart (readings ++ [reading]) =
          pitchFilter.config.explained (pitchFilter.config.explanations restart readings) reading :=
        List.foldl_append
      rw [last, explained]
      rw [same] at reads
      exact ⟨reads, kept.trans same, rfl⟩

/-- Restarted, the filter estimates the pitch and the bias that explain its readings best: at the
least cost of all, and nothing else comes as cheap. -/
theorem estimate_explains_best (documented : FiltersAsDocumented view)
    {pitchFilter : KalmanPitchFilter K F} (positive : pitchFilter.config.Positive) (restart : F)
    {readings : List (Reading F)} (elapsed : ∀ reading ∈ readings, 0 < reading.intervalSeconds) :
    ∃ least,
      pitchFilter.config.explanations restart readings (pitchFilter.after restart readings).1
        (pitchFilter.after restart readings).2.estimatedBias least ∧
      ∀ pitch bias cost, pitchFilter.config.explanations restart readings pitch bias cost →
        least ≤ cost ∧ (cost = least → pitch = (pitchFilter.after restart readings).1 ∧
          bias = (pitchFilter.after restart readings).2.estimatedBias) := by
  obtain ⟨⟨belief, least, holds, summarizes⟩, -, estimate⟩ :=
    after_understands documented positive restart elapsed
  obtain ⟨attained, cheapest⟩ := summarizes.cheapest
  have pitch : (pitchFilter.after restart readings).1 = belief.mean 0 := by
    rw [estimate, documented.getState, holds.state]
  have bias : (pitchFilter.after restart readings).2.estimatedBias = belief.mean 1 := by
    rw [estimatedBias, documented.getState, holds.state]
  rw [pitch, bias]
  refine ⟨least, attained, ?_⟩
  intro pitch bias cost explained
  obtain ⟨dearer, only⟩ := cheapest ![pitch, bias] cost explained
  refine ⟨dearer, ?_⟩
  intro equal
  have same := only equal
  exact ⟨congrFun same 0, congrFun same 1⟩

/-- A reading with trust corrects the default filter, and one without any only predicts. -/
theorem tilting_estimate_explains_best :
    let pitchFilter : KalmanPitchFilter (DocumentedKalmanFilter ℚ) ℚ := construct Config.default
    let readings : List (Reading ℚ) := [⟨1 / 10, 1 / 20, 1, 1 / 100⟩, ⟨1 / 10, 1, 0, 1 / 100⟩]
    ∃ least,
      pitchFilter.config.explanations 0 readings (pitchFilter.after 0 readings).1
        (pitchFilter.after 0 readings).2.estimatedBias least ∧
      ∀ pitch bias cost, pitchFilter.config.explanations 0 readings pitch bias cost →
        least ≤ cost ∧ (cost = least → pitch = (pitchFilter.after 0 readings).1 ∧
          bias = (pitchFilter.after 0 readings).2.estimatedBias) :=
  estimate_explains_best documented_as_documented Config.default_positive 0 (by simp)

end KalmanPitchFilter
end InvertedPendulum.Estimation
