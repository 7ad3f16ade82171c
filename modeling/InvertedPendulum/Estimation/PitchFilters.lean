import InvertedPendulum.Estimation.AttitudeEstimation

namespace InvertedPendulum.Estimation

/-- `filters::ComplementaryFilter<float>` -/
class ComplementaryFilter (C : Type) (F : outParam Type) where
  alphaFromTau : (tau interval : F) → F
  construct : (alpha interval : F) → C
  reset : C → F → C
  setAlpha : C → F → C
  update : C → (rate reference interval : F) → F × C

structure ComplementaryPitchFilter.Config (F : Type) where
  crossoverSeconds : F
  nominalIntervalSeconds : F

structure ComplementaryPitchFilter (C F : Type) where
  crossoverSeconds : F
  filter : C

namespace ComplementaryPitchFilter
variable {C F : Type} [FloatArithmetic F] [ComplementaryFilter C F]

def Config.default : Config F where
  crossoverSeconds := ((5 / 10 : ℚ) : F)
  nominalIntervalSeconds := ((1 / 1000 : ℚ) : F)

def construct (config : Config F) : ComplementaryPitchFilter C F where
  crossoverSeconds := config.crossoverSeconds
  filter := ComplementaryFilter.construct
    (ComplementaryFilter.alphaFromTau C config.crossoverSeconds config.nominalIntervalSeconds)
    config.nominalIntervalSeconds

def restart (pitchFilter : ComplementaryPitchFilter C F) (pitch : F) :
    ComplementaryPitchFilter C F :=
  { pitchFilter with filter := ComplementaryFilter.reset pitchFilter.filter pitch }

def update (pitchFilter : ComplementaryPitchFilter C F)
    (pitchRate accelerometerPitch accelerometerTrust intervalSeconds : F) :
    F × ComplementaryPitchFilter C F :=
  let gyroscopeWeight :=
    ComplementaryFilter.alphaFromTau C pitchFilter.crossoverSeconds intervalSeconds
  let trust := clamp accelerometerTrust 0 1
  let weighted := ComplementaryFilter.setAlpha pitchFilter.filter (1 - (1 - gyroscopeWeight) * trust)
  let (pitch, filter) :=
    ComplementaryFilter.update weighted pitchRate accelerometerPitch intervalSeconds
  (pitch, { pitchFilter with filter })

instance : PitchFilter (ComplementaryPitchFilter C F) F where
  restart := restart
  update := update

end ComplementaryPitchFilter

namespace KalmanFilter

abbrev StateVector (F : Type) := F × F

/-- The matrix lists its two rows. -/
abbrev StateMatrix (F : Type) := (F × F) × (F × F)

/-- The matrix has one row. -/
abbrev MeasurementMatrix (F : Type) := F × F

/-- The matrix has one column. -/
abbrev ControlMatrix (F : Type) := F × F

end KalmanFilter

open KalmanFilter in
/-- `filters::KalmanFilter<float, 2, 1, 1>` has one measurement and one control. -/
class KalmanFilter (K : Type) (F : outParam Type) where
  construct : (state : StateVector F) → (covariance : StateMatrix F) → K
  setMeasurementMatrix : K → MeasurementMatrix F → K
  setStateTransition : K → StateMatrix F → K
  setControlInputMatrix : K → ControlMatrix F → K
  setProcessNoise : K → StateMatrix F → K
  predict : K → (control : F) → K
  setMeasurementNoise : K → F → K
  update : K → (measurement : F) → K
  getState : K → StateVector F

structure KalmanPitchFilter.Config (F : Type) where
  pitchNoiseDensity : F
  biasNoiseDensity : F
  accelerometerPitchVariance : F
  initialPitchVariance : F
  initialBiasVariance : F
  minimumTrust : F

/-- The constructor emplaces the optional filter, which is never empty after it. -/
structure KalmanPitchFilter (K F : Type) where
  config : KalmanPitchFilter.Config F
  filter : K

namespace KalmanPitchFilter
open KalmanFilter
variable {K F : Type} [FloatArithmetic F] [KalmanFilter K F]

def Config.default : Config F where
  pitchNoiseDensity := ((1 / 1000 : ℚ) : F)
  biasNoiseDensity := ((3 / 1000000 : ℚ) : F)
  accelerometerPitchVariance := ((3 / 1000 : ℚ) : F)
  initialPitchVariance := ((1 / 100 : ℚ) : F)
  initialBiasVariance := ((1 / 1000 : ℚ) : F)
  minimumTrust := ((5 / 100 : ℚ) : F)

/-- This is the filter that `Restart` emplaces. -/
def emplaced (config : Config F) (pitch : F) : K :=
  let filter : K := KalmanFilter.construct (pitch, 0)
    ((config.initialPitchVariance, 0), (0, config.initialBiasVariance))
  setMeasurementMatrix filter (1, 0)

def construct (config : Config F) : KalmanPitchFilter K F where
  config
  filter := emplaced config 0

def restart (pitchFilter : KalmanPitchFilter K F) (pitch : F) : KalmanPitchFilter K F :=
  { pitchFilter with filter := emplaced pitchFilter.config pitch }

def predict (pitchFilter : KalmanPitchFilter K F) (pitchRate intervalSeconds : F) :
    KalmanPitchFilter K F :=
  let filter := setStateTransition pitchFilter.filter ((1, -intervalSeconds), (0, 1))
  let filter := setControlInputMatrix filter (intervalSeconds, 0)
  let filter := setProcessNoise filter
    ((pitchFilter.config.pitchNoiseDensity * intervalSeconds, 0),
      (0, pitchFilter.config.biasNoiseDensity * intervalSeconds))
  { pitchFilter with filter := KalmanFilter.predict filter pitchRate }

def correct (pitchFilter : KalmanPitchFilter K F) (accelerometerPitch accelerometerTrust : F) :
    KalmanPitchFilter K F :=
  let filter := setMeasurementNoise pitchFilter.filter
    (pitchFilter.config.accelerometerPitchVariance / accelerometerTrust)
  { pitchFilter with filter := KalmanFilter.update filter accelerometerPitch }

def update (pitchFilter : KalmanPitchFilter K F)
    (pitchRate accelerometerPitch accelerometerTrust intervalSeconds : F) :
    F × KalmanPitchFilter K F :=
  let predicted := pitchFilter.predict pitchRate intervalSeconds
  let corrected :=
    if accelerometerTrust ≥ predicted.config.minimumTrust then
      predicted.correct accelerometerPitch accelerometerTrust
    else predicted
  ((getState corrected.filter).1, corrected)

def estimatedBias (pitchFilter : KalmanPitchFilter K F) : F := (getState pitchFilter.filter).2

instance : PitchFilter (KalmanPitchFilter K F) F where
  restart := restart
  update := update

end KalmanPitchFilter
end InvertedPendulum.Estimation
