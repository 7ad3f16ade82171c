import InvertedPendulum.Sensing.InertialSensing

namespace InvertedPendulum.Estimation
open Platform Sensing

inductive Filter where
  | complementary
  | kalman
  deriving DecidableEq

inductive InvalidCause where
  | none
  | sensing
  | converging
  deriving DecidableEq

structure Estimate (F : Type) where
  pitch : F
  pitchRate : F
  valid : Bool
  cause : InvalidCause
  deriving DecidableEq

/-- This interface turns each measurement into an estimate. -/
class AttitudeEstimation (σ : Type) (F : outParam Type) where
  update : σ → Measurement F → Estimate F × σ

/-- A pitch filter restarts from a pitch and fuses the rate with the accelerometer pitch. -/
class PitchFilter (σ : Type) (F : outParam Type) where
  restart : σ → F → σ
  update : σ → (pitchRate accelerometerPitch accelerometerTrust intervalSeconds : F) → F × σ

/-- These functions of `<cmath>` turn an acceleration into an angle and a magnitude. -/
class FloatGeometry (F : Type) where
  atan2 : F → F → F
  sqrt : F → F

/-- `std::chrono::duration<float>` counts seconds. -/
def seconds {F : Type} [FloatArithmetic F] (interval : Duration) : F :=
  ((interval / 1000000000 : ℚ) : F)

section Angles
variable {F : Type} [FloatArithmetic F] [FloatGeometry F]

def standardGravity : F := ((980665 / 100000 : ℚ) : F)

def pitchRateAboutBodyY (angularRate : InertialAxes F) : F := -angularRate.y

def accelerometerPitch (acceleration : InertialAxes F) : F :=
  FloatGeometry.atan2 (-acceleration.x) (-acceleration.z)

def accelerometerTrust (acceleration : InertialAxes F) (accelerationBand : F) : F :=
  let magnitude := FloatGeometry.sqrt (acceleration.x * acceleration.x +
    acceleration.y * acceleration.y + acceleration.z * acceleration.z)
  let deviation := fabs (magnitude - standardGravity) / (accelerationBand * standardGravity)
  clamp (1 - deviation) 0 1

end Angles

structure AttitudeEstimationImpl.Config (F : Type) where
  initialFilter : Filter
  convergenceInterval : Duration
  maximumInterval : Duration
  accelerationBand : F

structure AttitudeEstimationImpl (F Complementary Kalman : Type) where
  config : AttitudeEstimationImpl.Config F
  complementary : Complementary
  kalman : Kalman
  selected : Filter
  running : Bool
  previousSample : TimePoint
  convergenceStarted : TimePoint
  latest : Estimate F

namespace AttitudeEstimationImpl
variable {F Complementary Kalman : Type} [FloatArithmetic F]

def Config.default : Config F where
  initialFilter := .complementary
  convergenceInterval := milliseconds 500
  maximumInterval := microseconds 10000
  accelerationBand := ((15 / 100 : ℚ) : F)

/-- An estimate starts out invalid. -/
def noEstimate : Estimate F := ⟨0, 0, false, .sensing⟩

def construct (config : Config F) (complementary : Complementary) (kalman : Kalman) :
    AttitudeEstimationImpl F Complementary Kalman where
  config
  complementary
  kalman
  selected := config.initialFilter
  running := false
  previousSample := 0
  convergenceStarted := 0
  latest := noEstimate

def select (estimation : AttitudeEstimationImpl F Complementary Kalman) (filter : Filter) :
    AttitudeEstimationImpl F Complementary Kalman :=
  { estimation with
    selected := filter
    running := false
    latest := { estimation.latest with valid := false, cause := .converging } }

variable [FloatGeometry F] [PitchFilter Complementary F] [PitchFilter Kalman F]

/-- The selected filter restarts. -/
def restartActive (estimation : AttitudeEstimationImpl F Complementary Kalman) (pitch : F) :
    AttitudeEstimationImpl F Complementary Kalman :=
  match estimation.selected with
  | .kalman => { estimation with kalman := PitchFilter.restart estimation.kalman pitch }
  | .complementary =>
      { estimation with complementary := PitchFilter.restart estimation.complementary pitch }

/-- The selected filter fuses one measurement. -/
def updateActive (estimation : AttitudeEstimationImpl F Complementary Kalman)
    (pitchRate accelerometerPitch accelerometerTrust intervalSeconds : F) :
    F × AttitudeEstimationImpl F Complementary Kalman :=
  match estimation.selected with
  | .kalman =>
      let (pitch, kalman) := PitchFilter.update estimation.kalman pitchRate accelerometerPitch
        accelerometerTrust intervalSeconds
      (pitch, { estimation with kalman })
  | .complementary =>
      let (pitch, complementary) := PitchFilter.update estimation.complementary pitchRate
        accelerometerPitch accelerometerTrust intervalSeconds
      (pitch, { estimation with complementary })

def restart (estimation : AttitudeEstimationImpl F Complementary Kalman)
    (measurement : Measurement F) : Estimate F × AttitudeEstimationImpl F Complementary Kalman :=
  let pitch := accelerometerPitch measurement.acceleration
  (⟨pitch, pitchRateAboutBodyY measurement.angularRate, false, .converging⟩,
    { estimation.restartActive pitch with
      running := true
      convergenceStarted := measurement.sampledAt })

def fuse (estimation : AttitudeEstimationImpl F Complementary Kalman)
    (measurement : Measurement F) (interval : Duration) :
    Estimate F × AttitudeEstimationImpl F Complementary Kalman :=
  let pitchRate := pitchRateAboutBodyY measurement.angularRate
  let (pitch, updated) := estimation.updateActive pitchRate
    (accelerometerPitch measurement.acceleration)
    (accelerometerTrust measurement.acceleration estimation.config.accelerationBand)
    (seconds interval)
  let converged : Bool :=
    measurement.sampledAt - estimation.convergenceStarted ≥ estimation.config.convergenceInterval
  (⟨pitch, pitchRate, converged, if converged then .none else .converging⟩, updated)

def update (estimation : AttitudeEstimationImpl F Complementary Kalman)
    (measurement : Measurement F) : Estimate F × AttitudeEstimationImpl F Complementary Kalman :=
  if ! measurement.valid then
    let invalid : Estimate F := ⟨estimation.latest.pitch, 0, false, .sensing⟩
    (invalid, { estimation with running := false, latest := invalid })
  else
    let interval := measurement.sampledAt - estimation.previousSample
    let (estimate, advanced) :=
      if ! estimation.running ∨ interval ≤ 0 ∨ interval > estimation.config.maximumInterval then
        estimation.restart measurement
      else estimation.fuse measurement interval
    (estimate, { advanced with latest := estimate, previousSample := measurement.sampledAt })

instance : AttitudeEstimation (AttitudeEstimationImpl F Complementary Kalman) F where
  update := update

/-- A valid estimate comes from a valid measurement. -/
theorem update_valid {estimation : AttitudeEstimationImpl F Complementary Kalman}
    {measurement : Measurement F} (valid : (estimation.update measurement).1.valid = true) :
    measurement.valid = true := by
  unfold update at valid
  split at valid
  · cases valid
  · rename_i measured
    simpa using measured

end AttitudeEstimationImpl
end InvertedPendulum.Estimation
