import InvertedPendulum.Platform

namespace InvertedPendulum.Sensing
open Platform

inductive CalibrationState where
  | uncalibrated
  | calibrating
  | calibrated
  | failed
  deriving DecidableEq

inductive InvalidCause where
  | none
  | neverSampled
  | stale
  | transferFailed
  | uncalibrated
  deriving DecidableEq

structure Measurement (F : Type) where
  angularRate : InertialAxes F
  acceleration : InertialAxes F
  sampledAt : TimePoint
  valid : Bool
  cause : InvalidCause

/-- This interface reports the sensor and runs the gyroscope calibration. -/
class InertialSensing (σ : Type) where
  cause : σ → InvalidCause
  startCalibration : σ → σ
  calibration : σ → CalibrationState

structure InertialSensingImpl.Config (F : Type) where
  samplePeriod : Duration
  calibrationWindow : Duration
  stillnessThreshold : F
  stalePeriods : UInt8

structure InertialSensingImpl (F : Type) where
  config : InertialSensingImpl.Config F
  lastSample : InertialSample F
  sampled : Bool
  calibration : CalibrationState
  bias : InertialAxes F
  biasSum : InertialAxes F
  biasSamples : UInt32
  calibrationStarted : TimePoint
  lastCalibrationSample : TimePoint

namespace InertialSensingImpl
variable {F : Type} [FloatArithmetic F]

def Config.default : Config F where
  samplePeriod := microseconds 1000
  calibrationWindow := milliseconds 1000
  stillnessThreshold := ((9 / 100 : ℚ) : F)
  stalePeriods := 3

def noRate : InertialAxes F := ⟨0, 0, 0⟩

/-- The constructor checks its configuration before it starts the sensor. -/
def construct (config : Config F) : Option (InertialSensingImpl F) :=
  if 0 < config.samplePeriod ∧ 0 < config.calibrationWindow ∧ 0 < config.stillnessThreshold ∧
      0 < config.stalePeriods then
    some {
      config
      lastSample := ⟨noRate, noRate, 0, false⟩
      sampled := false
      calibration := .uncalibrated
      bias := noRate
      biasSum := noRate
      biasSamples := 0
      calibrationStarted := 0
      lastCalibrationSample := 0 }
  else none

def still (sensing : InertialSensingImpl F) (rate : InertialAxes F) : Bool :=
  fabs rate.x ≤ sensing.config.stillnessThreshold ∧
    fabs rate.y ≤ sensing.config.stillnessThreshold ∧
    fabs rate.z ≤ sensing.config.stillnessThreshold

def gapSince (sensing : InertialSensingImpl F) (previous now : TimePoint) : Bool :=
  now - previous > sensing.config.stalePeriods.toNat * sensing.config.samplePeriod

def stale (sensing : InertialSensingImpl F) (now : TimePoint) : Bool :=
  sensing.gapSince sensing.lastSample.sampledAt now

/-- The assertion on the sample count stops the firmware where it fails. -/
def concludeCalibration (sensing : InertialSensingImpl F) : Option (InertialSensingImpl F) :=
  if sensing.biasSamples > 0 then
    let count : F := ((sensing.biasSamples.toNat : ℚ) : F)
    some { sensing with
      bias := ⟨sensing.biasSum.x / count, sensing.biasSum.y / count, sensing.biasSum.z / count⟩
      calibration := .calibrated }
  else none

def accumulate (sensing : InertialSensingImpl F) (sample : InertialSample F) :
    Option (InertialSensingImpl F) :=
  if ! sensing.still sample.angularRate then some { sensing with calibration := .failed }
  else if sensing.gapSince
      (if sensing.biasSamples = 0 then sensing.calibrationStarted else sensing.lastCalibrationSample)
      sample.sampledAt then
    some { sensing with calibration := .failed }
  else
    let summed := { sensing with
      lastCalibrationSample := sample.sampledAt
      biasSum := ⟨sensing.biasSum.x + sample.angularRate.x, sensing.biasSum.y + sample.angularRate.y,
        sensing.biasSum.z + sample.angularRate.z⟩
      biasSamples := sensing.biasSamples + 1 }
    if sample.sampledAt - summed.calibrationStarted ≥ summed.config.calibrationWindow then
      summed.concludeCalibration
    else some summed

/-- This is `OnSample` up to the notification of the measurement. -/
def onSample (sensing : InertialSensingImpl F) (sample : InertialSample F) :
    Option (InertialSensingImpl F) :=
  let seen := { sensing with lastSample := sample, sampled := true }
  if ! sample.valid ∧ seen.calibration = .calibrating then some { seen with calibration := .failed }
  else if seen.calibration = .calibrating then seen.accumulate sample
  else some seen

def cause (sensing : InertialSensingImpl F) (now : TimePoint) : InvalidCause :=
  if ! sensing.sampled then .neverSampled
  else if ! sensing.lastSample.valid then .transferFailed
  else if sensing.stale now then .stale
  else if sensing.calibration ≠ .calibrated then .uncalibrated
  else .none

def latest (sensing : InertialSensingImpl F) (now : TimePoint) : Measurement F :=
  let cause := sensing.cause now
  if ! sensing.sampled then ⟨noRate, noRate, 0, false, cause⟩
  else {
    acceleration := sensing.lastSample.acceleration
    sampledAt := sensing.lastSample.sampledAt
    angularRate := ⟨sensing.lastSample.angularRate.x - sensing.bias.x,
      sensing.lastSample.angularRate.y - sensing.bias.y,
      sensing.lastSample.angularRate.z - sensing.bias.z⟩
    valid := cause = .none
    cause }

def startCalibration (sensing : InertialSensingImpl F) (now : TimePoint) : InertialSensingImpl F :=
  { sensing with
    calibration := .calibrating
    biasSum := noRate
    biasSamples := 0
    calibrationStarted := now
    lastCalibrationSample := now }

def gyroscopeBias (sensing : InertialSensingImpl F) : InertialAxes F := sensing.bias

omit [FloatArithmetic F] in
/-- A measurement without a cause comes from a calibrated gyroscope. -/
theorem cause_none {sensing : InertialSensingImpl F} {now : TimePoint}
    (clear : sensing.cause now = .none) : sensing.calibration = .calibrated := by
  unfold cause at clear
  split_ifs at clear with _ _ _ missing
  exact Decidable.not_not.mp missing

/-- A valid measurement comes from a calibrated gyroscope. -/
theorem latest_valid {sensing : InertialSensingImpl F} {now : TimePoint}
    (valid : (sensing.latest now).valid = true) : sensing.calibration = .calibrated := by
  unfold latest at valid
  split at valid
  · cases valid
  · exact cause_none (of_decide_eq_true valid)

/-- The first sample of a calibration fails it when it is invalid, moving or late. -/
def FailsFirst (sensing : InertialSensingImpl F) (sample : InertialSample F) : Prop :=
  sample.valid = false ∨ sensing.still sample.angularRate = false ∨
    sensing.gapSince sensing.calibrationStarted sample.sampledAt = true

/-- A sample changes the state of a running calibration alone. -/
theorem onSample_settled {sensing after : InertialSensingImpl F} {sample : InertialSample F}
    (settled : sensing.calibration ≠ .calibrating) (sampled : sensing.onSample sample = some after) :
    after.calibration = sensing.calibration := by
  simp only [onSample, settled, and_false, if_false] at sampled
  obtain rfl := Option.some.inj sampled
  rfl

/-- A sample changes neither the configuration nor the start of the calibration, and so not which
first sample would fail it. -/
theorem onSample_fails {sensing after : InertialSensingImpl F} {sample : InertialSample F}
    (sampled : sensing.onSample sample = some after) (first : InertialSample F) :
    after.FailsFirst first ↔ sensing.FailsFirst first := by
  simp only [onSample, accumulate, concludeCalibration] at sampled
  split_ifs at sampled <;> obtain rfl := Option.some.inj sampled <;> exact Iff.rfl

/-- A sample never makes a gyroscope uncalibrated. -/
theorem onSample_started {sensing after : InertialSensingImpl F} {sample : InertialSample F}
    (started : sensing.calibration ≠ .uncalibrated)
    (sampled : sensing.onSample sample = some after) : after.calibration ≠ .uncalibrated := by
  simp only [onSample, accumulate, concludeCalibration] at sampled
  split_ifs at sampled <;> obtain rfl := Option.some.inj sampled <;> simp_all

/-- The first accumulated sample fails the calibration when it is moving or late. -/
theorem accumulate_first {sensing after : InertialSensingImpl F} {sample : InertialSample F}
    (running : sensing.calibration = .calibrating) (empty : sensing.biasSamples = 0)
    (accumulated : sensing.accumulate sample = some after) :
    after.calibration = .failed ↔ sensing.still sample.angularRate = false ∨
      sensing.gapSince sensing.calibrationStarted sample.sampledAt = true := by
  simp only [accumulate, empty, if_true, concludeCalibration] at accumulated
  split_ifs at accumulated with moving late finished
  · obtain rfl := Option.some.inj accumulated
    exact iff_of_true rfl (.inl (by simpa using moving))
  · obtain rfl := Option.some.inj accumulated
    exact iff_of_true rfl (.inr late)
  · obtain rfl := Option.some.inj accumulated
    simp_all
  · obtain rfl := Option.some.inj accumulated
    simp_all

/-- The first sample of a calibration fails it or lets it go on. -/
theorem onSample_first {sensing after : InertialSensingImpl F} {sample : InertialSample F}
    (running : sensing.calibration = .calibrating) (empty : sensing.biasSamples = 0)
    (sampled : sensing.onSample sample = some after) :
    after.calibration = .failed ↔ sensing.FailsFirst sample := by
  unfold FailsFirst
  cases valid : sample.valid with
  | false =>
      simp only [onSample, valid, running, Bool.not_false, and_self, if_true] at sampled
      obtain rfl := Option.some.inj sampled
      simp
  | true =>
      have accumulated : { sensing with lastSample := sample, sampled := true }.accumulate sample =
          some after := by
        simpa [onSample, valid, running] using sampled
      have first := @accumulate_first F _ { sensing with lastSample := sample, sampled := true }
        after sample running empty accumulated
      simp only [Bool.true_eq_false, false_or]
      exact first

end InertialSensingImpl
end InvertedPendulum.Sensing
