import InvertedPendulum.Sensing.Calibration

namespace InvertedPendulum.Sensing
open Platform

namespace InertialSensingImpl

/-- A sample leaves the configuration alone. -/
theorem onSample_config {F : Type} [FloatArithmetic F] {sensing next : InertialSensingImpl F}
    {sample : InertialSample F} (sampled : sensing.onSample sample = some next) :
    next.config = sensing.config := by
  simp only [onSample, accumulate, concludeCalibration] at sampled
  split_ifs at sampled <;> obtain rfl := Option.some.inj sampled <;> rfl

variable {F : Type} [Field F] [LinearOrder F] {rate acceleration : InertialAxes F}
  {started time : TimePoint} {count : Nat} {sensing : InertialSensingImpl F}

/-- A configuration that the constructor accepts. -/
structure Config.Accepted (config : Config F) : Prop where
  period : 0 < config.samplePeriod
  window : 0 < config.calibrationWindow
  threshold : 0 < config.stillnessThreshold
  periods : 0 < config.stalePeriods

theorem construct_accepts {config : Config F} (constructed : construct config = some sensing) :
    config.Accepted ∧ sensing.config = config := by
  unfold construct at constructed
  split at constructed
  · rename_i accepted
    obtain ⟨period, window, threshold, periods⟩ := accepted
    obtain rfl := Option.some.inj constructed
    exact ⟨⟨period, window, threshold, periods⟩, rfl⟩
  · cases constructed

/-- A sample that comes one period after another is not late. -/
theorem Config.Accepted.timely {config : Config F} (accepted : config.Accepted) :
    config.samplePeriod ≤ config.staleness := by
  have periods : (1 : Int) ≤ config.stalePeriods.toNat := by
    exact_mod_cast UInt8.lt_iff_toNat_lt.mp accepted.periods
  calc config.samplePeriod = 1 * config.samplePeriod := (one_mul _).symm
    _ ≤ config.stalePeriods.toNat * config.samplePeriod :=
        mul_le_mul_of_nonneg_right periods accepted.period.le

/-- The sensor reads a constant rate and a constant acceleration on a robot that is held. -/
def held (rate acceleration : InertialAxes F) (sampledAt : TimePoint) : InertialSample F :=
  ⟨rate, acceleration, sampledAt, true⟩

/-- The last sample has just come from the held robot. -/
structure Sees (rate acceleration : InertialAxes F) (time : TimePoint)
    (sensing : InertialSensingImpl F) : Prop where
  sampled : sensing.sampled = true
  last : sensing.lastSample = held rate acceleration time

theorem Sees.cause (sees : Sees rate acceleration time sensing)
    (accepted : sensing.config.Accepted) :
    sensing.cause time = if sensing.calibration ≠ .calibrated then .uncalibrated else .none := by
  have fresh : sensing.stale time = false := by
    have staleness : 0 ≤ sensing.config.stalePeriods.toNat * sensing.config.samplePeriod :=
      accepted.period.le.trans accepted.timely
    unfold stale gapSince
    rw [sees.last, decide_eq_false_iff_not, held, sub_self]
    exact not_lt.mpr staleness
  unfold InertialSensingImpl.cause
  rw [sees.sampled, fresh, sees.last]
  rfl

/-- The measurement of the held robot is valid exactly where the gyroscope is calibrated. -/
theorem Sees.latest (sees : Sees rate acceleration time sensing)
    (accepted : sensing.config.Accepted) :
    (sensing.latest time).acceleration = acceleration ∧
      (sensing.latest time).sampledAt = time ∧
      (sensing.latest time).angularRate.y = rate.y - sensing.bias.y ∧
      ((sensing.latest time).valid = true ↔ sensing.calibration = .calibrated) := by
  unfold InertialSensingImpl.latest
  rw [sees.cause accepted, sees.sampled, sees.last]
  refine ⟨rfl, rfl, rfl, ?_⟩
  simp

/-- A settled calibration sees the sample and nothing else. -/
theorem settled_sees (rate acceleration : InertialAxes F)
    (settled : sensing.calibration ≠ .calibrating) (time : TimePoint) :
    sensing.onSample (held rate acceleration time) =
        some (sensing.seen (held rate acceleration time)) ∧
      Sees rate acceleration time (sensing.seen (held rate acceleration time)) := by
  rw [onSample_eq, if_neg settled]
  exact ⟨rfl, rfl, rfl⟩

/-- No calibration survives a rest that is longer than the longest gap. -/
theorem rested_sees (rate acceleration : InertialAxes F)
    (rested : sensing.gapSince sensing.origin time = true) :
    ∃ next, sensing.onSample (held rate acceleration time) = some next ∧
      Sees rate acceleration time next ∧ next.calibration ≠ .calibrating := by
  by_cases running : sensing.calibration = .calibrating
  · rw [onSample_eq, if_pos running, if_pos (.inr (.inr rested))]
    exact ⟨_, rfl, ⟨rfl, rfl⟩, by simp⟩
  · obtain ⟨answered, sees⟩ := settled_sees rate acceleration running time
    exact ⟨_, answered, sees, running⟩

/-- After so many samples the calibration has summed their rates, up to this time. -/
structure Summing (rate : InertialAxes F) (started time : TimePoint) (count : Nat)
    (sensing : InertialSensingImpl F) : Prop where
  running : sensing.calibration = .calibrating
  counted : sensing.biasSamples.toNat = count
  sum : sensing.biasSum = ⟨count * rate.x, count * rate.y, count * rate.z⟩
  since : sensing.calibrationStarted = started
  last : sensing.lastCalibrationSample = time
  begun : count = 0 → time = started

theorem startCalibration_sums (sensing : InertialSensingImpl F) (now : TimePoint) :
    Summing rate now now 0 (sensing.startCalibration now) := by
  constructor <;> simp [startCalibration, noRate]

omit [LinearOrder F] in
/-- The gap of the next sample counts from the last one. -/
theorem Summing.origin (summing : Summing rate started time count sensing) :
    sensing.origin = time := by
  unfold InertialSensingImpl.origin
  split
  · rename_i none
    have counted := summing.counted
    rw [none] at counted
    exact summing.since.trans (summing.begun counted.symm).symm
  · exact summing.last

variable [IsStrictOrderedRing F]

/-- The calibration takes the next sample of the held robot. -/
theorem Summing.taken (summing : Summing rate started time count sensing)
    (accepted : sensing.config.Accepted)
    (still : Within sensing.config (held rate acceleration time)) :
    sensing.Taken (held rate acceleration (time + sensing.config.samplePeriod)) := by
  refine ⟨rfl, (still_iff sensing _).mpr still, ?_⟩
  unfold gapSince
  rw [summing.origin, decide_eq_false_iff_not, held, add_sub_cancel_left]
  exact not_lt.mpr accepted.timely

omit [IsStrictOrderedRing F] in
/-- The sum takes one more rate. -/
theorem Summing.summed (summing : Summing rate started time count sensing)
    (acceleration : InertialAxes F) (few : count + 1 < 2 ^ 32) (later : TimePoint) :
    Summing rate started later (count + 1) (sensing.summed (held rate acceleration later)) := by
  refine ⟨summing.running, ?_, ?_, summing.since, rfl, nofun⟩
  · have one : (1 : UInt32).toNat = 1 := rfl
    show (sensing.biasSamples + 1).toNat = count + 1
    rw [UInt32.toNat_add, one, summing.counted]
    exact Nat.mod_eq_of_lt few
  · show (⟨_, _, _⟩ : InertialAxes F) = _
    rw [summing.sum]
    simp only [held, Nat.cast_add, Nat.cast_one, add_one_mul]

/-- Before the end of its window the calibration goes on with one more rate. -/
theorem Summing.goesOn (summing : Summing rate started time count sensing)
    (accepted : sensing.config.Accepted)
    (still : Within sensing.config (held rate acceleration time)) (few : count + 1 < 2 ^ 32)
    (early : time + sensing.config.samplePeriod - started < sensing.config.calibrationWindow) :
    ∃ next, sensing.onSample (held rate acceleration (time + sensing.config.samplePeriod)) =
        some next ∧
      Sees rate acceleration (time + sensing.config.samplePeriod) next ∧
      Summing rate started (time + sensing.config.samplePeriod) (count + 1) next := by
  have taken := summing.taken accepted still
  have early : (held rate acceleration (time + sensing.config.samplePeriod)).sampledAt -
      sensing.calibrationStarted < sensing.config.calibrationWindow := by
    rw [summing.since]
    exact early
  rw [onSample_eq, if_pos summing.running, if_neg (mt refused_iff.mpr (not_not.mpr taken)),
    if_neg (not_le.mpr early)]
  exact ⟨_, rfl, ⟨rfl, rfl⟩, summing.summed acceleration few _⟩

/-- At the end of its window the calibration takes the constant rate for its bias. -/
theorem Summing.completes (summing : Summing rate started time count sensing)
    (accepted : sensing.config.Accepted)
    (still : Within sensing.config (held rate acceleration time)) (few : count + 1 < 2 ^ 32)
    (full : sensing.config.calibrationWindow ≤ time + sensing.config.samplePeriod - started) :
    ∃ next, sensing.onSample (held rate acceleration (time + sensing.config.samplePeriod)) =
        some next ∧
      Sees rate acceleration (time + sensing.config.samplePeriod) next ∧
      next.calibration = .calibrated ∧ next.bias = rate := by
  have taken := summing.taken accepted still
  have summed := summing.summed acceleration few
    (time + sensing.config.samplePeriod)
  have positive : (sensing.summed (held rate acceleration
      (time + sensing.config.samplePeriod))).biasSamples > 0 := by
    rw [gt_iff_lt, UInt32.lt_iff_toNat_lt, summed.counted]
    exact Nat.succ_pos count
  have nonzero : ((count + 1 : Nat) : F) ≠ 0 := Nat.cast_ne_zero.mpr (Nat.succ_ne_zero count)
  have full : sensing.config.calibrationWindow ≤ (held rate acceleration
      (time + sensing.config.samplePeriod)).sampledAt - sensing.calibrationStarted := by
    rw [summing.since]
    exact full
  rw [onSample_eq, if_pos summing.running, if_neg (mt refused_iff.mpr (not_not.mpr taken)),
    if_pos full, concludeCalibration, if_pos positive]
  refine ⟨_, rfl, ⟨rfl, rfl⟩, rfl, ?_⟩
  show (⟨_, _, _⟩ : InertialAxes F) = rate
  have counted : (((((count + 1 : Nat) : ℚ)) : F)) = ((count + 1 : Nat) : F) := by push_cast; rfl
  rw [summed.sum, summed.counted, counted]
  simp only [mul_div_cancel_left₀ _ nonzero]

end InertialSensingImpl
end InvertedPendulum.Sensing
