import InvertedPendulum.Arithmetic.Exact
import InvertedPendulum.Reactive.Machine
import InvertedPendulum.Reactive.Timeline
import InvertedPendulum.Sensing.InertialSensing

namespace InvertedPendulum.Sensing
open Platform Reactive Machine

namespace InertialSensingImpl

section Window
variable {F : Type} [FloatArithmetic F]

/-- The sensor delivers samples, and the supervisor starts calibrations. -/
inductive Stimulus (F : Type) where
  | sample (sample : InertialSample F)
  | startCalibration (now : TimePoint)

def machine : Machine (InertialSensingImpl F) (Stimulus F) where
  step
    | sensing, .sample sample => sensing.onSample sample
    | sensing, .startCalibration now => some (sensing.startCalibration now)

/-- A window holds the samples since the last start, and the mean of the last window that completed. -/
structure Window (F : Type) where
  started : Option TimePoint
  samples : List (InertialSample F)
  completed : Option (InertialAxes F)

/-- No calibration has started before the first event. -/
def Window.fresh : Window F := ⟨none, [], none⟩

def sumRate (samples : List (InertialSample F)) : InertialAxes F where
  x := (samples.map fun sample => sample.angularRate.x).sum
  y := (samples.map fun sample => sample.angularRate.y).sum
  z := (samples.map fun sample => sample.angularRate.z).sum

def meanRate (samples : List (InertialSample F)) : InertialAxes F :=
  let count : F := ((samples.length : ℚ) : F)
  ⟨(sumRate samples).x / count, (sumRate samples).y / count, (sumRate samples).z / count⟩

def times (samples : List (InertialSample F)) : List TimePoint :=
  samples.map fun sample => sample.sampledAt

/-- A window completes where a calibration that ran has ended in success. -/
def Window.observe (window : Window F) (before : InertialSensingImpl F) :
    Stimulus F → InertialSensingImpl F → Window F
  | .startCalibration now, _ => { window with started := some now, samples := [] }
  | .sample sample, after =>
      let samples := window.samples ++ [sample]
      let ended := before.calibration = .calibrating ∧ after.calibration = .calibrated
      { window with samples, completed := if ended then some (meanRate samples) else window.completed }

omit [FloatArithmetic F] in
@[simp] theorem times_snoc (samples : List (InertialSample F)) (sample : InertialSample F) :
    times (samples ++ [sample]) = times samples ++ [sample.sampledAt] := List.map_append

/-- A sample that ends no calibration joins the window alone. -/
theorem Window.observe_goesOn (window : Window F) (sample : InertialSample F)
    {before after : InertialSensingImpl F}
    (unended : before.calibration = .calibrating → after.calibration ≠ .calibrated) :
    window.observe before (.sample sample) after =
      { window with samples := window.samples ++ [sample] } := by
  have unfinished : ¬ (before.calibration = .calibrating ∧ after.calibration = .calibrated) :=
    not_and.mpr unended
  unfold observe
  simp only [if_neg unfinished]

/-- A sample that ends a calibration joins the window, which leaves its mean. -/
theorem Window.observe_ends (window : Window F) (sample : InertialSample F)
    {before after : InertialSensingImpl F} (running : before.calibration = .calibrating)
    (calibrated : after.calibration = .calibrated) :
    window.observe before (.sample sample) after =
      { window with
        samples := window.samples ++ [sample]
        completed := some (meanRate (window.samples ++ [sample])) } := by
  unfold observe
  simp only [if_pos (And.intro running calibrated)]

end Window

section Outcome
variable {F : Type} [FloatArithmetic F]

/-- The first gap of a calibration counts from its start. -/
def origin (sensing : InertialSensingImpl F) : TimePoint :=
  if sensing.biasSamples = 0 then sensing.calibrationStarted else sensing.lastCalibrationSample

/-- A running calibration takes a valid, still sample that comes in time. -/
structure Taken (sensing : InertialSensingImpl F) (sample : InertialSample F) : Prop where
  valid : sample.valid = true
  still : sensing.still sample.angularRate = true
  timely : sensing.gapSince sensing.origin sample.sampledAt = false

def seen (sensing : InertialSensingImpl F) (sample : InertialSample F) : InertialSensingImpl F :=
  { sensing with lastSample := sample, sampled := true }

def summed (sensing : InertialSensingImpl F) (sample : InertialSample F) : InertialSensingImpl F :=
  { sensing.seen sample with
    lastCalibrationSample := sample.sampledAt
    biasSum := ⟨sensing.biasSum.x + sample.angularRate.x, sensing.biasSum.y + sample.angularRate.y,
      sensing.biasSum.z + sample.angularRate.z⟩
    biasSamples := sensing.biasSamples + 1 }

/-- A sample leaves a settled calibration alone, and a running one fails, goes on or completes. -/
inductive Sampled (sensing : InertialSensingImpl F) (sample : InertialSample F) :
    InertialSensingImpl F → Prop where
  | settled (settled : sensing.calibration ≠ .calibrating) :
      Sampled sensing sample (sensing.seen sample)
  | failed (running : sensing.calibration = .calibrating) (refused : ¬ sensing.Taken sample) :
      Sampled sensing sample { sensing.seen sample with calibration := .failed }
  | accumulated (running : sensing.calibration = .calibrating) (taken : sensing.Taken sample)
      (early : sample.sampledAt - sensing.calibrationStarted < sensing.config.calibrationWindow) :
      Sampled sensing sample (sensing.summed sample)
  | completed (running : sensing.calibration = .calibrating) (taken : sensing.Taken sample)
      (full : sensing.config.calibrationWindow ≤ sample.sampledAt - sensing.calibrationStarted) :
      Sampled sensing sample { sensing.summed sample with
        bias :=
          let sum := (sensing.summed sample).biasSum
          let count : F := (((sensing.summed sample).biasSamples.toNat : ℚ) : F)
          ⟨sum.x / count, sum.y / count, sum.z / count⟩
        calibration := .calibrated }

/-- This is `OnSample` in terms of the sample it has seen and the sum it takes. -/
theorem onSample_eq (sensing : InertialSensingImpl F) (sample : InertialSample F) :
    sensing.onSample sample =
      if sensing.calibration = .calibrating then
        if sample.valid = false ∨ sensing.still sample.angularRate = false ∨
            sensing.gapSince sensing.origin sample.sampledAt = true then
          some { sensing.seen sample with calibration := .failed }
        else if sensing.config.calibrationWindow ≤ sample.sampledAt - sensing.calibrationStarted then
          (sensing.summed sample).concludeCalibration
        else some (sensing.summed sample)
      else some (sensing.seen sample) := by
  have accumulates : (sensing.seen sample).accumulate sample =
      if ! sensing.still sample.angularRate then
        some { sensing.seen sample with calibration := .failed }
      else if sensing.gapSince sensing.origin sample.sampledAt then
        some { sensing.seen sample with calibration := .failed }
      else if sample.sampledAt - sensing.calibrationStarted ≥ sensing.config.calibrationWindow then
        (sensing.summed sample).concludeCalibration
      else some (sensing.summed sample) := rfl
  show (if ! sample.valid ∧ sensing.calibration = .calibrating then
      some { sensing.seen sample with calibration := .failed }
    else if sensing.calibration = .calibrating then (sensing.seen sample).accumulate sample
    else some (sensing.seen sample)) = _
  rw [accumulates]
  by_cases running : sensing.calibration = .calibrating
  · cases sample.valid <;> cases sensing.still sample.angularRate <;>
      cases sensing.gapSince sensing.origin sample.sampledAt <;> simp [running]
  · simp [running]

theorem taken_iff {sensing : InertialSensingImpl F} {sample : InertialSample F} :
    sensing.Taken sample ↔ sample.valid = true ∧ sensing.still sample.angularRate = true ∧
      sensing.gapSince sensing.origin sample.sampledAt = false := by
  constructor
  · intro taken
    exact ⟨taken.valid, taken.still, taken.timely⟩
  · intro given
    obtain ⟨valid, still, timely⟩ := given
    exact ⟨valid, still, timely⟩

/-- A running calibration refuses what it does not take. -/
theorem refused_iff {sensing : InertialSensingImpl F} {sample : InertialSample F} :
    ¬ sensing.Taken sample ↔ sample.valid = false ∨ sensing.still sample.angularRate = false ∨
      sensing.gapSince sensing.origin sample.sampledAt = true := by
  rw [taken_iff, not_and_or, not_and_or, Bool.not_eq_true, Bool.not_eq_true, Bool.not_eq_false]

/-- A sample is answered where it does not overflow the count of a running calibration. -/
theorem onSample_sampled (sensing : InertialSensingImpl F) (sample : InertialSample F)
    (counts : sensing.calibration = .calibrating → sensing.biasSamples + 1 > 0) :
    ∃ next, sensing.onSample sample = some next ∧ sensing.Sampled sample next := by
  rw [onSample_eq]
  by_cases running : sensing.calibration = .calibrating
  · rw [if_pos running]
    by_cases taken : sensing.Taken sample
    · have unrefused := mt refused_iff.mpr (not_not.mpr taken)
      rw [if_neg unrefused]
      by_cases full : sensing.config.calibrationWindow ≤ sample.sampledAt - sensing.calibrationStarted
      · have counted : (sensing.summed sample).biasSamples > 0 := counts running
        rw [if_pos full, concludeCalibration, if_pos counted]
        exact ⟨_, rfl, .completed running taken full⟩
      · rw [if_neg full]
        exact ⟨_, rfl, .accumulated running taken (not_le.mp full)⟩
    · rw [if_pos (refused_iff.mp taken)]
      exact ⟨_, rfl, .failed running taken⟩
  · rw [if_neg running]
    exact ⟨_, rfl, .settled running⟩

end Outcome

section Exact
variable {F : Type} [Field F] [LinearOrder F]

/-- This is the longest gap that is not stale. -/
def Config.staleness (config : Config F) : Duration :=
  config.stalePeriods.toNat * config.samplePeriod

def Within (config : Config F) (sample : InertialSample F) : Prop :=
  |sample.angularRate.x| ≤ config.stillnessThreshold ∧
    |sample.angularRate.y| ≤ config.stillnessThreshold ∧
    |sample.angularRate.z| ≤ config.stillnessThreshold

/-- Every sample of these was valid and still, and came in time after the one before it. -/
structure StillSince (config : Config F) (started : TimePoint)
    (samples : List (InertialSample F)) : Prop where
  valid : ∀ sample ∈ samples, sample.valid = true
  still : ∀ sample ∈ samples, Within config sample
  gapFree : Spaced (· ≤ config.staleness) started (times samples)

/-- The samples fill the calibration window, and the bias is their mean. -/
structure Earned (config : Config F) (window : Window F) (bias : InertialAxes F) (started : TimePoint) :
    Prop where
  begun : window.started = some started
  still : StillSince config started window.samples
  full : config.calibrationWindow ≤ lastTime started (times window.samples) - started
  sampled : 0 < window.samples.length
  enough : config.calibrationWindow ≤ window.samples.length * config.staleness
  mean : bias = meanRate window.samples

/-- An invalid sample, a moving one or a late one spoils a window. -/
def Spoils (config : Config F) (window : Window F) (sample : InertialSample F) : Prop :=
  sample.valid = false ∨ ¬ Within config sample ∨
    ∃ started, window.started = some started ∧
      config.staleness < sample.sampledAt - lastTime started (times window.samples)

/-- A step completes full windows alone, spoils the others, and leaves the bias to the last
completed one. -/
structure Honest (config : Config F) (before after : InertialSensingImpl F × Window F)
    (stimulus : Stimulus F) : Prop where
  earned : before.1.calibration ≠ .calibrated → after.1.calibration = .calibrated →
    ∃ started, Earned config after.2 after.1.bias started
  spoilt : ∀ sample, stimulus = .sample sample → before.1.calibration = .calibrating →
    Spoils config before.2 sample → after.1.calibration = .failed
  latched : ∀ sample, stimulus = .sample sample → before.1.calibration = .failed →
    after.1.calibration = .failed
  atomic : after.1.gyroscopeBias = after.2.completed.getD noRate

/-- A running calibration is sampled fewer times than its count can hold. -/
def FewSamples (state : InertialSensingImpl F × Window F) (stimulus : Stimulus F) : Prop :=
  ∀ sample, stimulus = .sample sample → state.1.calibration = .calibrating →
    state.2.samples.length + 1 < 2 ^ 32

/-- While it runs, the calibration holds the count, the sum and the latest time of its window. -/
structure Running (sensing : InertialSensingImpl F) (window : Window F) : Prop where
  begun : window.started = some sensing.calibrationStarted
  still : StillSince sensing.config sensing.calibrationStarted window.samples
  count : sensing.biasSamples.toNat = window.samples.length
  sum : sensing.biasSum = sumRate window.samples
  closing : sensing.origin = lastTime sensing.calibrationStarted (times window.samples)

structure Consistent (config : Config F) (state : InertialSensingImpl F × Window F) : Prop where
  config : state.1.config = config
  bias : state.1.bias = state.2.completed.getD noRate
  running : state.1.calibration = .calibrating → Running state.1 state.2

@[simp] theorem sumRate_snoc (samples : List (InertialSample F)) (sample : InertialSample F) :
    sumRate (samples ++ [sample]) =
      ⟨(sumRate samples).x + sample.angularRate.x, (sumRate samples).y + sample.angularRate.y,
        (sumRate samples).z + sample.angularRate.z⟩ := by
  have snoc : ∀ axis : InertialSample F → F, ((samples ++ [sample]).map axis).sum =
      (samples.map axis).sum + axis sample := by
    intro axis
    rw [List.map_append, List.map_singleton]
    exact List.sum_append.trans (congrArg _ (List.sum_singleton))
  simp only [sumRate, snoc]

/-- A running calibration waits for a sample until the longest gap after the last one. -/
theorem Running.timely_iff {sensing : InertialSensingImpl F} {window : Window F}
    (running : Running sensing window) (sample : InertialSample F) :
    sensing.gapSince sensing.origin sample.sampledAt = false ↔
      sample.sampledAt - lastTime sensing.calibrationStarted (times window.samples) ≤
        sensing.config.staleness := by
  unfold gapSince Config.staleness
  rw [running.closing, decide_eq_false_iff_not, gt_iff_lt, not_lt]

/-- A taken sample joins the samples that were still since the start. -/
theorem StillSince.snoc {config : Config F} {started : TimePoint}
    {samples : List (InertialSample F)} {sample : InertialSample F}
    (since : StillSince config started samples) (valid : sample.valid = true)
    (still : Within config sample)
    (timely : sample.sampledAt - lastTime started (times samples) ≤ config.staleness) :
    StillSince config started (samples ++ [sample]) where
  valid := by
    intro each member
    rcases List.mem_append.mp member with earlier | last
    · exact since.valid each earlier
    · rw [List.mem_singleton.mp last]
      exact valid
  still := by
    intro each member
    rcases List.mem_append.mp member with earlier | last
    · exact since.still each earlier
    · rw [List.mem_singleton.mp last]
      exact still
  gapFree := by
    rw [times_snoc]
    exact spaced_snoc.mpr ⟨since.gapFree, timely⟩

/-- A window that has run for long enough has earned its mean. -/
theorem Running.earned {sensing : InertialSensingImpl F} {window : Window F}
    (running : Running sensing window) (sampled : 0 < window.samples.length)
    (full : sensing.config.calibrationWindow ≤
      lastTime sensing.calibrationStarted (times window.samples) - sensing.calibrationStarted) :
    Earned sensing.config window (meanRate window.samples) sensing.calibrationStarted where
  begun := running.begun
  still := running.still
  full := full
  sampled := sampled
  enough := by
    have spanned := running.still.gapFree.span_le
    have counted : (times window.samples).length = window.samples.length := List.length_map _
    rw [counted, nsmul_eq_mul] at spanned
    exact full.trans spanned
  mean := rfl

/-- The bias that a calibration takes is the mean of its window. -/
theorem Running.mean {sensing : InertialSensingImpl F} {window : Window F}
    (running : Running sensing window) :
    (⟨sensing.biasSum.x / ((sensing.biasSamples.toNat : ℚ) : F),
      sensing.biasSum.y / ((sensing.biasSamples.toNat : ℚ) : F),
      sensing.biasSum.z / ((sensing.biasSamples.toNat : ℚ) : F)⟩ : InertialAxes F) =
      meanRate window.samples := by
  rw [running.sum, running.count]
  rfl

/-- A start keeps the observed calibration consistent and honest. -/
theorem Consistent.started {config : Config F} {sensing : InertialSensingImpl F}
    {window : Window F} (consistent : Consistent config (sensing, window)) (now : TimePoint) :
    let begun : InertialSensingImpl F × Window F :=
      (sensing.startCalibration now, { window with started := some now, samples := [] })
    Honest config (sensing, window) begun (.startCalibration now) ∧ Consistent config begun := by
  obtain ⟨rfl, bias, -⟩ := consistent
  constructor
  · constructor
    · intro _ calibrated
      cases calibrated
    · intro _ sampled
      cases sampled
    · intro _ sampled
      cases sampled
    · exact bias
  · constructor
    · rfl
    · exact bias
    · intro _
      constructor
      · rfl
      · constructor
        · simp
        · simp
        · exact Spaced.nil
      · rfl
      · rfl
      · rfl

/-- A constructed sensing is consistent with a fresh window. -/
theorem construct_consistent {config : Config F} {sensing : InertialSensingImpl F}
    (constructed : construct config = some sensing) : Consistent config (sensing, .fresh) := by
  unfold construct at constructed
  split at constructed
  · obtain rfl := Option.some.inj constructed
    constructor
    · rfl
    · rfl
    · intro calibrating
      cases calibrating
  · cases constructed

variable [IsStrictOrderedRing F]

/-- `Still` compares the magnitude of each axis. -/
theorem still_iff (sensing : InertialSensingImpl F) (sample : InertialSample F) :
    sensing.still sample.angularRate = true ↔ Within sensing.config sample := by
  unfold still Within
  rw [decide_eq_true_iff, fabs_eq_abs, fabs_eq_abs, fabs_eq_abs]

/-- A running calibration takes every sample that does not spoil its window. -/
theorem Running.taken_iff {sensing : InertialSensingImpl F} {window : Window F}
    (running : Running sensing window) (sample : InertialSample F) :
    sensing.Taken sample ↔ ¬ Spoils sensing.config window sample := by
  have late : (∃ started, window.started = some started ∧
        sensing.config.staleness < sample.sampledAt - lastTime started (times window.samples)) ↔
      sensing.config.staleness <
        sample.sampledAt - lastTime sensing.calibrationStarted (times window.samples) := by
    simp [running.begun]
  unfold Spoils
  rw [late, not_or, not_or, not_not, not_lt, ← still_iff, ← running.timely_iff, Bool.not_eq_false]
  exact InertialSensingImpl.taken_iff

omit [IsStrictOrderedRing F] in
/-- One more sample fits in the count. -/
theorem Running.counted {sensing : InertialSensingImpl F} {window : Window F}
    (running : Running sensing window) (few : window.samples.length + 1 < 2 ^ 32) :
    (sensing.biasSamples + 1).toNat = window.samples.length + 1 := by
  have one : (1 : UInt32).toNat = 1 := rfl
  rw [UInt32.toNat_add, one, running.count]
  exact Nat.mod_eq_of_lt few

/-- A calibration that takes a sample goes on with one more in its window. -/
theorem Running.summed {sensing : InertialSensingImpl F} {window : Window F}
    {sample : InertialSample F} (running : Running sensing window) (taken : sensing.Taken sample)
    (few : window.samples.length + 1 < 2 ^ 32) :
    Running (sensing.summed sample) { window with samples := window.samples ++ [sample] } := by
  have counted := running.counted few
  constructor
  · exact running.begun
  · have timely := (running.timely_iff sample).mp taken.timely
    exact running.still.snoc taken.valid ((still_iff sensing sample).mp taken.still) timely
  · rw [List.length_append]
    exact counted
  · show (⟨_, _, _⟩ : InertialAxes F) = sumRate (window.samples ++ [sample])
    rw [sumRate_snoc, running.sum]
  · have sampled : sensing.biasSamples + 1 ≠ 0 := by
      intro none
      rw [none] at counted
      cases counted
    have closing : (sensing.summed sample).origin = sample.sampledAt := if_neg sampled
    rw [closing]
    show _ = lastTime _ (times (window.samples ++ [sample]))
    rw [times_snoc, lastTime_snoc]

/-- A calibration that takes a sample at the end of its window has earned the mean. -/
theorem Running.completes {sensing : InertialSensingImpl F} {window : Window F}
    {sample : InertialSample F} (running : Running sensing window) (taken : sensing.Taken sample)
    (few : window.samples.length + 1 < 2 ^ 32)
    (full : sensing.config.calibrationWindow ≤ sample.sampledAt - sensing.calibrationStarted) :
    Earned sensing.config { window with samples := window.samples ++ [sample] }
      (meanRate (window.samples ++ [sample])) sensing.calibrationStarted := by
  have sampled : 0 < (window.samples ++ [sample]).length := by simp
  have spanned : sensing.config.calibrationWindow ≤
      lastTime sensing.calibrationStarted (times (window.samples ++ [sample])) -
        sensing.calibrationStarted := by
    rw [times_snoc, lastTime_snoc]
    exact full
  exact (running.summed taken few).earned sampled spanned

omit [IsStrictOrderedRing F] in
/-- A sample that leaves the calibration where it was is honest if it spoils no window. -/
theorem Honest.unchanged {config : Config F} {before after : InertialSensingImpl F × Window F}
    {sample : InertialSample F} (same : after.1.calibration = before.1.calibration)
    (unspoilt : before.1.calibration = .calibrating → ¬ Spoils config before.2 sample)
    (bias : after.1.gyroscopeBias = after.2.completed.getD noRate) :
    Honest config before after (.sample sample) where
  earned uncalibrated calibrated := absurd (same.symm.trans calibrated) uncalibrated
  spoilt each taken calibrating spoils := by
    obtain rfl := Stimulus.sample.inj taken
    exact absurd spoils (unspoilt calibrating)
  latched _ _ failed := same.trans failed
  atomic := bias

/-- A sample keeps the observed calibration consistent and honest. -/
theorem Consistent.sample {config : Config F} {sensing : InertialSensingImpl F}
    {window : Window F} (consistent : Consistent config (sensing, window))
    {sample : InertialSample F} (few : FewSamples (sensing, window) (.sample sample)) :
    ∃ next, sensing.onSample sample = some next ∧
      Honest config (sensing, window) (next, window.observe sensing (.sample sample) next)
        (.sample sample) ∧
      Consistent config (next, window.observe sensing (.sample sample) next) := by
  obtain ⟨rfl, bias, running⟩ := consistent
  have counts : sensing.calibration = .calibrating → sensing.biasSamples + 1 > 0 := by
    intro calibrating
    rw [gt_iff_lt, UInt32.lt_iff_toNat_lt,
      (running calibrating).counted (few sample rfl calibrating)]
    exact Nat.succ_pos _
  obtain ⟨next, stepped, outcome⟩ := sensing.onSample_sampled sample counts
  use next, stepped
  cases outcome with
  | settled settled =>
      rw [window.observe_goesOn sample fun calibrating => absurd calibrating settled]
      constructor
      · exact .unchanged rfl (fun calibrating => absurd calibrating settled) bias
      · exact ⟨rfl, bias, fun calibrating => absurd calibrating settled⟩
  | failed calibrating refused =>
      rw [window.observe_goesOn sample fun _ => by simp]
      constructor
      · constructor
        · intro _ calibrated
          cases calibrated
        · intros
          rfl
        · intros
          rfl
        · exact bias
      · constructor
        · rfl
        · exact bias
        · intro failed
          cases failed
  | accumulated calibrating taken early =>
      have still : (sensing.summed sample).calibration = .calibrating := calibrating
      have unspoilt := ((running calibrating).taken_iff sample).mp taken
      have summed := (running calibrating).summed taken (few sample rfl calibrating)
      rw [window.observe_goesOn sample fun _ => by simp [still]]
      constructor
      · exact .unchanged rfl (fun _ => unspoilt) bias
      · exact ⟨rfl, bias, fun _ => summed⟩
  | completed calibrating taken full =>
      have unspoilt := ((running calibrating).taken_iff sample).mp taken
      have summed := (running calibrating).summed taken (few sample rfl calibrating)
      have earned := (running calibrating).completes taken (few sample rfl calibrating) full
      rw [window.observe_ends sample calibrating rfl]
      constructor
      · constructor
        · intro _ _
          use sensing.calibrationStarted
          show Earned sensing.config _ (⟨_, _, _⟩ : InertialAxes F) _
          rw [summed.mean]
          exact ⟨earned.begun, earned.still, earned.full, earned.sampled, earned.enough, rfl⟩
        · intro each same _ spoils
          obtain rfl := Stimulus.sample.inj same
          exact absurd spoils unspoilt
        · intro _ _ failed
          rw [show sensing.calibration = .failed from failed] at calibrating
          cases calibrating
        · exact summed.mean
      · constructor
        · rfl
        · exact summed.mean
        · intro calibrated
          cases calibrated

/-- A step of the observed calibration goes on, honestly. -/
theorem Consistent.step {config : Config F} {state : InertialSensingImpl F × Window F}
    {stimulus : Stimulus F} (consistent : Consistent config state)
    (few : FewSamples state stimulus) :
    ∃ next, (machine.observed Window.observe).step state stimulus = some next ∧
      Honest config state next stimulus ∧ Consistent config next := by
  obtain ⟨sensing, window⟩ := state
  cases stimulus with
  | sample sample =>
      obtain ⟨next, stepped, kept⟩ := consistent.sample few
      exact ⟨_, observed_step.mpr ⟨stepped, rfl⟩, kept⟩
  | startCalibration now =>
      exact ⟨_, observed_step.mpr ⟨rfl, rfl⟩, consistent.started now⟩

/-- A calibration completes only after a full, gap-free and still window, whose mean it takes, and
every other window leaves the bias alone. -/
theorem calibration_earned {config : Config F} {sensing : InertialSensingImpl F}
    (constructed : construct config = some sensing) (stimuli : List (Stimulus F))
    (few : (machine.observed Window.observe).Along FewSamples (sensing, .fresh) stimuli) :
    (machine.observed Window.observe).Along (fun state stimulus =>
        ∃ next, (machine.observed Window.observe).step state stimulus = some next ∧
          Honest config state next stimulus) (sensing, .fresh) stimuli ∧
      ∃ final, (machine.observed Window.observe).run (sensing, .fresh) stimuli = some final ∧
        final.1.gyroscopeBias = final.2.completed.getD noRate := by
  have initially := construct_consistent constructed
  have kept : ∀ state stimulus next, Consistent config state → FewSamples state stimulus →
      (machine.observed Window.observe).step state stimulus = some next →
      Consistent config next := by
    intro state stimulus next consistent few stepped
    obtain ⟨next, answered, -, kept⟩ := consistent.step few
    rw [stepped] at answered
    rw [Option.some.inj answered]
    exact kept
  constructor
  · apply along_of kept _ initially few
    intro state stimulus consistent few
    obtain ⟨next, stepped, honest, -⟩ := consistent.step few
    exact ⟨next, stepped, honest⟩
  · have answers : (machine.observed Window.observe).Along (fun state stimulus =>
        ∃ next, (machine.observed Window.observe).step state stimulus = some next)
        (sensing, .fresh) stimuli := by
      apply along_of kept _ initially few
      intro state stimulus consistent few
      obtain ⟨next, stepped, -⟩ := consistent.step few
      exact ⟨next, stepped⟩
    obtain ⟨final, ran⟩ := run_of_along answers
    exact ⟨final, ran, (run_invariant_along kept initially few ran).bias⟩

end Exact

section Witness
variable {F : Type} [FloatArithmetic F]

/-- A run of fewer stimuli than the count can hold samples few enough. -/
theorem fewSamples_of_length {state : InertialSensingImpl F × Window F} {stimuli : List (Stimulus F)}
    (short : state.2.samples.length + stimuli.length < 2 ^ 32) :
    (machine.observed Window.observe).Along FewSamples state stimuli := by
  induction stimuli generalizing state with
  | nil => trivial
  | cons stimulus rest ih =>
      rw [List.length_cons] at short
      constructor
      · intro _ _ _
        omega
      · rintro ⟨next, window⟩ both
        obtain ⟨-, rfl⟩ := observed_step.mp both
        apply ih
        have longer : (Window.observe state.2 state.1 stimulus next).samples.length ≤
            state.2.samples.length + 1 := by
          cases stimulus with
          | sample sample => exact (List.length_append ..).le
          | startCalibration now => exact Nat.zero_le _
        show (Window.observe state.2 state.1 stimulus next).samples.length + rest.length < 2 ^ 32
        omega

/-- Samples come every microsecond, and three of them fill the window. -/
def briskConfig : Config F := ⟨1000, 3000, 1, 2⟩

def turned (rate : F) (sampledAt : TimePoint) : Stimulus F :=
  .sample ⟨⟨rate, 0, -rate⟩, ⟨0, 0, 1⟩, sampledAt, true⟩

/-- The first window is spoilt by a rotation, the second is restarted, and the third completes. -/
def thirdCalibration : List (Stimulus F) :=
  [.startCalibration 0, turned ((2 : ℚ) : F) 1000, turned 0 2000, .startCalibration 2000,
    turned 1 3000, .startCalibration 3000, turned ((1 / 2 : ℚ) : F) 4000,
    turned ((1 / 4 : ℚ) : F) 5000, turned ((3 / 4 : ℚ) : F) 6000]

end Witness

/-- The bias is the mean of the third window alone. -/
theorem calibration_earned_third_window : ∃ start : InertialSensingImpl ℚ,
    construct briskConfig = some start ∧
    (machine.observed Window.observe).Along (fun state stimulus =>
        ∃ next, (machine.observed Window.observe).step state stimulus = some next ∧
          Honest briskConfig state next stimulus) (start, .fresh) thirdCalibration ∧
    ∃ final, (machine.observed Window.observe).run (start, .fresh) thirdCalibration = some final ∧
      final.1.gyroscopeBias = final.2.completed.getD noRate ∧
      final.1.calibration = .calibrated ∧ final.2.samples.length = 3 ∧
      final.1.gyroscopeBias.x = 1 / 2 := by
  obtain ⟨start, constructed⟩ := Option.isSome_iff_exists.mp
    (by decide +kernel : (construct (briskConfig : Config ℚ)).isSome = true)
  have evaluated : ((construct (briskConfig : Config ℚ)).bind fun start =>
      (machine.observed Window.observe).run (start, .fresh) thirdCalibration).any (fun final =>
        final.1.calibration = .calibrated ∧ final.2.samples.length = 3 ∧
          final.1.gyroscopeBias.x = 1 / 2) = true := by
    decide +kernel
  have few : (machine.observed Window.observe).Along FewSamples (start, .fresh) thirdCalibration :=
    fewSamples_of_length (by decide : ([] : List (InertialSample ℚ)).length + 9 < 2 ^ 32)
  obtain ⟨honest, final, ran, bias⟩ := calibration_earned constructed _ few
  rw [constructed, Option.bind_some, ran, Option.any_some] at evaluated
  exact ⟨start, constructed, honest, final, ran, bias, of_decide_eq_true evaluated⟩

end InertialSensingImpl
end InvertedPendulum.Sensing
