import InvertedPendulum.Control.Pacing
import InvertedPendulum.Reactive.Simulation

namespace InvertedPendulum.Control
open Sensing Estimation Reactive

namespace ControlLoopImpl

section Equations
variable {σ F : Type}

/-- A balance call receives the time since its predecessor. -/
def balanceInterval (loop : ControlLoopImpl σ) (sampledAt : TimePoint) : Duration :=
  loop.previousBalance.elim (microseconds loop.config.balancePeriod.toInt) (sampledAt - ·)

def outerInterval (loop : ControlLoopImpl σ) (sampledAt : TimePoint) : Duration :=
  loop.previousOuter.elim (microseconds loop.config.outerPeriod.toInt) (sampledAt - ·)

/-- A balance call is counted, and compared with the period if it had a predecessor. -/
def accounted (loop : ControlLoopImpl σ) (interval : Duration) : TimingStatistics :=
  let observed := if loop.previousBalance.isSome then loop.observe interval else loop
  { observed.statistics with iterations := observed.statistics.iterations + 1 }

theorem runBalance_fields [BalanceStage σ F] (loop : ControlLoopImpl σ) (estimate : Estimate F)
    (sampledAt : TimePoint) :
    loop.runBalance estimate sampledAt = { loop with
      previousBalance := some sampledAt
      statistics := loop.accounted (loop.balanceInterval sampledAt)
      peers := BalanceStage.balance loop.peers estimate (loop.balanceInterval sampledAt) } := by
  unfold runBalance accounted balanceInterval
  cases loop.previousBalance with
  | none => rfl
  | some previous => rfl

theorem runOuter_fields [OuterStage σ] (loop : ControlLoopImpl σ) (sampledAt : TimePoint) :
    loop.runOuter sampledAt = { loop with
      previousOuter := some sampledAt
      peers := OuterStage.steer loop.peers (loop.outerInterval sampledAt) } := by
  unfold runOuter outerInterval
  cases loop.previousOuter with
  | none => rfl
  | some previous => rfl

variable [AttitudeEstimation σ F] [BalanceStage σ F] [OuterStage σ] (loop : ControlLoopImpl σ)
  (measurement : Measurement F)

omit [BalanceStage σ F] [OuterStage σ] in
/-- Every measurement is estimated and counted first. -/
def sampled : ControlLoopImpl σ :=
  { loop with
    peers := (AttitudeEstimation.update loop.peers measurement).2
    samplesSinceBalance := loop.samplesSinceBalance + 1 }

omit [OuterStage σ] in
/-- A measurement that is due is balanced, and the balance call is counted. -/
def balanced : ControlLoopImpl σ :=
  let balanced := { loop.sampled measurement with samplesSinceBalance := 0 }.runBalance
    (AttitudeEstimation.update loop.peers measurement).1 measurement.sampledAt
  { balanced with balancesSinceOuter := balanced.balancesSinceOuter + 1 }

omit [OuterStage σ] in
theorem balanced_fields :
    loop.balanced measurement = { loop with
      peers := BalanceStage.balance (AttitudeEstimation.update loop.peers measurement).2
        (AttitudeEstimation.update loop.peers measurement).1
        (loop.balanceInterval measurement.sampledAt)
      samplesSinceBalance := 0
      balancesSinceOuter := loop.balancesSinceOuter + 1
      previousBalance := some measurement.sampledAt
      statistics := loop.accounted (loop.balanceInterval measurement.sampledAt) } := by
  unfold balanced sampled
  rw [runBalance_fields]
  unfold accounted balanceInterval
  cases loop.previousBalance with
  | none => rfl
  | some previous => rfl

/-- A measurement is estimated, and balanced and steered as its counters say. -/
theorem onMeasurement_eq :
    loop.onMeasurement measurement =
      if loop.samplesSinceBalance + 1 < loop.samplesPerBalance then loop.sampled measurement
      else if (loop.balanced measurement).balancesSinceOuter <
          (loop.balanced measurement).balancesPerOuter then loop.balanced measurement
      else { loop.balanced measurement with balancesSinceOuter := 0 }.runOuter
        measurement.sampledAt := rfl

end Equations

/-- A counter of 32 bits below its stride counts without overflow. -/
theorem counter_next {counter stride : UInt32} {count : Nat} (positive : 0 < stride)
    (counts : counter.toNat = count % stride.toNat) :
    (counter + 1).toNat = count % stride.toNat + 1 := by
  have below := Nat.mod_lt count (UInt32.lt_iff_toNat_lt.mp positive)
  have bound := stride.toNat_lt
  rw [UInt32.toNat_add, counts]
  exact Nat.mod_eq_of_lt (by simpa using by omega)

/-- A counter is early exactly where its stride does not divide the next count. -/
theorem counter_early_iff {counter stride : UInt32} {count : Nat} (positive : 0 < stride)
    (counts : counter.toNat = count % stride.toNat) :
    counter + 1 < stride ↔ ¬ stride.toNat ∣ count + 1 := by
  rw [UInt32.lt_iff_toNat_lt, counter_next positive counts]
  exact Divider.early_iff (UInt32.lt_iff_toNat_lt.mp positive)

/-- A counter that is early keeps the remainder of the count. -/
theorem counter_early {counter stride : UInt32} {count : Nat} (positive : 0 < stride)
    (counts : counter.toNat = count % stride.toNat) (apart : ¬ stride.toNat ∣ count + 1) :
    (counter + 1).toNat = (count + 1) % stride.toNat := by
  rw [counter_next positive counts,
    (Divider.early apart (UInt32.lt_iff_toNat_lt.mp positive)).1]

section Phases
variable {σ F : Type} {config : Config} {late : Duration} {samples balances : UInt32}

/-- The counters, the remembered times and the statistics of the loop are those of its history. -/
structure InPhase (config : Config) (late : Duration) (samples balances : UInt32)
    (loop : ControlLoopImpl (Recorder σ F)) (history : PacingHistory) : Prop where
  configured : loop.config = config
  samplesPerBalance : loop.samplesPerBalance = samples
  balancesPerOuter : loop.balancesPerOuter = balances
  threshold : loop.lateThreshold = late
  sampleCounter : loop.samplesSinceBalance.toNat = history.measurements % samples.toNat
  balanceCount : history.balances.length = history.measurements / samples.toNat
  balanceCounter : loop.balancesSinceOuter.toNat = history.balances.length % balances.toNat
  steerCount : history.steers.length = history.balances.length / balances.toNat
  previousBalance : loop.previousBalance = history.balances.head?
  previousOuter : loop.previousOuter = history.steers.head?
  intervalCount : history.intervals.length = history.balances.length % balances.toNat
  elapsed : ∀ steered, history.steers.head? = some steered → ∃ balanced,
    history.balances.head? = some balanced ∧ history.intervals.sum = balanced - steered
  iterations : loop.statistics.iterations = UInt32.ofNat history.iterations
  lateIterations : loop.statistics.lateIterations =
    UInt32.ofNat (history.preceded.countP (late < ·))
  worstJitter : loop.statistics.worstJitter = worstDeviation config history.preceded
  precededCount : history.preceded.length ≤ history.iterations

/-- A quotient that 64 bits can hold is the quotient of the counts. -/
theorem quotient_toInt {dividend divisor : Int64} (computes : ¬ Overflows dividend divisor) :
    (dividend / divisor).toInt = dividend.toInt.tdiv divisor.toInt := by
  by_cases least : dividend = Int64.minValue
  · exact Int64.toInt_div_of_ne_right _ _ fun minus => computes ⟨least, minus⟩
  · exact Int64.toInt_div_of_ne_left _ _ least

/-- A loop that is constructed has two ratios above zero and starts at the beginning of a period. -/
theorem construct_fields {peers : σ} {loop : ControlLoopImpl σ}
    (constructed : construct peers config = .ok loop) :
    loop = {
      peers
      config
      samplesPerBalance := UInt32.ofInt (config.balancePeriod.toInt.tdiv config.samplePeriod.toInt)
      balancesPerOuter := UInt32.ofInt (config.outerPeriod.toInt.tdiv config.balancePeriod.toInt)
      lateThreshold := config.lateThreshold
      samplesSinceBalance := 0
      balancesSinceOuter := 0
      previousBalance := none
      previousOuter := none
      statistics := ⟨0, 0, 0⟩ } ∧
      0 < loop.samplesPerBalance ∧ 0 < loop.balancesPerOuter := by
  unfold construct at constructed
  split at constructed
  · cases constructed
  · split at constructed
    · cases constructed
    · rename_i computes
      obtain ⟨samplesComputed, balancesComputed⟩ := not_or.mp computes
      dsimp only at constructed
      rw [quotient_toInt samplesComputed, quotient_toInt balancesComputed] at constructed
      split at constructed
      · rename_i holds
        obtain ⟨-, ⟨samples, -⟩, balances, -⟩ := holds
        obtain rfl := Except.ok.inj constructed
        exact ⟨rfl, samples, balances⟩
      · cases constructed

theorem construct_inPhase {peers : Recorder σ F} {loop : ControlLoopImpl (Recorder σ F)}
    (constructed : construct peers config = .ok loop) :
    loop.InPhase config config.lateThreshold loop.samplesPerBalance loop.balancesPerOuter .start := by
  obtain ⟨rfl, -, -⟩ := construct_fields constructed
  constructor
  case elapsed => exact fun _ none => by cases none
  all_goals simp [PacingHistory.start, worstDeviation]

/-- The statistics after a balance call are those of the history with the call. -/
theorem InPhase.accounted {loop : ControlLoopImpl (Recorder σ F)} {history : PacingHistory}
    (phase : loop.InPhase config late samples balances history) (interval : Duration) :
    let preceded := if history.balances.isEmpty then history.preceded
      else history.preceded ++ [interval]
    loop.accounted interval = {
      iterations := UInt32.ofNat (history.iterations + 1)
      worstJitter := worstDeviation config preceded
      lateIterations := UInt32.ofNat (preceded.countP (late < ·)) } := by
  intro preceded
  have previous := phase.previousBalance
  have next : loop.statistics.iterations + 1 = UInt32.ofNat (history.iterations + 1) := by
    rw [phase.iterations, UInt32.ofNat_add]
    rfl
  cases balanced : history.balances with
  | nil =>
      rw [balanced] at previous
      have same : preceded = history.preceded := by simp [preceded, balanced]
      rw [same, ← phase.worstJitter, ← phase.lateIterations, ← next]
      unfold ControlLoopImpl.accounted
      rw [previous]
      rfl
  | cons last earlier =>
      rw [balanced] at previous
      have more : preceded = history.preceded ++ [interval] := by simp [preceded, balanced]
      have worst : worstDeviation config preceded =
          max loop.statistics.worstJitter |interval - microseconds config.balancePeriod.toInt| := by
        rw [more, phase.worstJitter]
        exact List.foldl_append
      have deviation : (if interval > microseconds config.balancePeriod.toInt then
            interval - microseconds config.balancePeriod.toInt
          else microseconds config.balancePeriod.toInt - interval) =
          |interval - microseconds config.balancePeriod.toInt| := by
        split
        · rename_i above
          rw [abs_of_pos (sub_pos.mpr above)]
        · rename_i within
          rw [abs_of_nonpos (sub_nonpos.mpr (not_lt.mp within)), neg_sub]
      have late : UInt32.ofNat (preceded.countP (late < ·)) =
          if interval > loop.lateThreshold then loop.statistics.lateIterations + 1
          else loop.statistics.lateIterations := by
        rw [more, List.countP_append, phase.threshold, phase.lateIterations, List.countP_singleton]
        by_cases beyond : interval > late
        · rw [if_pos beyond, if_pos (decide_eq_true beyond), UInt32.ofNat_add]
          rfl
        · rw [if_neg beyond, if_neg (by simpa using beyond), Nat.add_zero]
      unfold ControlLoopImpl.accounted
      rw [previous, worst, late, ← next, ← deviation, ← phase.configured]
      rfl

/-- A balance call receives the interval that the history tells. -/
theorem InPhase.balanceInterval {loop : ControlLoopImpl (Recorder σ F)}
    {history : PacingHistory} (phase : loop.InPhase config late samples balances history)
    (sampledAt : TimePoint) :
    loop.balanceInterval sampledAt =
      measuredInterval (microseconds config.balancePeriod.toInt) history.balances sampledAt := by
  unfold ControlLoopImpl.balanceInterval measuredInterval
  rw [phase.previousBalance, phase.configured]

theorem InPhase.outerInterval {loop : ControlLoopImpl (Recorder σ F)}
    {history : PacingHistory} (phase : loop.InPhase config late samples balances history)
    (sampledAt : TimePoint) :
    loop.outerInterval sampledAt =
      measuredInterval (microseconds config.outerPeriod.toInt) history.steers sampledAt := by
  unfold ControlLoopImpl.outerInterval measuredInterval
  rw [phase.previousOuter, phase.configured]

/-- The intervals since a steer add up to the time since it. -/
theorem InPhase.sum_intervals {loop : ControlLoopImpl (Recorder σ F)} {history : PacingHistory}
    (phase : loop.InPhase config late samples balances history) {steered : TimePoint}
    (last : history.steers.head? = some steered) (nominal : Duration) (sampledAt : TimePoint) :
    (history.intervals ++ [measuredInterval nominal history.balances sampledAt]).sum =
      sampledAt - steered := by
  obtain ⟨balanced, latest, sum⟩ := phase.elapsed steered last
  unfold measuredInterval
  rw [latest, List.sum_append, sum, List.sum_singleton]
  exact (sub_add_sub_cancel' balanced steered sampledAt)

/-- A balance call is noted with what the statistics make of it. -/
theorem InPhase.precededCount_next {loop : ControlLoopImpl (Recorder σ F)}
    {history : PacingHistory} (phase : loop.InPhase config late samples balances history)
    (interval : Duration) :
    (if history.balances.isEmpty then history.preceded
      else history.preceded ++ [interval]).length ≤ history.iterations + 1 := by
  have count := phase.precededCount
  split
  · omega
  · rw [List.length_append, List.length_singleton]
    omega

section Steps
variable [AttitudeEstimation σ F] [BalanceStage σ F] [OuterStage σ]
  {loop : ControlLoopImpl (Recorder σ F)} {history : PacingHistory}

omit [AttitudeEstimation σ F] [BalanceStage σ F] [OuterStage σ] in
theorem accounted_attend (loop : ControlLoopImpl (Recorder σ F)) (peers : σ)
    (interval : Duration) : (loop.attend peers).accounted interval = loop.accounted interval := by
  unfold accounted attend
  cases loop.previousBalance with
  | none => rfl
  | some previous => rfl

/-- A measurement between two balance calls is only estimated. -/
theorem InPhase.early (phase : loop.InPhase config late samples balances history)
    (positive : 0 < samples) (peers : σ) (measurement : Measurement F)
    (apart : ¬ samples.toNat ∣ history.measurements + 1) :
    let next := loop.react (.measured peers measurement)
    next.peers.calls = due config samples.toNat balances.toNat history measurement
        (AttitudeEstimation.update peers measurement).1 ∧
      next.InPhase config late samples balances
        (history.observe next.peers.calls (.measured peers measurement)) := by
  have early : loop.samplesSinceBalance + 1 < loop.samplesPerBalance := by
    rw [phase.samplesPerBalance]
    exact (counter_early_iff positive phase.sampleCounter).mpr apart
  have reacted : loop.react (.measured peers measurement) = (loop.attend peers).sampled measurement := by
    rw [react, onMeasurement_eq]
    exact if_pos early
  have calls : due config samples.toNat balances.toNat history measurement
      (AttitudeEstimation.update peers measurement).1 = [.update measurement] := by
    rw [due, if_neg apart]
  intro next
  have listed : next.peers.calls = [.update measurement] := by
    change (loop.react (.measured peers measurement)).peers.calls = _
    rw [reacted]
    rfl
  refine ⟨listed.trans calls.symm, ?_⟩
  rw [listed]
  change (loop.react (.measured peers measurement)).InPhase config late samples balances
    { history with measurements := history.measurements + 1 }
  rw [reacted]
  obtain ⟨-, quotient⟩ := Divider.early apart (UInt32.lt_iff_toNat_lt.mp positive)
  exact { phase with
    sampleCounter := counter_early positive phase.sampleCounter apart
    balanceCount := phase.balanceCount.trans quotient.symm }

omit [OuterStage σ] in
/-- A measurement that is due is estimated, and balanced with the interval since the last call. -/
theorem InPhase.balanced_eq (phase : loop.InPhase config late samples balances history) (peers : σ)
    (measurement : Measurement F) :
    let interval := measuredInterval (microseconds config.balancePeriod.toInt) history.balances
      measurement.sampledAt
    let preceded := if history.balances.isEmpty then history.preceded
      else history.preceded ++ [interval]
    (loop.attend peers).balanced measurement = { loop with
      peers := ⟨BalanceStage.balance (AttitudeEstimation.update peers measurement).2
          (AttitudeEstimation.update peers measurement).1 interval,
        [.update measurement, .balance (AttitudeEstimation.update peers measurement).1 interval]⟩
      samplesSinceBalance := 0
      balancesSinceOuter := loop.balancesSinceOuter + 1
      previousBalance := some measurement.sampledAt
      statistics := {
        iterations := UInt32.ofNat (history.iterations + 1)
        worstJitter := worstDeviation config preceded
        lateIterations := UInt32.ofNat (preceded.countP (late < ·)) } } := by
  intro interval preceded
  have same : (loop.attend peers).balanceInterval measurement.sampledAt = interval :=
    phase.balanceInterval measurement.sampledAt
  rw [balanced_fields, same, accounted_attend, phase.accounted interval]
  rfl

omit [AttitudeEstimation σ F] [BalanceStage σ F] [OuterStage σ] in
/-- A loop that has made a balance call is in phase when its outer stage is. -/
theorem InPhase.countBalance (phase : loop.InPhase config late samples balances history)
    (multiple : samples.toNat ∣ history.measurements + 1) {sampledAt : TimePoint}
    {interval : Duration} {recorder : Recorder σ F} {counter : UInt32}
    {outer : Option TimePoint} {steers : List TimePoint} {intervals : List Duration}
    (balanceCounter : counter.toNat = (history.balances.length + 1) % balances.toNat)
    (steerCount : steers.length = (history.balances.length + 1) / balances.toNat)
    (previousOuter : outer = steers.head?)
    (intervalCount : intervals.length = (history.balances.length + 1) % balances.toNat)
    (elapsed : ∀ steered, steers.head? = some steered → intervals.sum = sampledAt - steered) :
    let preceded := if history.balances.isEmpty then history.preceded
      else history.preceded ++ [interval]
    InPhase config late samples balances
      { loop with
        peers := recorder
        samplesSinceBalance := 0
        balancesSinceOuter := counter
        previousBalance := some sampledAt
        previousOuter := outer
        statistics := {
          iterations := UInt32.ofNat (history.iterations + 1)
          worstJitter := worstDeviation config preceded
          lateIterations := UInt32.ofNat (preceded.countP (late < ·)) } }
      { measurements := history.measurements + 1
        balances := sampledAt :: history.balances
        steers := steers
        intervals := intervals
        iterations := history.iterations + 1
        preceded := preceded } := by
  intro preceded
  obtain ⟨restarted, quotient⟩ := Divider.due multiple
  exact {
    configured := phase.configured
    samplesPerBalance := phase.samplesPerBalance
    balancesPerOuter := phase.balancesPerOuter
    threshold := phase.threshold
    sampleCounter := restarted.symm
    balanceCount := by
      rw [quotient, ← phase.balanceCount]
      rfl
    balanceCounter := balanceCounter
    steerCount := steerCount
    previousBalance := rfl
    previousOuter := previousOuter
    intervalCount := intervalCount
    elapsed := fun steered last => ⟨sampledAt, rfl, elapsed steered last⟩
    iterations := rfl
    lateIterations := rfl
    worstJitter := rfl
    precededCount := phase.precededCount_next interval }

omit [AttitudeEstimation σ F] [BalanceStage σ F] [OuterStage σ] in
theorem InPhase.samplesDue (phase : loop.InPhase config late samples balances history)
    (positive : 0 < samples) (multiple : samples.toNat ∣ history.measurements + 1) :
    ¬ loop.samplesSinceBalance + 1 < loop.samplesPerBalance := by
  rw [phase.samplesPerBalance, counter_early_iff positive phase.sampleCounter]
  exact not_not_intro multiple

/-- A measurement that is due between two steers is estimated and balanced. -/
theorem InPhase.balance (phase : loop.InPhase config late samples balances history)
    (sampling : 0 < samples) (positive : 0 < balances) (peers : σ) (measurement : Measurement F)
    (multiple : samples.toNat ∣ history.measurements + 1)
    (apart : ¬ balances.toNat ∣ history.balances.length + 1) :
    let next := loop.react (.measured peers measurement)
    next.peers.calls = due config samples.toNat balances.toNat history measurement
        (AttitudeEstimation.update peers measurement).1 ∧
      next.InPhase config late samples balances
        (history.observe next.peers.calls (.measured peers measurement)) := by
  have early : ((loop.attend peers).balanced measurement).balancesSinceOuter <
      ((loop.attend peers).balanced measurement).balancesPerOuter := by
    rw [phase.balanced_eq]
    have count := (counter_early_iff positive phase.balanceCounter).mpr apart
    exact lt_of_lt_of_eq count phase.balancesPerOuter.symm
  have reacted : loop.react (.measured peers measurement) =
      (loop.attend peers).balanced measurement := by
    rw [react, onMeasurement_eq]
    exact (if_neg (phase.samplesDue sampling multiple)).trans (if_pos early)
  obtain ⟨counted, held⟩ := Divider.early apart (UInt32.lt_iff_toNat_lt.mp positive)
  intro next
  have made : next = _ := reacted.trans (phase.balanced_eq peers measurement)
  rw [made]
  constructor
  · rw [due, if_pos multiple, if_neg apart]
  · refine phase.countBalance multiple (counter_early positive phase.balanceCounter apart)
      (phase.steerCount.trans held.symm) phase.previousOuter ?_ ?_
    · rw [List.length_append, List.length_singleton, counted]
      exact congrArg (· + 1) phase.intervalCount
    · exact fun steered last => phase.sum_intervals last _ _

/-- A measurement at the end of an outer period is estimated, balanced and steered. -/
theorem InPhase.steer (phase : loop.InPhase config late samples balances history)
    (sampling : 0 < samples) (positive : 0 < balances) (peers : σ) (measurement : Measurement F)
    (multiple : samples.toNat ∣ history.measurements + 1)
    (outer : balances.toNat ∣ history.balances.length + 1) :
    let next := loop.react (.measured peers measurement)
    next.peers.calls = due config samples.toNat balances.toNat history measurement
        (AttitudeEstimation.update peers measurement).1 ∧
      next.InPhase config late samples balances
        (history.observe next.peers.calls (.measured peers measurement)) := by
  have late : ¬ ((loop.attend peers).balanced measurement).balancesSinceOuter <
      ((loop.attend peers).balanced measurement).balancesPerOuter := by
    rw [phase.balanced_eq]
    intro early
    exact (counter_early_iff positive phase.balanceCounter).mp
      (lt_of_lt_of_eq early phase.balancesPerOuter) outer
  have reacted : loop.react (.measured peers measurement) =
      { (loop.attend peers).balanced measurement with balancesSinceOuter := 0 }.runOuter
        measurement.sampledAt := by
    rw [react, onMeasurement_eq]
    exact (if_neg (phase.samplesDue sampling multiple)).trans (if_neg late)
  rw [phase.balanced_eq, runOuter_fields] at reacted
  have same := phase.outerInterval measurement.sampledAt
  obtain ⟨restarted, quotient⟩ := Divider.due outer
  intro next
  have made : next = _ := reacted
  rw [made]
  constructor
  · rw [due, if_pos multiple, if_pos outer, ← same]
    rfl
  · refine phase.countBalance multiple restarted.symm ?_ rfl restarted.symm ?_
    · rw [List.length_cons, quotient]
      exact congrArg (· + 1) phase.steerCount
    · intro steered last
      obtain rfl := Option.some.inj last
      exact (sub_self measurement.sampledAt).symm

/-- A reset of the statistics leaves the loop in phase. -/
theorem InPhase.reset (phase : loop.InPhase config late samples balances history) :
    (loop.react (.resetStatistics : LoopEvent σ F)).InPhase config late samples balances
      { history with iterations := 0, preceded := [] } :=
  { phase with
    iterations := rfl
    lateIterations := rfl
    worstJitter := rfl
    precededCount := le_rfl }

/-- A loop in phase makes the calls that are due, and is in phase again after them. -/
theorem InPhase.measured (phase : loop.InPhase config late samples balances history)
    (sampling : 0 < samples) (positive : 0 < balances) (peers : σ)
    (measurement : Measurement F) :
    let next := loop.react (.measured peers measurement)
    next.peers.calls = due config samples.toNat balances.toNat history measurement
        (AttitudeEstimation.update peers measurement).1 ∧
      next.InPhase config late samples balances
        (history.observe next.peers.calls (.measured peers measurement)) := by
  by_cases multiple : samples.toNat ∣ history.measurements + 1
  · by_cases outer : balances.toNat ∣ history.balances.length + 1
    · exact phase.steer sampling positive peers measurement multiple outer
    · exact phase.balance sampling positive peers measurement multiple outer
  · exact phase.early sampling peers measurement multiple

omit [AttitudeEstimation σ F] [BalanceStage σ F] [OuterStage σ] in
/-- A steer in phase receives the sum of the intervals since its predecessor. -/
theorem InPhase.telescopes (phase : loop.InPhase config late samples balances history)
    (sampledAt : TimePoint) (outer : balances.toNat ∣ history.balances.length + 1)
    (steered : history.steers ≠ []) :
    let intervals := history.intervals ++
      [measuredInterval (microseconds config.balancePeriod.toInt) history.balances sampledAt]
    intervals.length = balances.toNat ∧
      measuredInterval (microseconds config.outerPeriod.toInt) history.steers sampledAt =
        intervals.sum := by
  intro intervals
  constructor
  · have before := Divider.multiple_eq outer
    have split := Nat.div_add_mod history.balances.length balances.toNat
    rw [Nat.add_mul, one_mul, Nat.mul_comm] at before
    rw [List.length_append, List.length_singleton, phase.intervalCount]
    omega
  · obtain ⟨last, earlier, listed⟩ := List.exists_cons_of_ne_nil steered
    have latest : history.steers.head? = some last := by rw [listed, List.head?_cons]
    rw [phase.sum_intervals latest, measuredInterval, latest]
    rfl

/-- A loop in phase is on time. -/
theorem InPhase.onTime (phase : loop.InPhase config (lateAfter config) samples balances history)
    (sampling : 0 < samples) (positive : 0 < balances) :
    loop.OnTime (F := F) config samples.toNat balances.toNat history where
  calls peers measurement := (phase.measured sampling positive peers measurement).1
  balanceCount := phase.balanceCount
  steerCount := phase.steerCount
  telescopes sampledAt outer steered := phase.telescopes sampledAt outer steered
  iterations fits := by
    rw [phase.iterations]
    exact UInt32.toNat_ofNat_of_lt' fits
  lateIterations fits := by
    have counted := List.countP_le_length (p := (lateAfter config < ·)) (l := history.preceded)
    rw [phase.lateIterations]
    exact UInt32.toNat_ofNat_of_lt' (lt_of_le_of_lt (counted.trans phase.precededCount) fits)
  worstJitter := phase.worstJitter

/-- A step of the watched loop keeps it in phase. -/
theorem InPhase.step (phase : loop.InPhase config late samples balances history) (sampling : 0 < samples)
    (positive : 0 < balances) (event : LoopEvent σ F) :
    (loop.react event).InPhase config late samples balances
      (history.observe (loop.react event).peers.calls event) := by
  cases event with
  | measured peers measurement => exact (phase.measured sampling positive peers measurement).2
  | resetStatistics => exact phase.reset

/-- A loop in phase is in phase after every run. -/
theorem InPhase.run (phase : loop.InPhase config late samples balances history)
    (sampling : 0 < samples) (positive : 0 < balances) {after : ControlLoopImpl (Recorder σ F)}
    {later : PacingHistory} (reachable : watchedPacing.Reachable (loop, history) (after, later)) :
    after.InPhase config late samples balances later := by
  have kept (state next : ControlLoopImpl (Recorder σ F) × PacingHistory) (event : LoopEvent σ F)
      (held : state.1.InPhase config late samples balances state.2)
      (stepped : watchedPacing.step state event = some next) :
      next.1.InPhase config late samples balances next.2 := by
    obtain ⟨made, seen⟩ := Machine.observed_step.mp stepped
    rw [seen, ← Option.some.inj made]
    exact held.step sampling positive event
  exact reachable.invariant (fun state event next => kept state next event) phase

omit [AttitudeEstimation σ F] [BalanceStage σ F] [OuterStage σ] in
/-- A run goes on with one more event. -/
theorem watchedPacing_next [AttitudeEstimation σ F] [BalanceStage σ F] [OuterStage σ]
    {before : ControlLoopImpl (Recorder σ F)} {earlier : PacingHistory}
    (reachable : watchedPacing.Reachable (loop, history) (before, earlier)) (event : LoopEvent σ F) :
    watchedPacing.Reachable (loop, history)
      (before.react event, earlier.observe (before.react event).peers.calls event) :=
  reachable.trans (.single (Machine.observed_step.mpr ⟨rfl, rfl⟩))

/-- A run can bring any number of measurements. -/
theorem InPhase.reaches (phase : loop.InPhase config late samples balances .start)
    (sampling : 0 < samples) (positive : 0 < balances) (peers : σ) (measurement : Measurement F)
    (count : Nat) : ∃ after history, watchedPacing.Reachable (loop, .start) (after, history) ∧
      history.measurements = count := by
  induction count with
  | zero => exact ⟨loop, .start, .refl _ _, rfl⟩
  | succ count ih =>
      obtain ⟨before, earlier, reachable, counted⟩ := ih
      have held := phase.run sampling positive reachable
      refine ⟨_, _, watchedPacing_next reachable (.measured peers measurement), ?_⟩
      obtain ⟨calls, -⟩ := held.measured sampling positive peers measurement
      rw [← counted, calls, due]
      split
      · split
        · rfl
        · rfl
      · rfl

/-- Between two balance calls a run only counts its measurements. -/
theorem InPhase.idles (phase : loop.InPhase config late samples balances history)
    (sampling : 0 < samples) (positive : 0 < balances)
    (whole : samples.toNat ∣ history.measurements) (peers : σ) (measurement : Measurement F)
    {count : Nat} (few : count < samples.toNat) :
    ∃ after, watchedPacing.Reachable (loop, history)
      (after, { history with measurements := history.measurements + count }) := by
  induction count with
  | zero => exact ⟨loop, .refl _ _⟩
  | succ count ih =>
      obtain ⟨before, reachable⟩ := ih (Nat.lt_of_succ_lt few)
      have held := phase.run sampling positive reachable
      have apart : ¬ samples.toNat ∣ history.measurements + count + 1 := by
        rw [Nat.add_assoc, Nat.dvd_add_right whole]
        exact Nat.not_dvd_of_pos_of_lt count.succ_pos few
      have next := watchedPacing_next reachable (.measured peers measurement)
      rw [(held.measured sampling positive peers measurement).1, due, if_neg apart] at next
      exact ⟨_, next⟩

/-- The next balance call of a run comes after as many measurements as its ratio says. -/
theorem InPhase.balancesNext (phase : loop.InPhase config late samples balances history)
    (sampling : 0 < samples) (positive : 0 < balances)
    (whole : samples.toNat ∣ history.measurements) (peers : σ) (measurement : Measurement F) :
    ∃ after later, watchedPacing.Reachable (loop, history) (after, later) ∧
      samples.toNat ∣ later.measurements ∧ later.iterations = history.iterations + 1 ∧
      later.balances = measurement.sampledAt :: history.balances ∧
      later.preceded = if history.balances.isEmpty then history.preceded else history.preceded ++
        [measuredInterval (microseconds config.balancePeriod.toInt) history.balances
          measurement.sampledAt] := by
  have some := UInt32.lt_iff_toNat_lt.mp sampling
  have last : samples.toNat - 1 + 1 = samples.toNat := Nat.sub_add_cancel some
  obtain ⟨before, reachable⟩ := phase.idles sampling positive whole peers measurement
    (Nat.sub_one_lt_of_lt some)
  have held := phase.run sampling positive reachable
  have multiple : samples.toNat ∣ history.measurements + (samples.toNat - 1) + 1 := by
    rw [Nat.add_assoc, last]
    exact (Nat.dvd_add_right whole).mpr dvd_rfl
  refine ⟨_, _, watchedPacing_next reachable (.measured peers measurement), ?_⟩
  rw [(held.measured sampling positive peers measurement).1, due, if_pos multiple]
  split
  · exact ⟨multiple, rfl, rfl, rfl⟩
  · exact ⟨multiple, rfl, rfl, rfl⟩

/-- A run can bring any interval between its first two balance calls. -/
theorem InPhase.brings (phase : loop.InPhase config late samples balances .start)
    (sampling : 0 < samples) (positive : 0 < balances) (peers : σ) (measurement : Measurement F)
    (interval : Duration) : ∃ after later, watchedPacing.Reachable (loop, .start) (after, later) ∧
      later.iterations = 2 ∧ later.preceded = [interval] := by
  obtain ⟨middle, earlier, first, whole, iterations, balanced, preceded⟩ :=
    phase.balancesNext sampling positive (dvd_zero _) peers { measurement with sampledAt := 0 }
  obtain ⟨after, later, second, -, again, -, observed⟩ :=
    (phase.run sampling positive first).balancesNext sampling positive whole peers
      { measurement with sampledAt := interval }
  refine ⟨after, later, first.trans second, ?_, ?_⟩
  · rw [again, iterations]
    rfl
  · rw [observed, balanced, preceded]
    exact congrArg (fun only => [only]) (sub_zero interval)

omit [AttitudeEstimation σ F] [BalanceStage σ F] [OuterStage σ] in
/-- Two pairs of ratios that call for the same work divide the same counts. -/
theorem due_agree {measurement : Measurement F} {estimate : Estimate F}
    {samplesOne balancesOne samplesTwo balancesTwo : Nat}
    (agree : due config samplesOne balancesOne history measurement estimate =
      due config samplesTwo balancesTwo history measurement estimate)
    (multiple : samplesOne ∣ history.measurements + 1) :
    samplesTwo ∣ history.measurements + 1 ∧
      (balancesOne ∣ history.balances.length + 1 → balancesTwo ∣ history.balances.length + 1) := by
  unfold due at agree
  rw [if_pos multiple] at agree
  by_cases samplesToo : samplesTwo ∣ history.measurements + 1
  · refine ⟨samplesToo, fun outer => ?_⟩
    rw [if_pos samplesToo, if_pos outer] at agree
    by_contra apart
    rw [if_neg apart] at agree
    simp at agree
  · rw [if_neg samplesToo] at agree
    simp at agree

/-- A loop that counts its late intervals right counts them from the threshold that is due. -/
theorem InPhase.late_eq (phase : loop.InPhase config late samples balances .start)
    (sampling : 0 < samples) (positive : 0 < balances) (measurement : Measurement F)
    {first second : Nat} (pace : loop.KeepsPace (F := F) config first second) :
    late = lateAfter config := by
  refine eq_of_forall_gt_iff fun interval => ?_
  obtain ⟨after, later, reachable, iterations, preceded⟩ :=
    phase.brings sampling positive loop.peers.peers measurement interval
  have counts := (pace after later reachable).lateIterations (by rw [iterations]; decide)
  rw [(phase.run sampling positive reachable).lateIterations, preceded, List.countP_singleton,
    List.countP_singleton] at counts
  by_cases beyond : late < interval <;> by_cases due : lateAfter config < interval <;>
    simp [beyond, due] at counts ⊢

/-- A loop in phase keeps pace at its own two ratios only, and only with the threshold that is due. -/
theorem InPhase.keepsPace_iff (phase : loop.InPhase config late samples balances .start)
    (sampling : 0 < samples) (positive : 0 < balances) (measurement : Measurement F)
    {first second : Nat} (samplesWithin : samples.toNat ≤ first)
    (balancesWithin : balances.toNat ≤ second) :
    loop.KeepsPace (F := F) config first second ↔
      (samples.toNat = first ∧ balances.toNat = second) ∧ late = lateAfter config := by
  have someSamples := UInt32.lt_iff_toNat_lt.mp sampling
  have someBalances := UInt32.lt_iff_toNat_lt.mp positive
  constructor
  · intro pace
    let estimate := (AttitudeEstimation.update loop.peers.peers measurement).1
    have agree (count : Nat) : ∃ history : PacingHistory, history.measurements = count ∧
        history.balances.length = count / samples.toNat ∧
        due config samples.toNat balances.toNat history measurement estimate =
          due config first second history measurement estimate := by
      obtain ⟨after, history, reachable, counted⟩ :=
        phase.reaches sampling positive loop.peers.peers measurement count
      have held := phase.run sampling positive reachable
      refine ⟨history, counted, counted ▸ held.balanceCount, ?_⟩
      rw [← (held.measured sampling positive loop.peers.peers measurement).1]
      exact (pace after history reachable).calls loop.peers.peers measurement
    refine ⟨?_, phase.late_eq sampling positive measurement pace⟩
    constructor
    -- the shorter of two sample counts would balance where the longer one does not
    · obtain ⟨history, counted, -, calls⟩ := agree (samples.toNat - 1)
      have next : history.measurements + 1 = samples.toNat :=
        counted ▸ Nat.sub_add_cancel someSamples
      have multiple := (due_agree calls (next ▸ dvd_rfl)).1
      exact le_antisymm samplesWithin (Nat.le_of_dvd someSamples (next ▸ multiple))
    · obtain ⟨history, counted, balanced, calls⟩ := agree (samples.toNat * balances.toNat - 1)
      have next : history.measurements + 1 = samples.toNat * balances.toNat :=
        counted ▸ Nat.sub_add_cancel (Nat.mul_pos someSamples someBalances)
      have multiple : samples.toNat ∣ history.measurements + 1 := next ▸ Dvd.intro _ rfl
      have last : history.balances.length + 1 = balances.toNat := by
        rw [balanced, ← counted, ← (Divider.due multiple).2, next]
        exact Nat.mul_div_cancel_left _ someSamples
      have outer := (due_agree calls multiple).2 (last ▸ dvd_rfl)
      exact le_antisymm balancesWithin (Nat.le_of_dvd someBalances (last ▸ outer))
  · rintro ⟨⟨rfl, rfl⟩, rfl⟩ after history reachable
    exact (phase.run sampling positive reachable).onTime sampling positive

end Steps

theorem toInt_eq_zero_iff {count : Int64} : count.toInt = 0 ↔ count = 0 := Int64.toInt_inj (y := 0)

theorem remainder_eq_zero_iff {dividend divisor : Int64} :
    dividend % divisor = 0 ↔ dividend.toInt.tmod divisor.toInt = 0 := by
  rw [← toInt_eq_zero_iff, Int64.toInt_mod]

/-- No quotient by a positive count overflows. -/
theorem computes_of_pos (dividend : Int64) {divisor : Int64} (positive : 0 < divisor.toInt) :
    ¬ Overflows dividend divisor := by
  rintro ⟨-, rfl⟩
  exact absurd positive (by decide)

/-- A ratio is narrowed to 32 bits, whatever its sign. -/
theorem narrowed_int (ratio : Int) : ((UInt32.ofInt ratio).toNat : Int) = ratio % 2 ^ 32 := by
  have above := Int.emod_nonneg ratio (by decide : (2 ^ 32 : Int) ≠ 0)
  have below := Int.emod_lt_of_pos ratio (by decide : (0 : Int) < 2 ^ 32)
  unfold UInt32.ofInt
  rw [UInt32.toNat_ofNat', Nat.mod_eq_of_lt (by omega), Int.toNat_of_nonneg above]

theorem narrowed (ratio : Nat) : (UInt32.ofInt ratio).toNat = ratio % 2 ^ 32 := by
  exact_mod_cast narrowed_int ratio

theorem exact_ratio {first second ratio : Int} (nonzero : first ≠ 0)
    (multiple : ratio * first = second) : second.tdiv first = ratio ∧ second.tmod first = 0 := by
  subst multiple
  exact ⟨Int.mul_tdiv_cancel _ nonzero, Int.mul_tmod_left _ _⟩

theorem exact_ratio_pos {first second : Int} {ratio : Nat} (positive : 0 < second)
    (multiple : ratio * first = second) : 0 < ratio := by
  rcases Nat.eq_zero_or_pos ratio with rfl | some
  · exact absurd multiple (by simpa using positive.ne)
  · exact some

/-- A ratio that fits stays above zero. -/
theorem narrowed_pos {ratio : Nat} (positive : 0 < ratio) (fits : ratio < 2 ^ 32) :
    0 < UInt32.ofInt ratio := by
  rw [UInt32.lt_iff_toNat_lt, narrowed, Nat.mod_eq_of_lt fits]
  exact positive

section Threshold

/-- A count is wrapped by a whole multiple of 2 ^ 64 into the range of 64 bits. -/
theorem wrapped_cases (count : Int) : ∃ turns : Int, count.bmod (2 ^ 64) = count - turns * 2 ^ 64 ∧
    -2 ^ 63 ≤ count.bmod (2 ^ 64) ∧ count.bmod (2 ^ 64) < 2 ^ 63 := by
  have split := Int.bmod_def count (2 ^ 64)
  refine ⟨if count % 2 ^ 64 < 2 ^ 63 then count / 2 ^ 64 else count / 2 ^ 64 + 1, ?_⟩
  rw [split]
  split <;> split <;> omega

theorem wrapped_sum_iff {period share : Int} (positive : 0 < period) (below : period < 2 ^ 63)
    (product : 0 ≤ share) :
    (period + (share.bmod (2 ^ 64)).tdiv 100).bmod (2 ^ 64) = period + share / 100 ↔
      share < 2 ^ 63 ∧ period + share / 100 < 2 ^ 63 := by
  constructor
  · intro exact
    obtain ⟨turns, wrapped, above, under⟩ := wrapped_cases share
    obtain ⟨more, summed, -, within⟩ :=
      wrapped_cases (period + (share.bmod (2 ^ 64)).tdiv 100)
    rw [exact] at summed within
    refine ⟨?_, within⟩
    rcases le_total 0 (share.bmod (2 ^ 64)) with kept | turned
    · rw [Int.tdiv_eq_ediv_of_nonneg kept] at summed
      omega
    · have negated : (share.bmod (2 ^ 64)).tdiv 100 = -(-share.bmod (2 ^ 64) / 100) := by
        rw [← Int.tdiv_eq_ediv_of_nonneg (by omega), Int.neg_tdiv, neg_neg]
      rw [negated] at summed
      omega
  · rintro ⟨fits, within⟩
    have kept : share.bmod (2 ^ 64) = share := Int.bmod_eq_of_le (by omega) (by omega)
    rw [kept, Int.tdiv_eq_ediv_of_nonneg product]
    exact Int.bmod_eq_of_le (by omega) (by omega)

theorem wrapped_product (period : Int64) (percentage : UInt32) :
    (period * Int64.ofNat percentage.toNat).toInt =
      (period.toInt * percentage.toNat).bmod (2 ^ 64) := by
  have small : percentage.toNat < 2 ^ 63 := percentage.toNat_lt.trans (by decide)
  rw [Int64.toInt_mul, Int64.toInt_ofNat_of_lt small]

/-- The threshold is the one that is due exactly where the product and the sum fit in 64 bits. -/
theorem threshold_due_iff {config : Config} (positive : 0 < config.balancePeriod.toInt) :
    config.lateThreshold = lateAfter config ↔
      config.balancePeriod.toInt * config.latePercentage.toNat < 2 ^ 63 ∧
        config.balancePeriod.toInt +
          config.balancePeriod.toInt * config.latePercentage.toNat / 100 < 2 ^ 63 := by
  have product : 0 ≤ config.balancePeriod.toInt * config.latePercentage.toNat :=
    Int.mul_nonneg positive.le (Int.natCast_nonneg _)
  have hundredth (count : Int64) : (count / 100).toInt = count.toInt.tdiv 100 :=
    Int64.toInt_div_of_ne_right _ _ (by decide)
  unfold Config.lateThreshold lateAfter microseconds
  rw [mul_left_inj' (by decide), Int64.toInt_add, hundredth, wrapped_product,
    Int.tdiv_eq_ediv_of_nonneg product]
  exact wrapped_sum_iff positive config.balancePeriod.toInt_lt product

end Threshold

section Ratios
variable {first second : Nat} (samplePositive : 0 < config.samplePeriod.toInt)
  (balancePositive : 0 < config.balancePeriod.toInt) (outerPositive : 0 < config.outerPeriod.toInt)
  (samplesExact : first * config.samplePeriod.toInt = config.balancePeriod.toInt)
  (balancesExact : second * config.balancePeriod.toInt = config.outerPeriod.toInt)
include samplePositive balancePositive samplesExact balancesExact

/-- A loop that is constructed has its two ratios narrowed. -/
theorem construct_ratios {peers : σ} {loop : ControlLoopImpl σ}
    (constructed : construct peers config = .ok loop) :
    loop.samplesPerBalance.toNat = first % 2 ^ 32 ∧
      loop.balancesPerOuter.toNat = second % 2 ^ 32 := by
  obtain ⟨rfl, -, -⟩ := construct_fields constructed
  constructor
  · rw [← narrowed, (exact_ratio samplePositive.ne' samplesExact).1]
  · rw [← narrowed, (exact_ratio balancePositive.ne' balancesExact).1]

include outerPositive in
/-- Two ratios that fit are accepted. -/
theorem construct_accepts (peers : σ) (samplesFit : first < 2 ^ 32) (balancesFit : second < 2 ^ 32) :
    ∃ loop, construct peers config = .ok loop := by
  obtain ⟨samples, exactSamples⟩ := exact_ratio samplePositive.ne' samplesExact
  obtain ⟨balances, exactBalances⟩ := exact_ratio balancePositive.ne' balancesExact
  have samplesAbove := narrowed_pos (exact_ratio_pos balancePositive samplesExact) samplesFit
  have balancesAbove := narrowed_pos (exact_ratio_pos outerPositive balancesExact) balancesFit
  have divides : ¬ (config.samplePeriod = 0 ∨ config.balancePeriod = 0) := by
    rw [← toInt_eq_zero_iff, ← toInt_eq_zero_iff]
    exact not_or.mpr ⟨samplePositive.ne', balancePositive.ne'⟩
  have samplesComputed := computes_of_pos config.balancePeriod samplePositive
  have balancesComputed := computes_of_pos config.outerPeriod balancePositive
  unfold construct
  rw [if_neg divides, if_neg (not_or.mpr ⟨samplesComputed, balancesComputed⟩)]
  dsimp only
  rw [quotient_toInt samplesComputed, quotient_toInt balancesComputed, samples, balances]
  exact ⟨_, if_pos ⟨Int64.lt_iff_toInt_lt.mpr samplePositive,
    ⟨samplesAbove, remainder_eq_zero_iff.mpr exactSamples⟩, balancesAbove,
    remainder_eq_zero_iff.mpr exactBalances⟩⟩

end Ratios

end Phases

/-- An estimate that never changes stands for the three peers. -/
structure SteadyPeers (F : Type) where
  estimate : Estimate F

instance {F : Type} : AttitudeEstimation (SteadyPeers F) F where
  update peers _ := (peers.estimate, peers)

instance {F : Type} : BalanceStage (SteadyPeers F) F where
  balance peers _ _ := peers

instance {F : Type} : OuterStage (SteadyPeers F) where
  steer peers _ := peers

def uprightPeers : Recorder (SteadyPeers ℚ) ℚ := ⟨⟨⟨0, 0, true, .none⟩⟩, []⟩

/-- The loop is constructed and keeps pace exactly where both ratios fit in 32 bits and the late
threshold is computed within 64 bits. -/
theorem keeps_pace_iff_counts_fit {σ F : Type} [Inhabited F] [AttitudeEstimation σ F]
    [BalanceStage σ F] [OuterStage σ] (peers : Recorder σ F) (config : Config) (samples balances : Nat)
    (samplePositive : 0 < config.samplePeriod.toInt)
    (balancePositive : 0 < config.balancePeriod.toInt)
    (outerPositive : 0 < config.outerPeriod.toInt)
    (samplesExact : samples * config.samplePeriod.toInt = config.balancePeriod.toInt)
    (balancesExact : balances * config.balancePeriod.toInt = config.outerPeriod.toInt) :
    (∃ loop, construct peers config = .ok loop ∧
        loop.KeepsPace (F := F) config samples balances) ↔
      (samples < 2 ^ 32 ∧ balances < 2 ^ 32) ∧
        config.balancePeriod.toInt * config.latePercentage.toNat < 2 ^ 63 ∧
        config.balancePeriod.toInt +
          config.balancePeriod.toInt * config.latePercentage.toNat / 100 < 2 ^ 63 := by
  have measurement : Measurement F :=
    ⟨⟨default, default, default⟩, ⟨default, default, default⟩, 0, true, .none⟩
  have pace {loop : ControlLoopImpl (Recorder σ F)} (constructed : construct peers config = .ok loop) :
      loop.KeepsPace (F := F) config samples balances ↔
        (samples < 2 ^ 32 ∧ balances < 2 ^ 32) ∧ config.lateThreshold = lateAfter config := by
    obtain ⟨narrowSamples, narrowBalances⟩ := construct_ratios samplePositive balancePositive
      samplesExact balancesExact constructed
    obtain ⟨-, sampling, balancing⟩ := construct_fields constructed
    rw [(construct_inPhase constructed).keepsPace_iff sampling balancing measurement
      (narrowSamples ▸ Nat.mod_le _ _) (narrowBalances ▸ Nat.mod_le _ _), narrowSamples,
      narrowBalances, Nat.mod_eq_iff_lt (by decide), Nat.mod_eq_iff_lt (by decide)]
  rw [← threshold_due_iff balancePositive]
  constructor
  · rintro ⟨loop, constructed, keeps⟩
    exact (pace constructed).mp keeps
  · rintro ⟨⟨samplesFit, balancesFit⟩, threshold⟩
    obtain ⟨loop, constructed⟩ := construct_accepts samplePositive balancePositive outerPositive
      samplesExact balancesExact peers samplesFit balancesFit
    exact ⟨loop, constructed, (pace constructed).mpr ⟨⟨samplesFit, balancesFit⟩, threshold⟩⟩

theorem keeps_pace_at_the_default_rates :
    (∃ loop, construct uprightPeers .default = .ok loop ∧
        loop.KeepsPace (F := ℚ) .default 2 10) ↔
      (2 < 2 ^ 32 ∧ 10 < 2 ^ 32) ∧ (2000 : Int) * 10 < 2 ^ 63 ∧
        (2000 : Int) + 2000 * 10 / 100 < 2 ^ 63 :=
  keeps_pace_iff_counts_fit uprightPeers .default 2 10 (by decide) (by decide) (by decide)
    (by decide) (by decide)

/-- One balance call is due every 2 ^ 32 + 1 measurements. -/
def wideConfig : Config where
  samplePeriod := 1
  balancePeriod := 4294967297
  outerPeriod := 4294967297
  latePercentage := 10

/-- Both ratios are one, and the product with the percentage takes more than 63 bits. -/
def lateConfig : Config where
  samplePeriod := 4294967296
  balancePeriod := 4294967296
  outerPeriod := 4294967296
  latePercentage := 4294967295

/-- The wide ratio is narrowed to one, so that the first measurement is balanced already, and the
wrapped product puts the late threshold below the period. -/
theorem wide_counts_lose_pace :
    (∃ loop, construct uprightPeers wideConfig = .ok loop ∧
      ¬ loop.KeepsPace (F := ℚ) wideConfig 4294967297 1) ∧
    ∃ loop, construct uprightPeers lateConfig = .ok loop ∧
      ¬ loop.KeepsPace (F := ℚ) lateConfig 1 1 := by
  let measurement : Measurement ℚ := ⟨⟨0, 0, 0⟩, ⟨0, 0, 0⟩, 0, true, .none⟩
  refine ⟨⟨_, rfl, ?_⟩, ⟨_, rfl, ?_⟩⟩
  · intro pace
    have calls := (pace _ .start (.refl _ _)).calls ⟨⟨0, 0, true, .none⟩⟩ measurement
    have apart : ¬ 4294967297 ∣ PacingHistory.start.measurements + 1 := by decide
    rw [due, if_neg apart] at calls
    exact List.cons_ne_nil _ _ (List.cons.inj calls).2
  · intro pace
    have constructed : construct uprightPeers lateConfig = .ok _ := rfl
    have threshold := (construct_inPhase constructed).late_eq (by decide) (by decide) measurement pace
    exact absurd threshold (by decide)

end ControlLoopImpl
end InvertedPendulum.Control
