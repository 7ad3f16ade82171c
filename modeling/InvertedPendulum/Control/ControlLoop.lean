import InvertedPendulum.Control.Stages

namespace InvertedPendulum.Control
open Sensing Estimation

structure TimingStatistics where
  iterations : UInt32
  worstJitter : Duration
  lateIterations : UInt32
  deriving DecidableEq

/-- The three periods count microseconds, in the 64 bits of `std::chrono::microseconds`. -/
structure ControlLoopImpl.Config where
  samplePeriod : Int64
  balancePeriod : Int64
  outerPeriod : Int64
  latePercentage : UInt32

/-- The peers are the objects behind the references to estimation and to both stages. -/
structure ControlLoopImpl (σ : Type) where
  peers : σ
  config : ControlLoopImpl.Config
  samplesPerBalance : UInt32
  balancesPerOuter : UInt32
  lateThreshold : Duration
  samplesSinceBalance : UInt32
  balancesSinceOuter : UInt32
  previousBalance : Option TimePoint
  previousOuter : Option TimePoint
  statistics : TimingStatistics

namespace ControlLoopImpl
variable {F σ : Type}

def Config.default : Config where
  samplePeriod := 1000
  balancePeriod := 2000
  outerPeriod := 20000
  latePercentage := 10

/-- A construction can fail in the member initialisers or in the assertions after them. -/
inductive Failure where
  | divisionByZero
  | overflow
  | assertion
  deriving DecidableEq

/-- The one quotient that 64 bits cannot hold. -/
def Overflows (dividend divisor : Int64) : Prop := dividend = Int64.minValue ∧ divisor = -1

instance (dividend divisor : Int64) : Decidable (Overflows dividend divisor) :=
  inferInstanceAs (Decidable (_ ∧ _))

/-- The product with the percentage and the sum wrap at 64 bits. -/
def Config.lateThreshold (config : Config) : Duration :=
  microseconds (config.balancePeriod +
    config.balancePeriod * Int64.ofNat config.latePercentage.toNat / 100).toInt

/-- The quotients are taken before the assertions check their divisors. -/
def construct (peers : σ) (config : Config) : Except Failure (ControlLoopImpl σ) :=
  if config.samplePeriod = 0 ∨ config.balancePeriod = 0 then .error .divisionByZero
  else if Overflows config.balancePeriod config.samplePeriod ∨
      Overflows config.outerPeriod config.balancePeriod then .error .overflow
  else
    let samplesPerBalance := UInt32.ofInt (config.balancePeriod / config.samplePeriod).toInt
    let balancesPerOuter := UInt32.ofInt (config.outerPeriod / config.balancePeriod).toInt
    if 0 < config.samplePeriod ∧
        (0 < samplesPerBalance ∧ config.balancePeriod % config.samplePeriod = 0) ∧
        0 < balancesPerOuter ∧ config.outerPeriod % config.balancePeriod = 0 then
      .ok {
        peers
        config
        samplesPerBalance
        balancesPerOuter
        lateThreshold := config.lateThreshold
        samplesSinceBalance := 0
        balancesSinceOuter := 0
        previousBalance := none
        previousOuter := none
        statistics := ⟨0, 0, 0⟩ }
    else .error .assertion

def resetStatistics (loop : ControlLoopImpl σ) : ControlLoopImpl σ :=
  { loop with statistics := ⟨0, 0, 0⟩ }

def observe (loop : ControlLoopImpl σ) (interval : Duration) : ControlLoopImpl σ :=
  let balancePeriod := microseconds loop.config.balancePeriod.toInt
  let deviation :=
    if interval > balancePeriod then interval - balancePeriod else balancePeriod - interval
  { loop with
    statistics := { loop.statistics with
      worstJitter := max loop.statistics.worstJitter deviation
      lateIterations :=
        if interval > loop.lateThreshold then loop.statistics.lateIterations + 1
        else loop.statistics.lateIterations } }

def runBalance [BalanceStage σ F] (loop : ControlLoopImpl σ) (estimate : Estimate F)
    (sampledAt : TimePoint) : ControlLoopImpl σ :=
  let interval :=
    match loop.previousBalance with
    | none => microseconds loop.config.balancePeriod.toInt
    | some previous => sampledAt - previous
  let observed := if loop.previousBalance.isSome then loop.observe interval else loop
  { observed with
    previousBalance := some sampledAt
    statistics := { observed.statistics with iterations := observed.statistics.iterations + 1 }
    peers := BalanceStage.balance observed.peers estimate interval }

def runOuter [OuterStage σ] (loop : ControlLoopImpl σ) (sampledAt : TimePoint) :
    ControlLoopImpl σ :=
  let interval :=
    match loop.previousOuter with
    | none => microseconds loop.config.outerPeriod.toInt
    | some previous => sampledAt - previous
  { loop with
    previousOuter := some sampledAt
    peers := OuterStage.steer loop.peers interval }

variable [AttitudeEstimation σ F] [BalanceStage σ F] [OuterStage σ]

/-- Every measurement updates the estimate; balance runs at one divided rate and outer at another. -/
def onMeasurement (loop : ControlLoopImpl σ) (measurement : Measurement F) : ControlLoopImpl σ :=
  let (estimate, peers) := AttitudeEstimation.update loop.peers measurement
  let sampled := { loop with peers, samplesSinceBalance := loop.samplesSinceBalance + 1 }
  if sampled.samplesSinceBalance < sampled.samplesPerBalance then sampled
  else
    let balanced := { sampled with samplesSinceBalance := 0 }.runBalance estimate measurement.sampledAt
    let counted := { balanced with balancesSinceOuter := balanced.balancesSinceOuter + 1 }
    if counted.balancesSinceOuter < counted.balancesPerOuter then counted
    else { counted with balancesSinceOuter := 0 }.runOuter measurement.sampledAt

/-- A measurement does one of these things to the loop and its peers. -/
inductive Iteration (before after : ControlLoopImpl σ) (measurement : Measurement F) : Prop where
  | sampled (early : before.samplesSinceBalance + 1 < before.samplesPerBalance)
      (counter : after.samplesSinceBalance = before.samplesSinceBalance + 1)
      (peers : after.peers = (AttitudeEstimation.update before.peers measurement).2)
  | balanced (interval : Duration)
      (due : ¬ before.samplesSinceBalance + 1 < before.samplesPerBalance)
      (counter : after.samplesSinceBalance = 0)
      (peers : after.peers = BalanceStage.balance
        (AttitudeEstimation.update before.peers measurement).2
        (AttitudeEstimation.update before.peers measurement).1 interval)
  | steered (interval outer : Duration)
      (due : ¬ before.samplesSinceBalance + 1 < before.samplesPerBalance)
      (counter : after.samplesSinceBalance = 0)
      (peers : after.peers = OuterStage.steer (BalanceStage.balance
        (AttitudeEstimation.update before.peers measurement).2
        (AttitudeEstimation.update before.peers measurement).1 interval) outer)

omit [AttitudeEstimation σ F] [OuterStage σ] in
/-- A balance run touches neither the counters nor the periods. -/
theorem runBalance_eq (loop : ControlLoopImpl σ) (estimate : Estimate F) (sampledAt : TimePoint) :
    ∃ interval, (loop.runBalance estimate sampledAt).peers =
        BalanceStage.balance loop.peers estimate interval ∧
      (loop.runBalance estimate sampledAt).samplesSinceBalance = loop.samplesSinceBalance ∧
      (loop.runBalance estimate sampledAt).samplesPerBalance = loop.samplesPerBalance := by
  unfold runBalance
  cases loop.previousBalance with
  | none => exact ⟨_, rfl, rfl, rfl⟩
  | some previous => exact ⟨_, rfl, rfl, rfl⟩

/-- Every measurement does one thing to the loop and its peers, and keeps the ratio. -/
theorem onMeasurement_iteration (loop : ControlLoopImpl σ) (measurement : Measurement F) :
    loop.Iteration (loop.onMeasurement measurement) measurement ∧
      (loop.onMeasurement measurement).samplesPerBalance = loop.samplesPerBalance := by
  unfold onMeasurement
  simp only []
  split
  · rename_i early
    exact ⟨.sampled early rfl rfl, rfl⟩
  · rename_i due
    obtain ⟨interval, peers, counter, ratio⟩ := runBalance_eq
      { loop with
        peers := (AttitudeEstimation.update loop.peers measurement).2
        samplesSinceBalance := 0 }
      (AttitudeEstimation.update loop.peers measurement).1 measurement.sampledAt
    split
    · exact ⟨.balanced interval due counter peers, ratio⟩
    · exact ⟨.steered interval _ due counter (congrArg (OuterStage.steer · _) peers), ratio⟩

end ControlLoopImpl
end InvertedPendulum.Control
