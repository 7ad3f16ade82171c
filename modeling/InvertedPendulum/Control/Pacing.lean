import InvertedPendulum.Control.ControlLoop
import InvertedPendulum.Reactive.Divider
import InvertedPendulum.Reactive.Machine

namespace InvertedPendulum.Control
open Sensing Estimation Reactive

/-- The loop makes these calls of its peers. -/
inductive LoopCall (F : Type) where
  | update (measurement : Measurement F)
  | balance (estimate : Estimate F) (interval : Duration)
  | steer (interval : Duration)

/-- The recorder lists the calls on their way to the peers. -/
structure Recorder (σ F : Type) where
  peers : σ
  calls : List (LoopCall F)

section Recording
variable {σ F : Type} [AttitudeEstimation σ F] [BalanceStage σ F] [OuterStage σ]

instance : AttitudeEstimation (Recorder σ F) F where
  update recorder measurement :=
    let (estimate, peers) := AttitudeEstimation.update recorder.peers measurement
    (estimate, ⟨peers, recorder.calls ++ [.update measurement]⟩)

omit [AttitudeEstimation σ F] [OuterStage σ] in
instance : BalanceStage (Recorder σ F) F where
  balance recorder estimate interval :=
    ⟨BalanceStage.balance recorder.peers estimate interval,
      recorder.calls ++ [.balance estimate interval]⟩

omit [AttitudeEstimation σ F] [BalanceStage σ F] in
instance : OuterStage (Recorder σ F) where
  steer recorder interval :=
    ⟨OuterStage.steer recorder.peers interval, recorder.calls ++ [.steer interval]⟩

end Recording

/-- A measurement finds the peers in any state, and the operator resets the statistics. -/
inductive LoopEvent (σ F : Type) where
  | measured (peers : σ) (measurement : Measurement F)
  | resetStatistics

/-- This is what the calls of a run tell, with the latest time first. -/
structure PacingHistory where
  measurements : Nat
  balances : List TimePoint
  steers : List TimePoint
  intervals : List Duration
  iterations : Nat
  preceded : List Duration

namespace PacingHistory
variable {σ F : Type}

def start : PacingHistory := ⟨0, [], [], [], 0, []⟩

/-- The intervals are those of the balance calls since the last steer, and the preceded ones are
those since the last reset whose call had a predecessor. -/
def note (sampledAt : TimePoint) (history : PacingHistory) : LoopCall F → PacingHistory
  | .update _ => { history with measurements := history.measurements + 1 }
  | .balance _ interval =>
      { history with
        balances := sampledAt :: history.balances
        intervals := history.intervals ++ [interval]
        iterations := history.iterations + 1
        preceded :=
          if history.balances.isEmpty then history.preceded else history.preceded ++ [interval] }
  | .steer _ => { history with steers := sampledAt :: history.steers, intervals := [] }

/-- A reset forgets the statistics, and a measurement brings its calls. -/
def observe (history : PacingHistory) (calls : List (LoopCall F)) : LoopEvent σ F → PacingHistory
  | .measured _ measurement => calls.foldl (note measurement.sampledAt) history
  | .resetStatistics => { history with iterations := 0, preceded := [] }

end PacingHistory

/-- The first run of a stage receives the nominal period, and every later one the time since its
predecessor. -/
def measuredInterval (nominal : Duration) (previous : List TimePoint) (sampledAt : TimePoint) :
    Duration := previous.head?.elim nominal (sampledAt - ·)

namespace ControlLoopImpl
variable {σ F : Type} [AttitudeEstimation σ F] [BalanceStage σ F] [OuterStage σ]

omit [AttitudeEstimation σ F] [BalanceStage σ F] [OuterStage σ] in
/-- An event finds the peers and lists its own calls. -/
def attend (loop : ControlLoopImpl (Recorder σ F)) (peers : σ) : ControlLoopImpl (Recorder σ F) :=
  { loop with peers := ⟨peers, []⟩ }

def react (loop : ControlLoopImpl (Recorder σ F)) : LoopEvent σ F → ControlLoopImpl (Recorder σ F)
  | .measured peers measurement => (loop.attend peers).onMeasurement measurement
  | .resetStatistics => (loop.attend loop.peers.peers).resetStatistics

def pacingMachine : Machine (ControlLoopImpl (Recorder σ F)) (LoopEvent σ F) where
  step loop event := some (loop.react event)

def watchedPacing : Machine (ControlLoopImpl (Recorder σ F) × PacingHistory) (LoopEvent σ F) :=
  pacingMachine.observed fun history _ event next => history.observe next.peers.calls event

/-- These calls are due on the next measurement, at one balance call for every `samples`
measurements and one steer for every `balances` balance calls. -/
def due (config : Config) (samples balances : Nat) (history : PacingHistory)
    (measurement : Measurement F) (estimate : Estimate F) : List (LoopCall F) :=
  .update measurement ::
    if samples ∣ history.measurements + 1 then
      .balance estimate (measuredInterval (microseconds config.balancePeriod.toInt) history.balances
          measurement.sampledAt) ::
        if balances ∣ history.balances.length + 1 then
          [.steer (measuredInterval (microseconds config.outerPeriod.toInt) history.steers
            measurement.sampledAt)]
        else []
    else []

/-- An interval is late beyond this share over the period. -/
def lateAfter (config : Config) : Duration :=
  microseconds (config.balancePeriod.toInt +
    (config.balancePeriod.toInt * config.latePercentage.toNat).tdiv 100)

/-- The largest deviation of some intervals from the balance period. -/
def worstDeviation (config : Config) (intervals : List Duration) : Duration :=
  intervals.foldl (fun worst interval =>
    max worst |interval - microseconds config.balancePeriod.toInt|) 0

/-- The loop is on time after a history when the next measurement makes the calls that are due, no
steer loses time against its balance calls, and the statistics are those of the history. -/
structure OnTime (config : Config) (samples balances : Nat)
    (loop : ControlLoopImpl (Recorder σ F)) (history : PacingHistory) : Prop where
  calls : ∀ peers (measurement : Measurement F),
    (loop.react (.measured peers measurement)).peers.calls =
      due config samples balances history measurement
        (AttitudeEstimation.update peers measurement).1
  balanceCount : history.balances.length = history.measurements / samples
  steerCount : history.steers.length = history.balances.length / balances
  telescopes : ∀ sampledAt, balances ∣ history.balances.length + 1 → history.steers ≠ [] →
    (history.intervals ++ [measuredInterval (microseconds config.balancePeriod.toInt) history.balances
        sampledAt]).length = balances ∧
      measuredInterval (microseconds config.outerPeriod.toInt) history.steers sampledAt =
        (history.intervals ++ [measuredInterval (microseconds config.balancePeriod.toInt)
          history.balances sampledAt]).sum
  iterations : history.iterations < 2 ^ 32 → loop.statistics.iterations.toNat = history.iterations
  lateIterations : history.iterations < 2 ^ 32 →
    loop.statistics.lateIterations.toNat = history.preceded.countP (lateAfter config < ·)
  worstJitter : loop.statistics.worstJitter = worstDeviation config history.preceded

/-- A loop keeps pace when it is on time after every run. -/
def KeepsPace (config : Config) (samples balances : Nat)
    (loop : ControlLoopImpl (Recorder σ F)) : Prop :=
  ∀ after history, watchedPacing.Reachable (loop, .start) (after, history) →
    after.OnTime config samples balances history

end ControlLoopImpl
end InvertedPendulum.Control
