import InvertedPendulum.Arithmetic.Exact
import InvertedPendulum.Balance.LqrStrategy
import InvertedPendulum.Balance.StrategyCalls

namespace InvertedPendulum.Balance
open Estimation Odometry Reactive

/-- The regulator of the toolbox returns minus its gains times the state. -/
def NegatesProduct (R : Type) {F : Type} [Field F] [LinearOrder F] [Regulator R F] : Prop :=
  ∀ gains state : Vector F 4,
    Regulator.computeControl (Regulator.construct gains : R) state =
      -(gains[0] * state[0] + gains[1] * state[1] + gains[2] * state[2] + gains[3] * state[3])

/-- This is what a client knows of the last outer iteration since a reset, and whether the strategy
was told of a saturation after it. -/
structure OuterIteration (F : Type) where
  velocityDeviation : F
  differential : F
  suspended : Bool

namespace LqrStrategy
variable {R P F : Type} [Field F] [LinearOrder F] [Regulator R F] [IncrementalPid P F]

def yawGains (strategy : LqrStrategy R P F) : PidGains F :=
  ⟨strategy.gains.get yawKp, strategy.gains.get yawKi, strategy.gains.get yawKd⟩

/-- The client remembers the deviation and the output of the yaw loop of an outer iteration. -/
def remember (memory : OuterIteration F) (strategy : LqrStrategy R P F) :
    StrategyCall F → OuterIteration F
  | .reset => ⟨0, 0, false⟩
  | .steer setpoints chassis intervalSeconds =>
      { velocityDeviation := chassis.forwardVelocity - setpoints.velocity
        differential := (strategy.yawLoop.process setpoints.yawRate chassis.yawRate
          strategy.yawGains intervalSeconds).1
        suspended := false }
  | .saturated _ => { memory with suspended := true }
  | _ => memory

def watchedMachine : Machine (LqrStrategy R P F × OuterIteration F) (StrategyCall F) :=
  StrategyCall.machine.observed fun memory strategy call _ => remember memory strategy call

/-- The strategy agrees with what its client remembers, and its deviation is bounded. -/
structure Regulated (bound : F) (strategy : LqrStrategy R P F) (memory : OuterIteration F) :
    Prop where
  rebuilt : strategy.regulator = regulatorFor strategy.gains
  maximum : strategy.maximumPositionDeviation = bound
  bounded : |strategy.positionDeviation| ≤ bound
  velocity : strategy.velocityDeviation = memory.velocityDeviation
  differential : strategy.differential = memory.differential
  suspended : strategy.saturated = memory.suspended

/-- An accumulation is clamped to the bound on both sides. -/
def accumulated (bound position velocityDeviation intervalSeconds : F) : F :=
  max (-bound) (min (position + velocityDeviation * intervalSeconds) bound)

section Laws
variable [IsStrictOrderedRing F]

theorem accumulated_bounded {bound : F} (nonnegative : 0 ≤ bound)
    (position velocityDeviation intervalSeconds : F) :
    |accumulated bound position velocityDeviation intervalSeconds| ≤ bound := by
  rw [abs_le]
  constructor
  · exact le_max_left _ _
  · exact max_le (neg_le_self nonnegative) (min_le_right _ _)

theorem construct_regulated {config : Config F} (nonnegative : 0 ≤ config.maximumPositionDeviation) :
    (construct config : LqrStrategy R P F).Regulated config.maximumPositionDeviation ⟨0, 0, false⟩ where
  rebuilt := rfl
  maximum := rfl
  bounded := by
    change |(0 : F)| ≤ config.maximumPositionDeviation
    rwa [abs_zero]
  velocity := rfl
  differential := rfl
  suspended := rfl

variable {bound : F} {strategy : LqrStrategy R P F} {memory : OuterIteration F}

/-- An outer iteration accumulates the position deviation unless it is suspended. -/
theorem Regulated.steer_position (regulated : strategy.Regulated bound memory)
    (nonnegative : 0 ≤ bound) (setpoints : Setpoints F) (chassis : ChassisMotion F)
    (intervalSeconds : F) :
    (strategy.steer setpoints chassis intervalSeconds).positionDeviation =
      if memory.suspended then strategy.positionDeviation
      else accumulated bound strategy.positionDeviation
        (chassis.forwardVelocity - setpoints.velocity) intervalSeconds := by
  have clamped : clamp (strategy.positionDeviation +
      (chassis.forwardVelocity - setpoints.velocity) * intervalSeconds) (-bound) bound =
        accumulated bound strategy.positionDeviation
          (chassis.forwardVelocity - setpoints.velocity) intervalSeconds :=
    clamp_eq_max_min (neg_le_self nonnegative)
  rw [← regulated.suspended, ← clamped, ← regulated.maximum]
  cases suspended : strategy.saturated with
  | false =>
      simp only [steer, suspended]
      rfl
  | true =>
      simp only [steer, suspended]
      rfl

/-- Every call keeps the strategy in agreement with its client. -/
theorem Regulated.answer (regulated : strategy.Regulated bound memory) (nonnegative : 0 ≤ bound)
    {call : StrategyCall F} {next : LqrStrategy R P F}
    (answered : StrategyCall.answer strategy call = some next) :
    next.Regulated bound (remember memory strategy call) := by
  cases call with
  | setParameter index value =>
      obtain ⟨-, rfl⟩ := setParameter_stored answered
      exact { regulated with rebuilt := rfl }
  | reset =>
      obtain rfl := Option.some.inj answered
      refine ⟨regulated.rebuilt, regulated.maximum, ?_, rfl, rfl, rfl⟩
      change |(0 : F)| ≤ bound
      rwa [abs_zero]
  | steer setpoints chassis intervalSeconds =>
      obtain rfl := Option.some.inj answered
      refine ⟨regulated.rebuilt, regulated.maximum, ?_, rfl, rfl, rfl⟩
      change |(strategy.steer setpoints chassis intervalSeconds).positionDeviation| ≤ bound
      rw [regulated.steer_position nonnegative]
      split
      · exact regulated.bounded
      · exact accumulated_bounded nonnegative _ _ _
  | balance estimate intervalSeconds =>
      obtain rfl := Option.some.inj answered
      exact regulated
  | saturated applied =>
      obtain rfl := Option.some.inj answered
      exact { regulated with suspended := rfl }

/-- Every run keeps the strategy in agreement with its client. -/
theorem Regulated.run (regulated : strategy.Regulated bound memory) (nonnegative : 0 ≤ bound)
    {calls : List (StrategyCall F)} {final : LqrStrategy R P F × OuterIteration F}
    (ran : watchedMachine.run (strategy, memory) calls = some final) :
    final.1.Regulated bound final.2 := by
  have kept (state : LqrStrategy R P F × OuterIteration F) (call : StrategyCall F)
      (next : LqrStrategy R P F × OuterIteration F) (before : state.1.Regulated bound state.2)
      (stepped : watchedMachine.step state call = some next) : next.1.Regulated bound next.2 := by
    obtain ⟨strategy, memory⟩ := state
    obtain ⟨after, remembered⟩ := next
    obtain ⟨answered, rfl⟩ := Machine.observed_step.mp stepped
    exact before.answer nonnegative answered
  exact Machine.run_invariant kept regulated ran

omit [IncrementalPid P F] [IsStrictOrderedRing F] in
/-- A balance computes with the stored gains on the deviations. -/
theorem Regulated.balance_effort (regulated : strategy.Regulated bound memory)
    (documented : NegatesProduct R) (estimate : Estimate F) (intervalSeconds : F) :
    let common := -(strategy.gains.get pitchGain * estimate.pitch +
      strategy.gains.get pitchRateGain * estimate.pitchRate +
      strategy.gains.get positionGain * strategy.positionDeviation +
      strategy.gains.get velocityGain * memory.velocityDeviation)
    (strategy.balance estimate intervalSeconds).1 =
      ⟨common - memory.differential, common + memory.differential⟩ := by
  intro common
  have control : Regulator.computeControl strategy.regulator #v[estimate.pitch, estimate.pitchRate,
      strategy.positionDeviation, strategy.velocityDeviation] = common := by
    rw [regulated.rebuilt, regulated.velocity]
    exact documented _ _
  change (⟨Regulator.computeControl strategy.regulator #v[estimate.pitch, estimate.pitchRate,
      strategy.positionDeviation, strategy.velocityDeviation] - strategy.differential,
    Regulator.computeControl strategy.regulator #v[estimate.pitch, estimate.pitchRate,
      strategy.positionDeviation, strategy.velocityDeviation] + strategy.differential⟩ : Effort F) = _
  rw [control, regulated.differential]

omit [IsStrictOrderedRing F] in
/-- An inner call leaves the position alone, and suspends the next accumulation if it reports a
saturation. -/
theorem inner_answer (memory : OuterIteration F) {call : StrategyCall F}
    {next : LqrStrategy R P F} (inner : call.Inner)
    (answered : StrategyCall.answer strategy call = some next) :
    next.positionDeviation = strategy.positionDeviation ∧
      ((remember memory strategy call).suspended = true ↔
        memory.suspended = true ∨ call.Saturates) := by
  cases call with
  | setParameter index value =>
      obtain ⟨-, rfl⟩ := setParameter_stored answered
      exact ⟨rfl, (or_iff_left id).symm⟩
  | reset | steer _ _ _ => exact inner.elim
  | balance estimate intervalSeconds =>
      obtain rfl := Option.some.inj answered
      exact ⟨rfl, (or_iff_left id).symm⟩
  | saturated applied =>
      obtain rfl := Option.some.inj answered
      exact ⟨rfl, iff_of_true rfl (.inr trivial)⟩

omit [IsStrictOrderedRing F] in
/-- Any number of inner calls leaves the position alone, and any number of saturations suspends one
accumulation. -/
theorem inner_run {calls : List (StrategyCall F)} (inner : ∀ call ∈ calls, call.Inner)
    {final : LqrStrategy R P F × OuterIteration F}
    (ran : watchedMachine.run (strategy, memory) calls = some final) :
    final.1.positionDeviation = strategy.positionDeviation ∧
      (final.2.suspended = true ↔
        memory.suspended = true ∨ ∃ call ∈ calls, call.Saturates) := by
  induction calls generalizing strategy memory with
  | nil =>
      obtain rfl := Option.some.inj ran
      simp
  | cons call rest ih =>
      obtain ⟨⟨next, remembered⟩, stepped, ran⟩ := Machine.run_cons.mp ran
      obtain ⟨answered, rfl⟩ := Machine.observed_step.mp stepped
      obtain ⟨kept, suspends⟩ :=
        inner_answer memory (inner call List.mem_cons_self) answered
      obtain ⟨keptToo, suspendsToo⟩ :=
        ih (fun call listed => inner call (List.mem_cons_of_mem _ listed)) ran
      refine ⟨keptToo.trans kept, ?_⟩
      rw [suspendsToo, suspends]
      simp [or_assoc]

/-- Only a reset and an outer iteration that is not suspended move the position. -/
theorem Regulated.moves (regulated : strategy.Regulated bound memory) (nonnegative : 0 ≤ bound)
    {call : StrategyCall F} {next : LqrStrategy R P F}
    (answered : StrategyCall.answer strategy call = some next)
    (moved : next.positionDeviation ≠ strategy.positionDeviation) :
    call = .reset ∨ ∃ setpoints chassis intervalSeconds,
      call = .steer setpoints chassis intervalSeconds ∧ memory.suspended = false := by
  by_cases inner : call.Inner
  · exact absurd (inner_answer memory inner answered).1 moved
  · cases call with
    | setParameter | balance | saturated => exact absurd trivial inner
    | reset => exact .inl rfl
    | steer setpoints chassis intervalSeconds =>
        refine .inr ⟨setpoints, chassis, intervalSeconds, rfl, ?_⟩
        obtain rfl := Option.some.inj answered
        rw [← Bool.not_eq_true]
        intro suspended
        have held := regulated.steer_position nonnegative setpoints chassis intervalSeconds
        rw [if_pos suspended] at held
        exact moved held

/-- However many saturations an inner stretch reports, the outer iteration after it holds the
position, and the next one accumulates again. -/
theorem Regulated.suppressed_once (regulated : strategy.Regulated bound memory)
    (nonnegative : 0 ≤ bound) {before after : List (StrategyCall F)}
    (innerBefore : ∀ call ∈ before, call.Inner) (reported : ∃ call ∈ before, call.Saturates)
    (innerAfter : ∀ call ∈ after, call.Inner) (quiet : ∀ call ∈ after, ¬ call.Saturates)
    {setpoints : Setpoints F} {chassis : ChassisMotion F} {intervalSeconds : F}
    {held resumed : LqrStrategy R P F}
    (ran : StrategyCall.machine.run strategy before = some held)
    (ranAfter : StrategyCall.machine.run (held.steer setpoints chassis intervalSeconds) after =
      some resumed) :
    (held.steer setpoints chassis intervalSeconds).positionDeviation = strategy.positionDeviation ∧
      ∀ setpoints chassis intervalSeconds,
        (resumed.steer setpoints chassis intervalSeconds).positionDeviation =
          accumulated bound strategy.positionDeviation
            (chassis.forwardVelocity - setpoints.velocity) intervalSeconds := by
  obtain ⟨heldMemory, watched⟩ := (Machine.observed_run memory).mp ran
  have heldRegulated := regulated.run nonnegative watched
  obtain ⟨kept, suspends⟩ := inner_run innerBefore watched
  have suspended : heldMemory.suspended = true := suspends.mpr (.inr reported)
  have holding := heldRegulated.steer_position nonnegative setpoints chassis intervalSeconds
  rw [if_pos suspended] at holding
  have steer : StrategyCall.answer held (.steer setpoints chassis intervalSeconds) =
      some (held.steer setpoints chassis intervalSeconds) := rfl
  have steered := heldRegulated.answer nonnegative steer
  obtain ⟨resumedMemory, watchedAfter⟩ :=
    (Machine.observed_run (remember heldMemory held (.steer setpoints chassis intervalSeconds))).mp
      ranAfter
  have resumedRegulated := steered.run nonnegative watchedAfter
  obtain ⟨keptAfter, suspendsAfter⟩ := inner_run innerAfter watchedAfter
  have free : ¬ resumedMemory.suspended = true := by
    rw [suspendsAfter]
    rintro (before | ⟨call, listed, saturates⟩)
    · cases before
    · exact quiet call listed saturates
  refine ⟨holding.trans kept, ?_⟩
  intro setpoints chassis intervalSeconds
  rw [resumedRegulated.steer_position nonnegative, if_neg free]
  have position : resumed.positionDeviation = strategy.positionDeviation :=
    keptAfter.trans (holding.trans kept)
  rw [position]

/-- The strategy computes with its stored gains on the remembered deviation, within the bound. Its
position moves in an outer iteration that no saturation suspends, and any number of saturations
suspends one. -/
theorem regulates_with_stored_gains (documented : NegatesProduct R) {config : Config F}
    (nonnegative : 0 ≤ config.maximumPositionDeviation)
    (reached : watchedMachine.Reachable ((construct config : LqrStrategy R P F), ⟨0, 0, false⟩)
      (strategy, memory)) :
    (∀ estimate intervalSeconds,
      let common := -(strategy.gains.get pitchGain * estimate.pitch +
        strategy.gains.get pitchRateGain * estimate.pitchRate +
        strategy.gains.get positionGain * strategy.positionDeviation +
        strategy.gains.get velocityGain * memory.velocityDeviation)
      (strategy.balance estimate intervalSeconds).1 =
        ⟨common - memory.differential, common + memory.differential⟩) ∧
    |strategy.positionDeviation| ≤ config.maximumPositionDeviation ∧
    (∀ call next, StrategyCall.answer strategy call = some next →
      next.positionDeviation ≠ strategy.positionDeviation → call = .reset ∨
        ∃ setpoints chassis intervalSeconds, call = .steer setpoints chassis intervalSeconds ∧
          memory.suspended = false) ∧
    (∀ setpoints chassis intervalSeconds,
      (strategy.steer setpoints chassis intervalSeconds).positionDeviation =
        if memory.suspended then strategy.positionDeviation
        else accumulated config.maximumPositionDeviation strategy.positionDeviation
          (chassis.forwardVelocity - setpoints.velocity) intervalSeconds) ∧
    (∀ before after : List (StrategyCall F), (∀ call ∈ before, call.Inner) →
      (∃ call ∈ before, call.Saturates) → (∀ call ∈ after, call.Inner) →
      (∀ call ∈ after, ¬ call.Saturates) → ∀ setpoints chassis intervalSeconds held resumed,
      StrategyCall.machine.run strategy before = some held →
      StrategyCall.machine.run (held.steer setpoints chassis intervalSeconds) after =
        some resumed →
      (held.steer setpoints chassis intervalSeconds).positionDeviation =
          strategy.positionDeviation ∧
        ∀ setpoints chassis intervalSeconds,
          (resumed.steer setpoints chassis intervalSeconds).positionDeviation =
            accumulated config.maximumPositionDeviation strategy.positionDeviation
              (chassis.forwardVelocity - setpoints.velocity) intervalSeconds) := by
  obtain ⟨calls, ran⟩ := reached
  have regulated := (construct_regulated nonnegative).run nonnegative ran
  refine ⟨regulated.balance_effort documented, regulated.bounded, ?_,
    regulated.steer_position nonnegative, ?_⟩
  · intro call next answered moved
    exact regulated.moves nonnegative answered moved
  · intro before after innerBefore reported innerAfter quiet setpoints chassis intervalSeconds held
      resumed ran ranAfter
    exact regulated.suppressed_once nonnegative innerBefore reported innerAfter quiet ran ranAfter

end Laws

/-- A row of gains negates its product with the state. -/
theorem gainRow_negatesProduct : NegatesProduct (GainRow ℚ) := by
  intro gains state
  have listed (vector : Vector ℚ 4) : vector = #v[vector[0], vector[1], vector[2], vector[3]] := by
    apply Vector.ext
    intro index inside
    obtain rfl | rfl | rfl | rfl : index = 0 ∨ index = 1 ∨ index = 2 ∨ index = 3 := by omega
    all_goals rfl
  rw [listed gains, listed state]
  change -((#[gains[0], gains[1], gains[2], gains[3]].zipWith (· * ·)
    #[state[0], state[1], state[2], state[3]]).foldl (· + ·) 0) = _
  simp

/-- A saturation between two outer iterations keeps the position of the first. -/
theorem regulates_with_stored_gains_after_saturation :
    let strategy : LqrStrategy (GainRow ℚ) (VelocityPid ℚ) ℚ := construct Config.default
    ((strategy.markSaturated ⟨1, 1⟩).steer ⟨0, 0⟩ ⟨1, 0⟩ (1 / 10)).positionDeviation = 0 := by
  intro strategy
  have nonnegative : (0 : ℚ) ≤ (Config.default : Config ℚ).maximumPositionDeviation := by
    decide +kernel
  have reached : watchedMachine.Reachable (strategy, (⟨0, 0, false⟩ : OuterIteration ℚ))
      (strategy.markSaturated ⟨1, 1⟩, ⟨0, 0, true⟩) := ⟨[.saturated ⟨1, 1⟩], rfl⟩
  obtain ⟨-, -, -, steers, -⟩ :=
    regulates_with_stored_gains gainRow_negatesProduct nonnegative reached
  exact steers ⟨0, 0⟩ ⟨1, 0⟩ (1 / 10)

end LqrStrategy
end InvertedPendulum.Balance
