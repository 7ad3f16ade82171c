import InvertedPendulum.Balance.DrivenStrategy
import InvertedPendulum.Balance.IncrementalLoops

namespace InvertedPendulum.Balance
open Estimation Odometry Reactive

section Growth
variable {F : Type} [Field F] [LinearOrder F] [IsStrictOrderedRing F]

/-- A loop does not grow by a change where its output stands at its limit, or where the change points
back and is at most twice the output. -/
def Settles (limit output change : F) : Prop :=
  |output| = |limit| ∨ output * change ≤ 0 ∧ |change| ≤ |output| + |output|

omit [IsStrictOrderedRing F] in
/-- A loop settles on both sides of zero alike. -/
theorem settles_negated {limit output change : F} :
    Settles limit (-output) (-change) ↔ Settles limit output change := by
  unfold Settles
  rw [abs_neg, abs_neg, neg_mul_neg]

/-- A sum is no larger than its first part where the second points back over at most twice the way. -/
theorem abs_add_le_iff {output change : F} :
    |output + change| ≤ |output| ↔ output * change ≤ 0 ∧ |change| ≤ |output| + |output| := by
  constructor
  · intro smaller
    have squares := sq_le_sq.mpr smaller
    constructor
    · nlinarith [sq_nonneg change]
    · calc |change| = |(output + change) - output| := by rw [add_sub_cancel_left]
        _ ≤ |output + change| + |output| := abs_sub _ _
        _ ≤ |output| + |output| := by gcongr
  · rintro ⟨back, short⟩
    rcases lt_trichotomy output 0 with negative | rfl | positive
    · have forward : 0 ≤ change := nonneg_of_mul_nonpos_right back negative
      rw [abs_of_nonneg forward, abs_of_neg negative] at short
      rw [abs_of_neg negative, abs_le]
      constructor <;> linarith
    · rw [abs_zero, add_zero] at short
      rw [abs_nonpos_iff.mp short, add_zero]
    · have backward : change ≤ 0 := nonpos_of_mul_nonpos_right back positive
      rw [abs_of_nonpos backward, abs_of_pos positive] at short
      rw [abs_of_pos positive, abs_le]
      constructor <;> linarith

/-- Limits in the wrong order leave their own magnitude alone. -/
theorem abs_clamp_crossed {limit : F} (negative : limit < 0) (value : F) :
    |clamp value (-limit) limit| = |limit| := by
  change |if value < -limit then -limit else if limit < value then limit else value| = |limit|
  split
  · exact abs_neg limit
  · rename_i above
    rw [if_pos (by linarith)]

/-- The change that follows a clamped output shows unless the loop settles. -/
theorem clamp_grows_iff {limit raw output change : F} (clamped : output = clamp raw (-limit) limit) :
    |clamp (output + change) (-limit) limit| ≤ |output| ↔ Settles limit output change := by
  rcases lt_or_ge limit 0 with crossed | nonnegative
  · have full : |output| = |limit| := by rw [clamped, abs_clamp_crossed crossed]
    rw [abs_clamp_crossed crossed, full]
    exact iff_of_true le_rfl (.inl full)
  · have within : |output| ≤ limit := by
      rw [clamped, abs_clamp nonnegative]
      exact min_le_right _ _
    rw [abs_clamp nonnegative, min_le_iff, abs_add_le_iff, Settles, abs_of_nonneg nonnegative,
      or_comm]
    exact or_congr_left ⟨fun full => le_antisymm within full, fun full => full.ge⟩

end Growth

section Loops
variable {P F : Type} [Field F] [LinearOrder F] [IncrementalPid P F] [DocumentedPid P]

/-- A loop that computes twice on the same error integrates it in between. -/
theorem ContinuousPid.process_again (pid : ContinuousPid P) (target measured : F)
    (gains tuned : PidGains F) (intervalSeconds : F) (undamped : tuned.kd = 0) :
    let first := pid.process target measured gains intervalSeconds
    (first.2.process target measured tuned intervalSeconds).1 =
      clamp (first.1 + tuned.ki * intervalSeconds * (target - measured)) pid.view.limits.minimum
        pid.view.limits.maximum := by
  intro first
  rw [process_undamped _ _ _ _ _ undamped, view_process]
  change clamp (first.1 + ((tuned.kp + tuned.ki * intervalSeconds) * (target - measured) -
    tuned.kp * (target - measured))) _ _ = _
  rw [add_mul, add_sub_cancel_left]

variable [IsStrictOrderedRing F]

theorem ContinuousPid.grows_iff {pid : ContinuousPid P} {limit : F}
    (limits : pid.view.limits = ⟨-limit, limit⟩) (target measured : F)
    (gains tuned : PidGains F) (intervalSeconds : F) (undamped : tuned.kd = 0) :
    let first := pid.process target measured gains intervalSeconds
    |(first.2.process target measured tuned intervalSeconds).1| ≤ |first.1| ↔
      Settles limit first.1 (tuned.ki * intervalSeconds * (target - measured)) := by
  intro first
  obtain ⟨raw, clamped⟩ := pid.process_clamped target measured gains intervalSeconds
  rw [limits] at clamped
  rw [pid.process_again target measured gains tuned intervalSeconds undamped, limits]
  exact clamp_grows_iff clamped

end Loops

namespace CascadedPidStrategy
variable {P F : Type} [Field F] [LinearOrder F] [IncrementalPid P F] [DocumentedPid P]

variable [IsStrictOrderedRing F]

/-- Two outer iterations in a row on the same inputs let neither loop grow exactly where both settle,
whether or not the iterations between them saturate. -/
theorem outer_holds_iff {config : Config F} {strategy later : CascadedPidStrategy P F}
    (limited : strategy.Limited config) {setpoints : Setpoints F} {chassis : ChassisMotion F}
    {intervalSeconds : F} {between : List (StrategyCall F)} (inner : ∀ call ∈ between, call.Inner)
    (ran : StrategyCall.machine.run (strategy.steer setpoints chassis intervalSeconds) between =
      some later)
    (velocityUndamped : (later.gainsFrom velocityKp (by decide)).kd = 0)
    (yawUndamped : (later.gainsFrom yawKp (by decide)).kd = 0) :
    let earlier := strategy.steer setpoints chassis intervalSeconds
    let again := later.steer setpoints chassis intervalSeconds
    (|again.leanRequest| ≤ |earlier.leanRequest| ∧
        |again.differential| ≤ |earlier.differential|) ↔
      Settles config.maximumLean earlier.leanRequest
          ((later.gainsFrom velocityKp (by decide)).ki * intervalSeconds *
            (chassis.forwardVelocity - setpoints.velocity)) ∧
        Settles config.maximumDifferential earlier.differential
          ((later.gainsFrom yawKp (by decide)).ki * intervalSeconds *
            (setpoints.yawRate - chassis.yawRate)) := by
  intro earlier again
  have kept := StrategyCall.inner_run_keeps _ inner_answer_keeps inner ran
  simp only [Prod.mk.injEq] at kept
  obtain ⟨velocityLoop, yawLoop, -, -⟩ := kept
  have velocity := ContinuousPid.grows_iff limited.velocity setpoints.velocity
    chassis.forwardVelocity (strategy.gainsFrom velocityKp (by decide))
    (later.gainsFrom velocityKp (by decide)) intervalSeconds velocityUndamped
  have yaw := ContinuousPid.grows_iff limited.yaw setpoints.yawRate chassis.yawRate
    (strategy.gainsFrom yawKp (by decide)) (later.gainsFrom yawKp (by decide)) intervalSeconds
    yawUndamped
  refine and_congr ?_ ?_
  · rw [steer_leanRequest, steer_leanRequest, abs_neg, abs_neg, velocityLoop, ← settles_negated,
      neg_neg, ← mul_neg, neg_sub]
    exact velocity
  · change |(later.yawLoop.process _ _ _ _).1| ≤ |_| ↔ _
    rw [yawLoop]
    exact yaw

end CascadedPidStrategy

namespace LqrStrategy
variable {R P F : Type} [Field F] [LinearOrder F] [Regulator R F] [IncrementalPid P F]

theorem inner_answer_keeps (strategy : LqrStrategy R P F) (call : StrategyCall F)
    (next : LqrStrategy R P F) (inner : call.Inner)
    (answered : StrategyCall.answer strategy call = some next) :
    (next.yawLoop, next.differential) = (strategy.yawLoop, strategy.differential) := by
  cases call with
  | setParameter index value =>
      obtain ⟨-, rfl⟩ := setParameter_stored answered
      rfl
  | reset | steer _ _ _ => exact inner.elim
  | balance estimate intervalSeconds =>
      obtain rfl := Option.some.inj answered
      rfl
  | saturated applied =>
      obtain rfl := Option.some.inj answered
      rfl

variable [DocumentedPid P] [IsStrictOrderedRing F]

/-- Two outer iterations in a row on the same inputs keep the yaw loop from growing exactly where it
settles, whether or not the iterations between them saturate. -/
theorem outer_holds_iff {config : Config F} {strategy later : LqrStrategy R P F}
    (limited : strategy.Limited config) {setpoints : Setpoints F} {chassis : ChassisMotion F}
    {intervalSeconds : F} {between : List (StrategyCall F)} (inner : ∀ call ∈ between, call.Inner)
    (ran : StrategyCall.machine.run (strategy.steer setpoints chassis intervalSeconds) between =
      some later)
    (undamped : later.gains.get yawKd = 0) :
    let earlier := strategy.steer setpoints chassis intervalSeconds
    let again := later.steer setpoints chassis intervalSeconds
    |again.differential| ≤ |earlier.differential| ↔
      Settles config.maximumDifferential earlier.differential
        (later.gains.get yawKi * intervalSeconds * (setpoints.yawRate - chassis.yawRate)) := by
  intro earlier again
  have kept := StrategyCall.inner_run_keeps _ inner_answer_keeps inner ran
  simp only [Prod.mk.injEq] at kept
  obtain ⟨yawLoop, -⟩ := kept
  have yaw := ContinuousPid.grows_iff limited setpoints.yawRate chassis.yawRate
    ⟨strategy.gains.get yawKp, strategy.gains.get yawKi, strategy.gains.get yawKd⟩
    ⟨later.gains.get yawKp, later.gains.get yawKi, later.gains.get yawKd⟩ intervalSeconds undamped
  change |(later.yawLoop.process _ _ _ _).1| ≤ |_| ↔ _
  rw [yawLoop]
  exact yaw

end LqrStrategy

/-- In every state that calls reach, two outer iterations in a row on the same inputs let no outer loop
grow exactly where each of them settles. The report of a saturation in between makes no difference. -/
theorem integrators_hold_where_loops_settle {P R F : Type} [Field F] [LinearOrder F]
    [IsStrictOrderedRing F] [Regulator R F] [IncrementalPid P F] [DocumentedPid P]
    (setpoints : Setpoints F) (chassis : ChassisMotion F) (intervalSeconds : F)
    {between : List (StrategyCall F)} (inner : ∀ call ∈ between, call.Inner) :
    (∀ (config : CascadedPidStrategy.Config F) (strategy later : CascadedPidStrategy P F),
      StrategyCall.machine.Reachable (CascadedPidStrategy.construct config) strategy →
      let earlier := strategy.steer setpoints chassis intervalSeconds
      let again := later.steer setpoints chassis intervalSeconds
      let velocity := later.gainsFrom CascadedPidStrategy.velocityKp (by decide)
      let yaw := later.gainsFrom CascadedPidStrategy.yawKp (by decide)
      StrategyCall.machine.run earlier between = some later → velocity.kd = 0 → yaw.kd = 0 →
      ((|again.leanRequest| ≤ |earlier.leanRequest| ∧
          |again.differential| ≤ |earlier.differential|) ↔
        Settles config.maximumLean earlier.leanRequest
            (velocity.ki * intervalSeconds * (chassis.forwardVelocity - setpoints.velocity)) ∧
          Settles config.maximumDifferential earlier.differential
            (yaw.ki * intervalSeconds * (setpoints.yawRate - chassis.yawRate)))) ∧
    ∀ (config : LqrStrategy.Config F) (strategy later : LqrStrategy R P F),
      StrategyCall.machine.Reachable (LqrStrategy.construct config) strategy →
      let earlier := strategy.steer setpoints chassis intervalSeconds
      let again := later.steer setpoints chassis intervalSeconds
      StrategyCall.machine.run earlier between = some later →
      later.gains.get LqrStrategy.yawKd = 0 →
      (|again.differential| ≤ |earlier.differential| ↔
        Settles config.maximumDifferential earlier.differential
          (later.gains.get LqrStrategy.yawKi * intervalSeconds *
            (setpoints.yawRate - chassis.yawRate))) := by
  constructor
  · intro config strategy later reached earlier again velocity yaw ran velocityUndamped yawUndamped
    have limited := (CascadedPidStrategy.limited_preserved config).reachable
      (CascadedPidStrategy.construct_limited config) reached
    exact CascadedPidStrategy.outer_holds_iff limited inner ran velocityUndamped yawUndamped
  · intro config strategy later reached earlier again ran undamped
    have limited := (LqrStrategy.limited_preserved config).reachable
      (LqrStrategy.construct_limited config) reached
    exact LqrStrategy.outer_holds_iff limited inner ran undamped

/-- This robot leans so far that it asks for more than the whole effort. -/
def leaning : Estimate ℚ := ⟨6 / 10, 1, true, .none⟩

def turning : Setpoints ℚ := ⟨5 / 10, 1⟩

/-- Here the velocity loop integrates. -/
def integratingConfig : CascadedPidStrategy.Config ℚ where
  maximumLean := 17 / 100
  maximumDifferential := 3 / 10
  gains := #v[2, 0, 1 / 10, 5 / 100, 1, 0, 1 / 10, 0, 0]

/-- Here the yaw loop of either strategy integrates too. -/
def integratingYawConfig : CascadedPidStrategy.Config ℚ :=
  { integratingConfig with gains := #v[2, 0, 1 / 10, 5 / 100, 1, 0, 1 / 10, 1, 0] }

def integratingGains : LqrStrategy.Config ℚ :=
  { LqrStrategy.Config.default with gains := #v[2, 1 / 10, -2 / 100, -1 / 10, 1 / 10, 1, 0] }

/-- These setpoints bring the lean and both differentials to their limits. -/
def racing : Setpoints ℚ := ⟨5, 5⟩

/-- The integrators do not grow where their loops stand at their limits. -/
theorem integrators_hold_where_loops_are_limited :
    let strategy : CascadedPidStrategy (VelocityPid ℚ) ℚ := .construct integratingYawConfig
    let earlier := strategy.steer racing ⟨0, 0⟩ (1 / 50)
    let later := ((earlier.balance leaning (1 / 500)).2).saturated ⟨-1, -1⟩
    let again := later.steer racing ⟨0, 0⟩ (1 / 50)
    let regulator : LqrStrategy (GainRow ℚ) (VelocityPid ℚ) ℚ := .construct integratingGains
    let earlierYaw := regulator.steer racing ⟨0, 0⟩ (1 / 50)
    let againYaw := (earlierYaw.markSaturated ⟨-1, -1⟩).steer racing ⟨0, 0⟩ (1 / 50)
    (|again.leanRequest| ≤ |earlier.leanRequest| ∧
      |again.differential| ≤ |earlier.differential|) ∧
      |againYaw.differential| ≤ |earlierYaw.differential| := by
  intro strategy earlier later again regulator earlierYaw againYaw
  have inner : ∀ call ∈ [StrategyCall.balance leaning (1 / 500), .saturated ⟨-1, -1⟩],
      call.Inner := by simp [StrategyCall.Inner]
  have holds := integrators_hold_where_loops_settle (P := VelocityPid ℚ) (R := GainRow ℚ) racing
    ⟨0, 0⟩ (1 / 50) inner
  constructor
  · refine (holds.1 integratingYawConfig strategy later (.refl _ strategy) rfl rfl rfl).mpr ?_
    exact ⟨.inl (by decide +kernel), .inl (by decide +kernel)⟩
  · refine (holds.2 integratingGains regulator (earlierYaw.markSaturated ⟨-1, -1⟩)
      (.refl _ regulator) rfl rfl).mpr ?_
    exact .inl (by decide +kernel)

/-- The velocity loop integrates on through a saturation that the strategy is told of. -/
theorem lean_grows_while_saturated :
    let strategy : CascadedPidStrategy (VelocityPid ℚ) ℚ := .construct integratingConfig
    let earlier := strategy.reset.steer turning ⟨0, 0⟩ (1 / 50)
    let requested := (earlier.balance leaning (1 / 500)).1
    let later := Iteration.answer earlier (.balance leaning (1 / 500))
    let again := later.steer turning ⟨0, 0⟩ (1 / 50)
    ! sameEffort (saturate requested) requested ∧
      |earlier.leanRequest| < |again.leanRequest| := by
  decide +kernel

end InvertedPendulum.Balance
