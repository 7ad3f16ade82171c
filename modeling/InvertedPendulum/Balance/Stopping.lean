import InvertedPendulum.Balance.DeadMan

namespace InvertedPendulum.Balance
open Estimation Motion Odometry Control

section Remaining
variable {F : Type} [Field F] [LinearOrder F] [IsStrictOrderedRing F]

/-- This is left of a limit after a deceleration over some time. -/
def remaining (limit deceleration : F) (elapsed : Duration) : F :=
  max 0 (limit - deceleration * seconds elapsed)

/-- Times add up as they do in seconds. -/
theorem seconds_add (first second : Duration) :
    (seconds (first + second) : F) = seconds first + seconds second := by
  have divided : ((first + second : Int) / 1000000000 : ℚ) =
      (first / 1000000000 : ℚ) + (second / 1000000000 : ℚ) := by
    push_cast
    ring
  show (((first + second : Int) / 1000000000 : ℚ) : F) = ((first / 1000000000 : ℚ) : F) +
    ((second / 1000000000 : ℚ) : F)
  rw [divided, Rat.cast_add]

omit [IsStrictOrderedRing F] in
theorem remaining_nonneg (limit deceleration : F) (elapsed : Duration) :
    0 ≤ remaining limit deceleration elapsed := le_max_left _ _

/-- A value that has lost a step of its magnitude stops at zero. -/
theorem abs_towardsZero_le (value step : F) :
    |towardsZero value step| ≤ max 0 (|value| - step) := by
  rw [towardsZero_eq]
  split
  · rw [abs_zero]
    exact le_max_left _ _
  · rename_i larger
    have outside : 0 ≤ |value| - step := sub_nonneg.mpr (not_le.mp larger).le
    split
    · rename_i positive
      rw [abs_of_pos positive] at outside ⊢
      rw [abs_of_nonneg outside]
      exact le_max_right _ _
    · rename_i negative
      rw [abs_of_nonpos (not_lt.mp negative)] at outside ⊢
      have below : value + step ≤ 0 := by linarith
      rw [abs_of_nonpos below]
      refine le_max_of_le_right ?_
      linarith

theorem abs_towardsZero_self {value step : F} (nonnegative : 0 ≤ step) :
    |towardsZero value step| ≤ |value| :=
  (abs_towardsZero_le value step).trans (max_le (abs_nonneg _) (sub_le_self _ nonnegative))

/-- A step towards zero over an interval takes what the interval takes of the limit. -/
theorem towardsZero_remaining {value limit deceleration : F} (nonnegative : 0 ≤ deceleration)
    {elapsed interval : Duration} (within : |value| ≤ remaining limit deceleration elapsed) :
    |towardsZero value (deceleration * intervalSeconds interval)| ≤
      remaining limit deceleration (elapsed + interval) := by
  have lasted : (seconds interval : F) ≤ intervalSeconds interval := by
    unfold intervalSeconds
    rw [maximum_eq_max]
    exact le_max_left _ _
  have step : deceleration * seconds interval ≤ deceleration * intervalSeconds interval :=
    mul_le_mul_of_nonneg_left lasted nonnegative
  have taken : 0 ≤ deceleration * intervalSeconds interval :=
    mul_nonneg nonnegative (BalanceControlImpl.intervalSeconds_nonneg interval)
  refine (abs_towardsZero_le value _).trans (max_le (le_max_left _ _) ?_)
  unfold remaining at within ⊢
  rw [seconds_add, mul_add]
  rcases le_total 0 (limit - deceleration * seconds elapsed) with left | gone
  · rw [max_eq_right left] at within
    refine le_max_of_le_right ?_
    linarith
  · rw [max_eq_left gone] at within
    refine le_max_of_le_left ?_
    linarith

end Remaining

namespace BalanceControlImpl
variable {F S σ : Type} [Field F] [LinearOrder F]

/-- The setpoints keep within these limits, and are zero without an engagement. -/
structure Limited (config : Config F) (velocity yawRate : F) (control : BalanceControlImpl F S σ) :
    Prop where
  configured : control.config = config
  velocity : |control.setpoints.velocity| ≤ velocity
  yawRate : |control.setpoints.yawRate| ≤ yawRate
  idle : control.engaged = false → control.setpoints = noSetpoints

variable {config : Config F} {velocity yawRate : F} {control after : BalanceControlImpl F S σ}

/-- An operation that leaves the command alone keeps the limits. -/
theorem Limited.framed (limited : control.Limited config velocity yawRate)
    (same : SameCommand control after) : after.Limited config velocity yawRate where
  configured := same.config.trans limited.configured
  velocity := by
    rw [same.setpoints]
    exact limited.velocity
  yawRate := by
    rw [same.setpoints]
    exact limited.yawRate
  idle disengaged := same.setpoints.trans (limited.idle (same.engaged.symm.trans disengaged))

variable [IsStrictOrderedRing F]

/-- Zero setpoints keep every limit that is not negative. -/
theorem Limited.resting (configured : control.config = config) (resting : control.setpoints = noSetpoints)
    (velocity_nonneg : 0 ≤ velocity) (yawRate_nonneg : 0 ≤ yawRate) :
    control.Limited config velocity yawRate where
  configured := configured
  velocity := by
    rw [resting]
    exact abs_zero.trans_le velocity_nonneg
  yawRate := by
    rw [resting]
    exact abs_zero.trans_le yawRate_nonneg
  idle _ := resting

section Steering
variable [ControlStrategy S F] [WheelOdometry σ F] [Clock σ]

/-- An outer iteration brings the setpoints no further from zero. -/
theorem Limited.steered (nonnegative : config.NonNegative)
    (limited : control.Limited config velocity yawRate) (interval : Duration) :
    (control.steer interval).Limited config velocity yawRate := by
  cases engaged : control.engaged with
  | false =>
      have same : control.steer interval = control := by
        unfold steer
        rw [engaged]
        rfl
      rwa [same]
  | true =>
      obtain ⟨configured, flying, -, -⟩ :=
        control.decay_command (intervalSeconds interval)
      rw [steer_engaged_eq control engaged]
      have decayed : (control.decayUnlessCommanded (intervalSeconds interval)).Limited config
          velocity yawRate := by
        refine ⟨configured.trans limited.configured, ?_, ?_, ?_⟩
        · unfold decayUnlessCommanded
          split
          · exact limited.velocity
          · rw [limited.configured]
            exact (abs_towardsZero_self (mul_nonneg nonnegative.velocityDeceleration
              (intervalSeconds_nonneg interval))).trans limited.velocity
        · unfold decayUnlessCommanded
          split
          · exact limited.yawRate
          · rw [limited.configured]
            exact (abs_towardsZero_self (mul_nonneg nonnegative.yawDeceleration
              (intervalSeconds_nonneg interval))).trans limited.yawRate
        · intro disengaged
          rw [flying, engaged] at disengaged
          cases disengaged
      exact decayed.framed (update_command _ _)

/-- An outer iteration after a cancelled command takes its interval of the limits. -/
theorem Limited.decayed (nonnegative : config.NonNegative) {elapsed : Duration}
    (limited : control.Limited config (remaining velocity config.velocityDeceleration elapsed)
      (remaining yawRate config.yawDeceleration elapsed))
    (cancelled : control.cancelled = true) (engaged : control.engaged = true) (interval : Duration) :
    (control.steer interval).Limited config
      (remaining velocity config.velocityDeceleration (elapsed + interval))
      (remaining yawRate config.yawDeceleration (elapsed + interval)) := by
  have lapsed : control.decayUnlessCommanded (intervalSeconds interval) = { control with
      setpoints := ⟨towardsZero control.setpoints.velocity
          (config.velocityDeceleration * intervalSeconds interval),
        towardsZero control.setpoints.yawRate
          (config.yawDeceleration * intervalSeconds interval)⟩ } := by
    unfold decayUnlessCommanded
    rw [cancelled, limited.configured]
    exact if_neg (fun held => Bool.noConfusion held.1)
  rw [steer_engaged_eq control engaged, lapsed]
  refine Limited.framed ?_ (update_command _ _)
  refine ⟨limited.configured, ?_, ?_, ?_⟩
  · exact towardsZero_remaining nonnegative.velocityDeceleration limited.velocity
  · exact towardsZero_remaining nonnegative.yawDeceleration limited.yawRate
  · intro disengaged
    have disengaged : control.engaged = false := disengaged
    rw [engaged] at disengaged
    cases disengaged

omit [IsStrictOrderedRing F] in
/-- An outer iteration cancels nothing and takes no command up again. -/
theorem steer_cancelled (control : BalanceControlImpl F S σ) (interval : Duration) :
    (control.steer interval).cancelled = control.cancelled := by
  cases engaged : control.engaged with
  | false =>
      unfold steer
      rw [engaged]
      rfl
  | true =>
      rw [steer_engaged_eq control engaged]
      exact (control.decay_command (intervalSeconds interval)).2.2.2

end Steering

variable [ControlStrategy S F] [MotionActuation σ F] [WheelOdometry σ F] [Clock σ]
  {request : Request F} {accepted : Bool}

/-- Every request keeps the limits that it commands nothing beyond. -/
theorem perform_limited (nonnegative : config.NonNegative)
    (limited : control.Limited config velocity yawRate)
    (commands : ∀ commanded, request = .move commanded →
      config.maximumVelocity ≤ velocity ∧ config.maximumYawRate ≤ yawRate)
    (performed : control.perform request = some (accepted, after)) :
    after.Limited config velocity yawRate := by
  have velocity_nonneg := (abs_nonneg _).trans limited.velocity
  have yawRate_nonneg := (abs_nonneg _).trans limited.yawRate
  cases request with
  | engage | disengage =>
      obtain ⟨-, rfl⟩ := Prod.mk.inj (Option.some.inj performed)
      exact .resting limited.configured rfl velocity_nonneg yawRate_nonneg
  | cancelMotion =>
      obtain ⟨-, rfl⟩ := Prod.mk.inj (Option.some.inj performed)
      exact ⟨limited.configured, limited.velocity, limited.yawRate, limited.idle⟩
  | select index =>
      have selected : (control.select index).2 = after :=
        congrArg Prod.snd (Option.some.inj performed)
      rw [← selected]
      exact limited.framed (select_command control index)
  | setParameter index value => exact limited.framed (setParameter_command performed)
  | balance estimate interval =>
      obtain ⟨-, rfl⟩ := Prod.mk.inj (Option.some.inj performed)
      exact limited.framed (balance_command control estimate interval)
  | steer interval =>
      obtain ⟨-, rfl⟩ := Prod.mk.inj (Option.some.inj performed)
      exact limited.steered nonnegative interval
  | move commanded =>
      have moved : control.move commanded = (accepted, after) := Option.some.inj performed
      obtain ⟨within_velocity, within_yawRate⟩ := commands commanded rfl
      rcases control.move_cases commanded with refused | ⟨⟨engaged, forward, turning⟩, taken⟩
      · obtain ⟨-, rfl⟩ := Prod.mk.inj (refused.symm.trans moved)
        exact limited
      · obtain ⟨-, rfl⟩ := Prod.mk.inj (taken.symm.trans moved)
        rw [fabs_eq_abs, limited.configured] at forward turning
        refine ⟨limited.configured, forward.trans within_velocity, turning.trans within_yawRate, ?_⟩
        intro disengaged
        have disengaged : control.engaged = false := disengaged
        rw [engaged] at disengaged
        cases disengaged

omit [IsStrictOrderedRing F] in
/-- Only a command of motion ends a cancellation. -/
theorem perform_cancelled (cancelled : control.cancelled = true)
    (silent : ∀ commanded, request ≠ .move commanded)
    (performed : control.perform request = some (accepted, after)) : after.cancelled = true := by
  cases request with
  | engage | disengage | cancelMotion =>
      obtain ⟨-, rfl⟩ := Prod.mk.inj (Option.some.inj performed)
      rfl
  | select index =>
      have selected : (control.select index).2 = after :=
        congrArg Prod.snd (Option.some.inj performed)
      rw [← selected]
      exact (select_command control index).cancelled.trans cancelled
  | setParameter index value => exact (setParameter_command performed).cancelled.trans cancelled
  | balance estimate interval =>
      obtain ⟨-, rfl⟩ := Prod.mk.inj (Option.some.inj performed)
      exact (balance_command control estimate interval).cancelled.trans cancelled
  | steer interval =>
      obtain ⟨-, rfl⟩ := Prod.mk.inj (Option.some.inj performed)
      exact (steer_cancelled control interval).trans cancelled
  | move commanded => exact absurd rfl (silent commanded)

end BalanceControlImpl
end InvertedPendulum.Balance
