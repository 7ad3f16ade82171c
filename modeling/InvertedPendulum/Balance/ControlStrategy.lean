import InvertedPendulum.Estimation.AttitudeEstimation

namespace InvertedPendulum

namespace Odometry

structure ChassisMotion (F : Type) where
  forwardVelocity : F
  yawRate : F

/-- Control and telemetry read the motion of the chassis. -/
class WheelOdometry (σ : Type) (F : outParam Type) where
  chassis : σ → ChassisMotion F

end Odometry

namespace Balance
open Estimation Odometry

structure Effort (F : Type) where
  left : F
  right : F
  deriving DecidableEq

structure Setpoints (F : Type) where
  velocity : F
  yawRate : F
  deriving DecidableEq

structure ParameterDescriptor (F : Type) where
  name : String
  minimum : F
  maximum : F

/-- A strategy turns estimates and chassis motion into efforts, under tunable parameters.
A parameter index beyond the parameters trips an assertion. -/
class ControlStrategy (S : Type) (F : outParam Type) where
  name : S → String
  reset : S → S
  steer : S → Setpoints F → ChassisMotion F → F → S
  balance : S → Estimate F → F → Effort F × S
  saturated : S → Effort F → S
  parameters : S → List (ParameterDescriptor F)
  parameter : S → Nat → Option F
  setParameter : S → Nat → F → Option S

/-- Two states of a strategy have the same parameters with the same ranges and values. -/
def SameParameters {S F : Type} [ControlStrategy S F] (first second : S) : Prop :=
  ControlStrategy.parameters first = ControlStrategy.parameters second ∧
    ControlStrategy.parameter first = (ControlStrategy.parameter second : Nat → Option F)

/-- Only a parameter write changes the parameters of a strategy, and it changes the addressed one. -/
class StrategyContract (S : Type) {F : outParam Type} [ControlStrategy S F] : Prop where
  reset : ∀ strategy : S, SameParameters (ControlStrategy.reset strategy) strategy
  steer : ∀ (strategy : S) (setpoints : Setpoints F) (chassis : ChassisMotion F) (interval : F),
    SameParameters (ControlStrategy.steer strategy setpoints chassis interval) strategy
  balance : ∀ (strategy : S) (estimate : Estimate F) (interval : F),
    SameParameters (ControlStrategy.balance strategy estimate interval).2 strategy
  saturated : ∀ (strategy : S) (applied : Effort F),
    SameParameters (ControlStrategy.saturated strategy applied) strategy
  stored : ∀ (strategy : S) (index : Nat), (ControlStrategy.parameter strategy index).isSome = true ↔
    index < (ControlStrategy.parameters strategy).length
  accepted : ∀ (strategy : S) (index : Nat) (value : F),
    (ControlStrategy.setParameter strategy index value).isSome = true ↔
      index < (ControlStrategy.parameters strategy).length
  addressed : ∀ (strategy written : S) (index : Nat) (value : F),
    ControlStrategy.setParameter strategy index value = some written →
    ControlStrategy.parameters written = ControlStrategy.parameters strategy ∧
      ControlStrategy.parameter written =
        Function.update (ControlStrategy.parameter strategy) index (some value)

/-- Every parameter lies in its published range, which no unordered value does. -/
def InRange {S F : Type} [FloatArithmetic F] [ControlStrategy S F] (strategy : S) : Prop :=
  ∀ index (descriptor : ParameterDescriptor F),
    (ControlStrategy.parameters strategy)[index]? = some descriptor →
    ∃ value, ControlStrategy.parameter strategy index = some value ∧
      descriptor.minimum ≤ value ∧ value ≤ descriptor.maximum

theorem SameParameters.trans {S F : Type} [ControlStrategy S F] {first second third : S}
    (before : SameParameters first second) (after : SameParameters second third) :
    SameParameters first third :=
  ⟨before.1.trans after.1, before.2.trans after.2⟩

theorem SameParameters.inRange {S F : Type} [FloatArithmetic F] [ControlStrategy S F]
    {first second : S} (same : SameParameters first second) (ranged : InRange second) :
    InRange first := by
  intro index descriptor published
  rw [same.1] at published
  rw [same.2]
  exact ranged index descriptor published

/-- A value within the addressed range keeps every parameter in range. -/
theorem InRange.written {S F : Type} [FloatArithmetic F] [ControlStrategy S F] [StrategyContract S]
    {strategy written : S} {index : Nat} {value : F} {descriptor : ParameterDescriptor F}
    (ranged : InRange strategy)
    (published : (ControlStrategy.parameters strategy)[index]? = some descriptor)
    (within : descriptor.minimum ≤ value ∧ value ≤ descriptor.maximum)
    (stored : ControlStrategy.setParameter strategy index value = some written) :
    InRange written := by
  obtain ⟨sameRanges, values⟩ := StrategyContract.addressed strategy written index value stored
  intro other found listed
  rw [sameRanges] at listed
  rw [values]
  by_cases addressed : other = index
  · subst addressed
    obtain rfl := Option.some.inj (published.symm.trans listed)
    exact ⟨value, Function.update_self .., within⟩
  · rw [Function.update_of_ne addressed]
    exact ranged other found listed

/-- A property of a strategy is preserved when no call on the strategy breaks it. -/
structure Preserved {S F : Type} [ControlStrategy S F] (holds : S → Prop) : Prop where
  reset : ∀ strategy, holds strategy → holds (ControlStrategy.reset strategy)
  steer : ∀ strategy (setpoints : Setpoints F) chassis interval, holds strategy →
    holds (ControlStrategy.steer strategy setpoints chassis interval)
  balance : ∀ strategy (estimate : Estimate F) interval, holds strategy →
    holds (ControlStrategy.balance strategy estimate interval).2
  saturated : ∀ strategy (applied : Effort F), holds strategy →
    holds (ControlStrategy.saturated strategy applied)
  setParameter : ∀ strategy index (value : F) written, holds strategy →
    ControlStrategy.setParameter strategy index value = some written → holds written

end Balance
end InvertedPendulum
