import InvertedPendulum.Balance.Configuration

namespace InvertedPendulum.Balance
open Odometry

/-- The link calls these members of `BalanceControl`.
An index that is out of range trips an assertion of those that may answer nothing. -/
class OperatedControl (σ : Type) (F : outParam Type) where
  strategyCount : σ → Nat
  strategyName : σ → Nat → Option String
  activeStrategy : σ → Nat
  select : σ → Nat → Bool × σ
  parameters : σ → List (ParameterDescriptor F)
  parameter : σ → Nat → Option F
  setParameter : σ → Nat → F → Option (Bool × σ)
  move : σ → Setpoints F → Bool × σ
  cancelMotion : σ → σ

/-- No assertion trips on an index in range, and a write keeps the number of parameters. -/
class OperatedContract (σ : Type) {F : outParam Type} [OperatedControl σ F] : Prop where
  named : ∀ (control : σ) (index : Nat), index < OperatedControl.strategyCount control →
    (OperatedControl.strategyName control index).isSome = true
  valued : ∀ (control : σ) (index : Nat), index < (OperatedControl.parameters control).length →
    (OperatedControl.parameter control index).isSome = true
  answered : ∀ (control : σ) (index : Nat) (value : F),
    index < (OperatedControl.parameters control).length →
    (OperatedControl.setParameter control index value).isSome = true
  kept : ∀ (control written : σ) (index : Nat) (value : F) (answer : Bool),
    OperatedControl.setParameter control index value = some (answer, written) →
    (OperatedControl.parameters written).length = (OperatedControl.parameters control).length

namespace BalanceControlImpl
variable {F S σ : Type} [FloatArithmetic F] [ControlStrategy S F] [Clock σ]

instance : OperatedControl (BalanceControlImpl F S σ) F where
  strategyCount control := control.strategies.length
  strategyName control index := (control.strategies[index]?).map ControlStrategy.name
  activeStrategy := active
  select := select
  parameters control := ControlStrategy.parameters control.strategy
  parameter control index := ControlStrategy.parameter control.strategy index
  setParameter := setParameter
  move := move
  cancelMotion := cancelMotion

/-- A strategy that keeps its contract never stops the firmware on a request of the link. -/
instance [StrategyContract S] : OperatedContract (BalanceControlImpl F S σ) where
  named control index inside := by
    have inRange : index < control.strategies.length := inside
    simp [OperatedControl.strategyName, inRange]
  valued control index := (StrategyContract.stored control.strategy index).mpr
  answered control index value _ := setParameter_answers control index value
  kept control written index value answer wrote := by
    change control.setParameter index value = some (answer, written) at wrote
    cases answer with
    | false => rw [setParameter_refused wrote]
    | true =>
        obtain ⟨_, _, strategy, _, _, _, stored, rfl⟩ := setParameter_accepted wrote
        change (ControlStrategy.parameters (control.update strategy).strategy).length =
          (ControlStrategy.parameters control.strategy).length
        rw [update_strategy, (StrategyContract.addressed _ _ _ _ stored).1]

end BalanceControlImpl
end InvertedPendulum.Balance
