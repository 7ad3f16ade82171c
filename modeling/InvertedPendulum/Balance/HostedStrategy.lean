import InvertedPendulum.Balance.CascadedPidStrategy
import InvertedPendulum.Balance.LqrStrategy

namespace InvertedPendulum.Balance
open Estimation Odometry

/-- The firmware hosts strategies of these two classes. -/
inductive HostedStrategy (R P F : Type) where
  | cascadedPid (strategy : CascadedPidStrategy P F)
  | lqr (strategy : LqrStrategy R P F)

variable {R P F : Type} [FloatArithmetic F] [IncrementalPid P F] [Regulator R F]

/-- A virtual call goes to the class of the strategy. -/
instance : ControlStrategy (HostedStrategy R P F) F where
  name
    | .cascadedPid strategy => ControlStrategy.name strategy
    | .lqr strategy => ControlStrategy.name strategy
  reset
    | .cascadedPid strategy => .cascadedPid strategy.reset
    | .lqr strategy => .lqr strategy.reset
  steer strategy setpoints chassis interval :=
    match strategy with
    | .cascadedPid strategy => .cascadedPid (strategy.steer setpoints chassis interval)
    | .lqr strategy => .lqr (strategy.steer setpoints chassis interval)
  balance strategy estimate interval :=
    match strategy with
    | .cascadedPid strategy => (strategy.balance estimate interval).map id .cascadedPid
    | .lqr strategy => (strategy.balance estimate interval).map id .lqr
  saturated strategy applied :=
    match strategy with
    | .cascadedPid strategy => .cascadedPid (strategy.saturated applied)
    | .lqr strategy => .lqr (strategy.markSaturated applied)
  parameters
    | .cascadedPid strategy => ControlStrategy.parameters strategy
    | .lqr strategy => ControlStrategy.parameters strategy
  parameter strategy index :=
    match strategy with
    | .cascadedPid strategy => strategy.parameter index
    | .lqr strategy => strategy.parameter index
  setParameter strategy index value :=
    match strategy with
    | .cascadedPid strategy => (strategy.setParameter index value).map .cascadedPid
    | .lqr strategy => (strategy.setParameter index value).map .lqr

/-- The two strategies that the firmware hosts. -/
def hosted (pid : CascadedPidStrategy.Config F) (lqr : LqrStrategy.Config F) :
    List (HostedStrategy R P F) :=
  [.cascadedPid (.construct pid), .lqr (.construct lqr)]

omit [FloatArithmetic F] [IncrementalPid P F] [Regulator R F] in
/-- A written gain is found at its index, and the other gains where they were. -/
theorem written_gain {count index : Nat} (gains : Vector F count) (inRange : index < count)
    (value : F) :
    (fun other => (gains.set index value)[other]?) =
      Function.update (fun other => gains[other]?) index (some value) := by
  funext other
  by_cases addressed : other = index
  · subst addressed
    rw [Function.update_self, Vector.getElem?_set_self]
  · rw [Function.update_of_ne addressed, Vector.getElem?_set_ne _ (Ne.symm addressed)]

/-- The gains of the cascaded loops are the parameters of the strategy. -/
instance : StrategyContract (CascadedPidStrategy P F) where
  reset _ := ⟨rfl, rfl⟩
  steer _ _ _ _ := ⟨rfl, rfl⟩
  balance _ _ _ := ⟨rfl, rfl⟩
  saturated _ _ := ⟨rfl, rfl⟩
  stored strategy index := by
    change (strategy.gains[index]?).isSome = true ↔ index < 9
    simp
  accepted strategy index value := by
    change (strategy.setParameter index value).isSome = true ↔ index < 9
    unfold CascadedPidStrategy.setParameter
    split <;> simp_all
  addressed strategy written index value stored := by
    obtain ⟨inRange, rfl⟩ := CascadedPidStrategy.setParameter_stored stored
    exact ⟨rfl, written_gain strategy.gains inRange value⟩

/-- The gains of the regulator and of the yaw loop are the parameters of the strategy. -/
instance : StrategyContract (LqrStrategy R P F) where
  reset _ := ⟨rfl, rfl⟩
  steer _ _ _ _ := ⟨rfl, rfl⟩
  balance _ _ _ := ⟨rfl, rfl⟩
  saturated _ _ := ⟨rfl, rfl⟩
  stored strategy index := by
    change (strategy.gains[index]?).isSome = true ↔ index < 7
    simp
  accepted strategy index value := by
    change (strategy.setParameter index value).isSome = true ↔ index < 7
    unfold LqrStrategy.setParameter
    split <;> simp_all
  addressed strategy written index value stored := by
    obtain ⟨inRange, rfl⟩ := LqrStrategy.setParameter_stored stored
    exact ⟨rfl, written_gain strategy.gains inRange value⟩

/-- A hosted strategy keeps the contract of its class. -/
instance : StrategyContract (HostedStrategy R P F) where
  reset strategy := by
    cases strategy with
    | cascadedPid strategy => exact StrategyContract.reset strategy
    | lqr strategy => exact StrategyContract.reset strategy
  steer strategy setpoints chassis interval := by
    cases strategy with
    | cascadedPid strategy => exact StrategyContract.steer strategy setpoints chassis interval
    | lqr strategy => exact StrategyContract.steer strategy setpoints chassis interval
  balance strategy estimate interval := by
    cases strategy with
    | cascadedPid strategy => exact StrategyContract.balance strategy estimate interval
    | lqr strategy => exact StrategyContract.balance strategy estimate interval
  saturated strategy applied := by
    cases strategy with
    | cascadedPid strategy => exact StrategyContract.saturated strategy applied
    | lqr strategy => exact StrategyContract.saturated strategy applied
  stored strategy index := by
    cases strategy with
    | cascadedPid strategy => exact StrategyContract.stored strategy index
    | lqr strategy => exact StrategyContract.stored strategy index
  accepted strategy index value := by
    cases strategy with
    | cascadedPid strategy =>
        refine Iff.trans ?_ (StrategyContract.accepted strategy index value)
        exact Bool.eq_iff_iff.mp Option.isSome_map
    | lqr strategy =>
        refine Iff.trans ?_ (StrategyContract.accepted strategy index value)
        exact Bool.eq_iff_iff.mp Option.isSome_map
  addressed strategy written index value stored := by
    cases strategy with
    | cascadedPid strategy =>
        obtain ⟨inner, innerStored, rfl⟩ := Option.map_eq_some_iff.mp stored
        exact StrategyContract.addressed strategy inner index value innerStored
    | lqr strategy =>
        obtain ⟨inner, innerStored, rfl⟩ := Option.map_eq_some_iff.mp stored
        exact StrategyContract.addressed strategy inner index value innerStored

section Ranges
omit [IncrementalPid P F] [Regulator R F]

/-- Every gain lies between the bounds of the descriptor at its index. -/
def Within {count : Nat} (gains : Vector F count) (descriptors : List (ParameterDescriptor F)) :
    Prop :=
  ∀ index : Fin count, ∀ descriptor ∈ descriptors[index.val]?,
    descriptor.minimum ≤ gains[index] ∧ gains[index] ≤ descriptor.maximum

instance {count : Nat} (gains : Vector F count) (descriptors : List (ParameterDescriptor F)) :
    Decidable (Within gains descriptors) :=
  inferInstanceAs (Decidable (∀ index : Fin count, ∀ descriptor ∈ descriptors[index.val]?, _ ∧ _))

/-- A strategy whose parameters are its gains is in range with them. -/
theorem Within.inRange {S : Type} [ControlStrategy S F] {strategy : S} {count : Nat}
    {gains : Vector F count} (within : Within gains (ControlStrategy.parameters strategy))
    (length : (ControlStrategy.parameters strategy).length = count)
    (values : ∀ index, ControlStrategy.parameter strategy index = gains[index]?) :
    InRange strategy := by
  intro index descriptor published
  have inside : index < count := by
    rw [← length]
    exact (List.getElem?_eq_some_iff.mp published).choose
  refine ⟨gains[index], ?_, within ⟨index, inside⟩ descriptor published⟩
  rw [values, Vector.getElem?_eq_getElem inside]

end Ranges

/-- The default gains of both strategies pass the check that a parameter write makes. -/
theorem default_inRange [IncrementalPid P ℚ] [Regulator R ℚ] :
    InRange (HostedStrategy.cascadedPid (R := R) (P := P) (.construct .default)) ∧
      InRange (HostedStrategy.lqr (R := R) (P := P) (.construct .default)) := by
  constructor
  · have within : Within (CascadedPidStrategy.Config.default (F := ℚ)).gains
        CascadedPidStrategy.descriptors := by decide +kernel
    exact within.inRange rfl fun _ => rfl
  · have within : Within (LqrStrategy.Config.default (F := ℚ)).gains LqrStrategy.descriptors := by
      decide +kernel
    exact within.inRange rfl fun _ => rfl

end InvertedPendulum.Balance
