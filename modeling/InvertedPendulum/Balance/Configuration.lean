import InvertedPendulum.Balance.BalanceControl
import InvertedPendulum.Balance.HostedStrategy
import InvertedPendulum.Reactive.Machine

namespace InvertedPendulum.Balance
open Estimation Motion Odometry Control Reactive Machine

/-- One operation of balance control. -/
inductive Request (F : Type) where
  | engage
  | disengage
  | select (index : Nat)
  | setParameter (index : Nat) (value : F)
  | balance (estimate : Estimate F) (interval : Duration)
  | steer (interval : Duration)
  | move (setpoints : Setpoints F)
  | cancelMotion

/-- These peers hold the clock and the chassis still and list the efforts that are applied. -/
structure Bench (F : Type) where
  chassis : ChassisMotion F
  now : TimePoint
  efforts : List (Effort F)

namespace Bench
variable {F : Type}

instance : MotionActuation (Bench F) F where
  apply bench left right := { bench with efforts := bench.efforts ++ [⟨left, right⟩] }
  disable bench _ := bench
  fault _ := .none
  clearFault bench := bench
  state _ := .ready

instance : WheelOdometry (Bench F) F where
  chassis bench := bench.chassis

instance : Clock (Bench F) where
  now bench := bench.now

end Bench

namespace BalanceControlImpl
variable {F S σ : Type}

/-- An operation starts with peers in any state. -/
def attend (control : BalanceControlImpl F S σ) (peers : σ) : BalanceControlImpl F S σ :=
  { control with peers }

/-- A call on the active strategy replaces one entry of anything read from the strategies. -/
theorem update_map {β : Type} (control : BalanceControlImpl F S σ) (strategy : S) (read : S → β) :
    (control.update strategy).strategies.map read =
      (control.strategies.map read).set control.active (read strategy) := List.map_set

/-- The active strategy is the entry at the active index. -/
theorem strategy_map {β : Type} (control : BalanceControlImpl F S σ) (read : S → β) :
    (control.strategies.map read).set control.active (read control.strategy) =
      control.strategies.map read := by
  unfold strategy
  rw [List.get_eq_getElem, ← List.getElem_map read (h := by simpa using control.activeInRange),
    List.set_getElem_self]

/-- A selection is accepted while disengaged, for an index of a strategy. -/
theorem select_accepted {control after : BalanceControlImpl F S σ} {index : Nat}
    (accepted : control.select index = (true, after)) :
    control.engaged = false ∧ after.engaged = false ∧ after.active = index ∧
      after.strategies = control.strategies := by
  unfold select at accepted
  split at accepted
  · cases accepted
  · rename_i allowed
    obtain ⟨-, rfl⟩ := Prod.mk.inj accepted
    simp only [not_or, Bool.not_eq_true] at allowed
    exact ⟨allowed.1, allowed.1, rfl, rfl⟩

/-- A refused selection changes nothing. -/
theorem select_refused {control after : BalanceControlImpl F S σ} {index : Nat}
    (refused : control.select index = (false, after)) : after = control := by
  unfold select at refused
  split at refused
  · exact (Prod.mk.inj refused).2.symm
  · cases refused

variable [ControlStrategy S F]

/-- The configuration is the active index and the parameters of every strategy. -/
def configuration (control : BalanceControlImpl F S σ) : Nat × List (Nat → Option F) :=
  (control.active, control.strategies.map ControlStrategy.parameter)

/-- These are the ranges that the strategies publish. -/
def published (control : BalanceControlImpl F S σ) : List (List (ParameterDescriptor F)) :=
  control.strategies.map ControlStrategy.parameters

/-- An operation freezes the configuration when it changes neither parameters nor ranges. -/
def Frozen (before after : BalanceControlImpl F S σ) : Prop :=
  after.configuration = before.configuration ∧ after.published = before.published

theorem Frozen.refl (control : BalanceControlImpl F S σ) : control.Frozen control := ⟨rfl, rfl⟩

theorem Frozen.trans {first second third : BalanceControlImpl F S σ} (before : first.Frozen second)
    (after : second.Frozen third) : first.Frozen third :=
  ⟨after.1.trans before.1, after.2.trans before.2⟩

/-- A call that keeps the parameters of the active strategy freezes the configuration. -/
theorem update_frozen {control : BalanceControlImpl F S σ} {strategy : S}
    (same : SameParameters strategy control.strategy) : control.Frozen (control.update strategy) := by
  constructor
  · refine Prod.ext rfl ?_
    change List.map _ _ = List.map _ _
    rw [update_map, same.2, strategy_map]
  · change List.map _ _ = List.map _ _
    rw [update_map, same.1, strategy_map]

variable [FloatArithmetic F]

/-- The parameters of every strategy lie in their ranges. -/
def Ranged (control : BalanceControlImpl F S σ) : Prop :=
  ∀ strategy ∈ control.strategies, InRange strategy

/-- A frozen configuration stays in range. -/
theorem Frozen.ranged {before after : BalanceControlImpl F S σ} (frozen : before.Frozen after)
    (ranged : before.Ranged) : after.Ranged := by
  intro strategy member
  obtain ⟨index, inside, rfl⟩ := List.getElem_of_mem member
  have values : after.strategies.map ControlStrategy.parameter =
      before.strategies.map ControlStrategy.parameter := congrArg Prod.snd frozen.1
  have ranges : after.strategies.map ControlStrategy.parameters =
      before.strategies.map ControlStrategy.parameters := frozen.2
  have lengths := congrArg List.length values
  simp only [List.length_map] at lengths
  have insideBefore : index < before.strategies.length := by omega
  have same : SameParameters after.strategies[index] before.strategies[index] := by
    have value := List.getElem_of_eq values (i := index) (by simpa using inside)
    have range := List.getElem_of_eq ranges (i := index) (by simpa using inside)
    simp only [List.getElem_map] at value range
    exact ⟨range, value⟩
  exact same.inRange (ranged _ (List.getElem_mem insideBefore))

/-- The active strategy of a ranged control is in range. -/
theorem Ranged.active {control : BalanceControlImpl F S σ} (ranged : control.Ranged) :
    InRange control.strategy :=
  ranged control.strategy (List.getElem_mem control.activeInRange)

/-- A call that keeps the active strategy in range keeps every strategy in range. -/
theorem Ranged.update {control : BalanceControlImpl F S σ} (ranged : control.Ranged) {strategy : S}
    (inRange : InRange strategy) : (control.update strategy).Ranged := by
  intro hosted member
  rcases List.mem_or_eq_of_mem_set member with old | rfl
  · exact ranged hosted old
  · exact inRange

section Contract
variable [StrategyContract S]

/-- A parameter write never trips the assertion of the strategy that it addresses. -/
theorem setParameter_answers (control : BalanceControlImpl F S σ) (index : Nat) (value : F) :
    (control.setParameter index value).isSome = true := by
  simp only [setParameter]
  split
  · rfl
  · rename_i descriptor published
    split
    · rfl
    · rw [Option.isSome_map]
      have inRange := (List.getElem?_eq_some_iff.mp published).choose
      exact (StrategyContract.accepted control.strategy index value).mpr inRange

omit [StrategyContract S] in
/-- A parameter write is accepted while disengaged, for a published index and a value in range. -/
theorem setParameter_accepted {control after : BalanceControlImpl F S σ} {index : Nat} {value : F}
    (accepted : control.setParameter index value = some (true, after)) :
    control.engaged = false ∧ ∃ descriptor written,
      (ControlStrategy.parameters control.strategy)[index]? = some descriptor ∧
      descriptor.minimum ≤ value ∧ value ≤ descriptor.maximum ∧
      ControlStrategy.setParameter control.strategy index value = some written ∧
      after = control.update written := by
  simp only [setParameter] at accepted
  split at accepted
  · cases accepted
  · rename_i descriptor published
    split at accepted
    · cases accepted
    · rename_i allowed
      simp only [not_or, Decidable.not_not, Bool.not_eq_true] at allowed
      obtain ⟨written, stored, same⟩ := Option.map_eq_some_iff.mp accepted
      obtain ⟨-, rfl⟩ := Prod.mk.inj same
      exact ⟨allowed.1, descriptor, written, published, allowed.2.1, allowed.2.2, stored, rfl⟩

omit [StrategyContract S] in
/-- A refused parameter write changes nothing. -/
theorem setParameter_refused {control after : BalanceControlImpl F S σ} {index : Nat} {value : F}
    (refused : control.setParameter index value = some (false, after)) : after = control := by
  simp only [setParameter] at refused
  split at refused
  · exact (Prod.mk.inj (Option.some.inj refused)).2.symm
  · split at refused
    · exact (Prod.mk.inj (Option.some.inj refused)).2.symm
    · obtain ⟨written, -, same⟩ := Option.map_eq_some_iff.mp refused
      cases same

/-- Engaging resets the active strategy, which keeps its parameters. -/
theorem engage_frozen (control : BalanceControlImpl F S σ) : control.Frozen control.engage :=
  update_frozen (StrategyContract.reset control.strategy)

/-- A balance iteration leaves the active strategy with the parameters it had. -/
theorem balance_frozen [MotionActuation σ F] (control : BalanceControlImpl F S σ)
    (estimate : Estimate F) (interval : Duration) :
    control.Frozen (control.balance estimate interval) := by
  unfold balance
  split
  · exact Frozen.refl control
  · split
    · exact Frozen.refl control
    · have balanced := StrategyContract.balance control.strategy estimate (intervalSeconds interval)
      change control.Frozen (control.update _)
      apply update_frozen
      split
      · exact SameParameters.trans (StrategyContract.saturated _ _) balanced
      · exact balanced

omit [StrategyContract S] in
/-- A decaying setpoint is not part of the configuration. -/
theorem decay_frozen [Clock σ] (control : BalanceControlImpl F S σ) (intervalSeconds : F) :
    control.Frozen (control.decayUnlessCommanded intervalSeconds) := by
  unfold decayUnlessCommanded
  split
  · exact Frozen.refl control
  · exact ⟨rfl, rfl⟩

/-- An outer iteration leaves the active strategy with the parameters it had. -/
theorem steer_frozen [WheelOdometry σ F] [Clock σ] (control : BalanceControlImpl F S σ)
    (interval : Duration) : control.Frozen (control.steer interval) := by
  unfold steer
  split
  · exact Frozen.refl control
  · exact (decay_frozen control _).trans (update_frozen (StrategyContract.steer _ _ _ _))

end Contract

/-- A command of motion changes no configuration. -/
theorem move_frozen [Clock σ] (control : BalanceControlImpl F S σ) (commanded : Setpoints F) :
    control.Frozen (control.move commanded).2 := by
  rcases control.move_cases commanded with refused | ⟨-, accepted⟩
  · rw [refused]
    exact Frozen.refl control
  · rw [accepted]
    exact ⟨rfl, rfl⟩

variable [MotionActuation σ F] [WheelOdometry σ F] [Clock σ]

/-- The request runs as the operation of its name and answers whether it was accepted.
An assertion that trips inside it stops the firmware. -/
def perform (control : BalanceControlImpl F S σ) :
    Request F → Option (Bool × BalanceControlImpl F S σ)
  | .engage => some (true, control.engage)
  | .disengage => some (true, control.disengage)
  | .select index => some (control.select index)
  | .setParameter index value => control.setParameter index value
  | .balance estimate interval => some (true, control.balance estimate interval)
  | .steer interval => some (true, control.steer interval)
  | .move setpoints => some (control.move setpoints)
  | .cancelMotion => some (true, control.cancelMotion)

/-- Balance control on its own: before each operation its peers change as they please. -/
def machine : Machine (BalanceControlImpl F S σ) (σ × Request F) where
  step control event := ((control.attend event.1).perform event.2).map Prod.snd

variable {before after : BalanceControlImpl F S σ} {request : Request F} {accepted : Bool}

/-- A refused request changes nothing. -/
theorem perform_refused (performed : before.perform request = some (false, after)) :
    after = before := by
  cases request with
  | select index => exact select_refused (Option.some.inj performed)
  | setParameter index value => exact setParameter_refused performed
  | move setpoints => exact move_refused (Option.some.inj performed)
  | engage | disengage | balance | steer | cancelMotion => cases performed

/-- An engaged control stays engaged until it is told to disengage. -/
theorem perform_engaged (engaged : before.engaged = true) (kept : request ≠ .disengage)
    (performed : before.perform request = some (accepted, after)) : after.engaged = true := by
  cases request with
  | disengage => exact absurd rfl kept
  | select index =>
      cases accepted with
      | false => rwa [select_refused (Option.some.inj performed)]
      | true =>
          obtain ⟨disengaged, -⟩ := select_accepted (Option.some.inj performed)
          rw [engaged] at disengaged
          cases disengaged
  | setParameter index value =>
      cases accepted with
      | false => rwa [setParameter_refused performed]
      | true =>
          obtain ⟨disengaged, -⟩ := setParameter_accepted performed
          rw [engaged] at disengaged
          cases disengaged
  | engage | balance | steer | move | cancelMotion =>
      have performed : _ = after := congrArg Prod.snd (Option.some.inj performed)
      rw [← performed]
      simp [engage, cancelMotion, engaged]

/-- A selection changes the active index alone. -/
theorem perform_select {index : Nat}
    (performed : before.perform (.select index) = some (true, after)) :
    after.configuration = (index, before.configuration.2) ∧ after.published = before.published := by
  obtain ⟨-, -, active, strategies⟩ := select_accepted (Option.some.inj performed)
  simp only [configuration, published, active, strategies, and_self]

variable [StrategyContract S]

/-- Every request but an accepted selection or parameter write freezes the configuration. -/
theorem perform_frozen (performed : before.perform request = some (accepted, after)) :
    before.Frozen after ∨ accepted = true ∧ before.engaged = false ∧
      ((∃ index, request = .select index) ∨ ∃ index value, request = .setParameter index value) := by
  cases accepted with
  | false =>
      left
      rw [perform_refused performed]
      exact Frozen.refl before
  | true =>
      cases request with
      | select index =>
          obtain ⟨disengaged, -⟩ := select_accepted (Option.some.inj performed)
          exact .inr ⟨rfl, disengaged, .inl ⟨index, rfl⟩⟩
      | setParameter index value =>
          obtain ⟨disengaged, -⟩ := setParameter_accepted performed
          exact .inr ⟨rfl, disengaged, .inr ⟨index, value, rfl⟩⟩
      | engage =>
          obtain ⟨-, rfl⟩ := Prod.mk.inj (Option.some.inj performed)
          exact .inl (engage_frozen before)
      | disengage =>
          obtain ⟨-, rfl⟩ := Prod.mk.inj (Option.some.inj performed)
          exact .inl ⟨rfl, rfl⟩
      | balance estimate interval =>
          obtain ⟨-, rfl⟩ := Prod.mk.inj (Option.some.inj performed)
          exact .inl (balance_frozen before estimate interval)
      | steer interval =>
          obtain ⟨-, rfl⟩ := Prod.mk.inj (Option.some.inj performed)
          exact .inl (steer_frozen before interval)
      | move setpoints =>
          have moved : (before.move setpoints).2 = after := congrArg Prod.snd (Option.some.inj performed)
          rw [← moved]
          exact .inl (move_frozen before setpoints)
      | cancelMotion =>
          obtain ⟨-, rfl⟩ := Prod.mk.inj (Option.some.inj performed)
          exact .inl ⟨rfl, rfl⟩

/-- A parameter write changes the addressed parameter of the active strategy alone. -/
theorem perform_setParameter {index : Nat} {value : F}
    (performed : before.perform (.setParameter index value) = some (true, after)) :
    after.configuration =
        (before.active, before.configuration.2.set before.active
          (Function.update (ControlStrategy.parameter before.strategy) index (some value))) ∧
      after.published = before.published := by
  obtain ⟨-, descriptor, written, -, -, -, stored, rfl⟩ := setParameter_accepted performed
  obtain ⟨ranges, values⟩ := StrategyContract.addressed before.strategy written index value stored
  constructor
  · refine Prod.ext rfl ?_
    change List.map _ _ = _
    rw [update_map, values]
    rfl
  · change List.map _ _ = List.map _ _
    rw [update_map, ranges, strategy_map]

/-- Every request keeps every parameter in its range. -/
theorem perform_ranged (ranged : before.Ranged)
    (performed : before.perform request = some (accepted, after)) : after.Ranged := by
  rcases perform_frozen performed with frozen | ⟨rfl, -, ⟨index, rfl⟩ | ⟨index, value, rfl⟩⟩
  · exact frozen.ranged ranged
  · obtain ⟨-, -, -, strategies⟩ := select_accepted (Option.some.inj performed)
    unfold Ranged
    rw [strategies]
    exact ranged
  · obtain ⟨-, descriptor, written, published, low, high, stored, rfl⟩ := setParameter_accepted performed
    exact ranged.update (ranged.active.written published ⟨low, high⟩ stored)

/-- Every request keeps the ranges that the strategies publish. -/
theorem perform_published (performed : before.perform request = some (accepted, after)) :
    after.published = before.published := by
  rcases perform_frozen performed with frozen | ⟨rfl, -, ⟨index, rfl⟩ | ⟨index, value, rfl⟩⟩
  · exact frozen.2
  · exact (perform_select performed).2
  · exact (perform_setParameter performed).2

/-- No assertion trips, whatever the request. -/
theorem perform_answers (control : BalanceControlImpl F S σ) (request : Request F) :
    (control.perform request).isSome = true := by
  cases request with
  | setParameter index value => exact setParameter_answers control index value
  | engage | disengage | select | balance | steer | move | cancelMotion => rfl

/-- The configuration of a control that starts here is frozen in flight and always in range. -/
structure ConfigurationSafe (start : BalanceControlImpl F S σ) : Prop where
  /-- No run trips an assertion, so no parameter write reaches a strategy beyond its parameters. -/
  answers : ∀ events, (machine.run start events).isSome = true
  /-- The active index names one of the strategies that the control was built with. -/
  active : ∀ control, machine.Reachable start control →
    control.active < control.strategies.length ∧ control.strategies.length = start.strategies.length
  /-- Every parameter of every strategy lies in the range that was published at the start. -/
  ranged : ∀ control, machine.Reachable start control →
    control.Ranged ∧ control.published = start.published
  /-- The configuration between an engagement and the next disengagement is that before it. -/
  frozen : ∀ control peers engaged events final, machine.Reachable start control →
    machine.step control (peers, .engage) = some engaged →
    (∀ event ∈ events, event.2 ≠ .disengage) → machine.run engaged events = some final →
    final.configuration = control.configuration
  /-- A refused request changes nothing. -/
  refused : ∀ control peers request after, machine.Reachable start control →
    (control.attend peers).perform request = some (false, after) → after = control.attend peers
  /-- An accepted selection changes the active index alone. -/
  selected : ∀ control peers index after, machine.Reachable start control →
    (control.attend peers).perform (.select index) = some (true, after) →
    after.configuration = (index, control.configuration.2)
  /-- An accepted parameter write changes the addressed parameter of the active strategy alone. -/
  written : ∀ control peers index value after, machine.Reachable start control →
    (control.attend peers).perform (.setParameter index value) = some (true, after) →
    index < (ControlStrategy.parameters control.strategy).length ∧
      after.configuration =
        (control.active, control.configuration.2.set control.active
          (Function.update (ControlStrategy.parameter control.strategy) index (some value)))

omit [StrategyContract S] in
/-- A step of the machine is an answered request. -/
theorem step_iff {control next : BalanceControlImpl F S σ} {event : σ × Request F} :
    machine.step control event = some next ↔
      ∃ accepted, (control.attend event.1).perform event.2 = some (accepted, next) := by
  simp only [machine, Option.map_eq_some_iff, Prod.exists]
  constructor
  · intro given
    obtain ⟨accepted, _, performed, rfl⟩ := given
    exact ⟨accepted, performed⟩
  · intro given
    obtain ⟨accepted, performed⟩ := given
    exact ⟨accepted, next, performed, rfl⟩

/-- A step keeps the parameters in the ranges that were published at the start. -/
theorem ranged_kept (start control : BalanceControlImpl F S σ) (event : σ × Request F)
    (next : BalanceControlImpl F S σ)
    (holds : control.Ranged ∧ control.published = start.published)
    (stepped : machine.step control event = some next) :
    next.Ranged ∧ next.published = start.published := by
  obtain ⟨accepted, performed⟩ := step_iff.mp stepped
  have ranged : (control.attend event.1).Ranged := holds.1
  exact ⟨perform_ranged ranged performed, (perform_published performed).trans holds.2⟩

/-- An engaged step freezes the configuration and stays engaged until the disengagement. -/
theorem frozen_run {engaged final : BalanceControlImpl F S σ} {events : List (σ × Request F)}
    (flying : engaged.engaged = true) (kept : ∀ event ∈ events, event.2 ≠ .disengage)
    (ran : machine.run engaged events = some final) :
    final.configuration = engaged.configuration := by
  induction events generalizing engaged with
  | nil =>
      obtain rfl := Option.some.inj ran
      rfl
  | cons event rest ih =>
      obtain ⟨next, stepped, onward⟩ := run_cons.mp ran
      obtain ⟨accepted, performed⟩ := step_iff.mp stepped
      have attended : (engaged.attend event.1).engaged = true := flying
      have still := perform_engaged attended (kept event (by simp)) performed
      have later : ∀ event ∈ rest, event.2 ≠ .disengage := by
        intro event listed
        exact kept event (by simp [listed])
      rcases perform_frozen performed with frozen | ⟨-, disengaged, -⟩
      · exact (ih still later onward).trans frozen.1
      · rw [attended] at disengaged
        cases disengaged

/-- Every step is answered, so every run is. -/
theorem run_answers (start : BalanceControlImpl F S σ) (events : List (σ × Request F)) :
    (machine.run start events).isSome = true := by
  induction events generalizing start with
  | nil => rfl
  | cons event rest ih =>
      have answered := perform_answers (start.attend event.1) event.2
      obtain ⟨⟨accepted, next⟩, performed⟩ := Option.isSome_iff_exists.mp answered
      rw [run, step_iff.mpr ⟨accepted, performed⟩]
      exact ih next

/-- A control whose strategies keep their contract starts safe when its parameters are in range. -/
theorem configuration_safe (start : BalanceControlImpl F S σ) (ranged : start.Ranged) :
    start.ConfigurationSafe where
  answers := run_answers start
  active control reached := by
    obtain ⟨-, published⟩ := reached.invariant (ranged_kept start) ⟨ranged, rfl⟩
    have lengths := congrArg List.length published
    simp only [BalanceControlImpl.published, List.length_map] at lengths
    exact ⟨control.activeInRange, lengths⟩
  ranged control reached := reached.invariant (ranged_kept start) ⟨ranged, rfl⟩
  frozen control peers engaged events final reached stepped kept ran := by
    obtain rfl := Option.some.inj stepped
    have initially := engage_frozen (control.attend peers)
    exact (frozen_run rfl kept ran).trans initially.1
  refused control peers request after reached performed := perform_refused performed
  selected control peers index after reached performed := (perform_select performed).1
  written control peers index value after reached performed := by
    obtain ⟨-, descriptor, -, published, -⟩ := setParameter_accepted performed
    exact ⟨(List.getElem?_eq_some_iff.mp published).choose, (perform_setParameter performed).1⟩

section Hosted
variable {R P : Type} [IncrementalPid P F] [Regulator R F]

omit [ControlStrategy S F] [StrategyContract S] in
/-- A control that hosts cascaded loops and regulators keeps its configuration frozen in flight and
in range, whatever the toolbox computes. -/
theorem hosted_configuration_safe {strategies : List (HostedStrategy R P F)} {peers : σ}
    {config : Config F} {start : BalanceControlImpl F (HostedStrategy R P F) σ}
    (constructed : construct strategies peers config = some start)
    (ranged : ∀ strategy ∈ strategies, InRange strategy) : start.ConfigurationSafe := by
  apply configuration_safe start
  unfold construct at constructed
  split at constructed
  · obtain rfl := Option.some.inj constructed
    exact ranged
  · cases constructed

end Hosted

/-- The default strategies keep their default gains in range. -/
theorem hosted_configuration_safe_default :
    ∃ start : BalanceControlImpl ℚ (HostedStrategy (GainRow ℚ) (VelocityPid ℚ) ℚ) (Bench ℚ),
      construct (hosted .default .default) ⟨⟨0, 0⟩, 0, []⟩ Config.default = some start ∧
        start.ConfigurationSafe := by
  refine ⟨_, rfl, hosted_configuration_safe
    (rfl : construct (hosted (R := GainRow ℚ) (P := VelocityPid ℚ) .default .default)
      (⟨⟨0, 0⟩, 0, []⟩ : Bench ℚ) Config.default = some _) ?_⟩
  intro strategy member
  rcases List.mem_pair.mp member with rfl | rfl
  · exact default_inRange.1
  · exact default_inRange.2

end BalanceControlImpl
end InvertedPendulum.Balance
