import InvertedPendulum.Balance.Sessions
import InvertedPendulum.Balance.StrategyCalls

namespace InvertedPendulum.Balance
open Estimation Motion Odometry Reactive Machine

/-- A session drives its strategy by these iterations. -/
inductive Iteration (F : Type) where
  | steer (setpoints : Setpoints F) (chassis : ChassisMotion F) (intervalSeconds : F)
  | balance (estimate : Estimate F) (intervalSeconds : F)

namespace Iteration
variable {S F : Type} [FloatArithmetic F] [ControlStrategy S F]

/-- A strategy hears of the applied effort when its own had to be clamped. -/
def answer (strategy : S) : Iteration F → S
  | .steer setpoints chassis intervalSeconds =>
      ControlStrategy.steer strategy setpoints chassis intervalSeconds
  | .balance estimate intervalSeconds =>
      let (requested, balanced) := ControlStrategy.balance strategy estimate intervalSeconds
      let applied := saturate requested
      if ! sameEffort applied requested then ControlStrategy.saturated balanced applied else balanced

/-- A strategy answers its iterations in order. -/
def run (strategy : S) (iterations : List (Iteration F)) : S := iterations.foldl answer strategy

@[simp] theorem run_nil (strategy : S) : run strategy [] = strategy := rfl

@[simp] theorem run_cons (strategy : S) (iteration : Iteration F)
    (iterations : List (Iteration F)) :
    run strategy (iteration :: iterations) = run (answer strategy iteration) iterations := rfl

theorem run_append (strategy : S) (front back : List (Iteration F)) :
    run strategy (front ++ back) = run (run strategy front) back := List.foldl_append

/-- A balance iteration makes one inner call on its strategy, or two where the effort saturates. -/
theorem balance_calls (strategy : S) (estimate : Estimate F) (intervalSeconds : F) :
    ∃ calls, (∀ call ∈ calls, StrategyCall.Inner call) ∧
      StrategyCall.machine.run strategy calls =
        some (answer strategy (.balance estimate intervalSeconds)) := by
  simp only [answer]
  split
  · exact ⟨[.balance estimate intervalSeconds, .saturated _], by simp [StrategyCall.Inner], rfl⟩
  · exact ⟨[.balance estimate intervalSeconds], by simp [StrategyCall.Inner], rfl⟩

theorem answer_reachable (strategy : S) (iteration : Iteration F) :
    StrategyCall.machine.Reachable strategy (answer strategy iteration) := by
  cases iteration with
  | steer setpoints chassis intervalSeconds =>
      exact ⟨[.steer setpoints chassis intervalSeconds], rfl⟩
  | balance estimate intervalSeconds =>
      obtain ⟨calls, -, ran⟩ := balance_calls strategy estimate intervalSeconds
      exact ⟨calls, ran⟩

/-- A strategy that is driven by iterations is in a state that its calls reach. -/
theorem run_reachable (strategy : S) (iterations : List (Iteration F)) :
    StrategyCall.machine.Reachable strategy (run strategy iterations) := by
  induction iterations generalizing strategy with
  | nil => exact .refl _ strategy
  | cons iteration rest ih =>
      obtain ⟨calls, ran⟩ := answer_reachable strategy iteration
      obtain ⟨later, ranLater⟩ := ih (answer strategy iteration)
      exact ⟨calls ++ later, Machine.run_append.mpr ⟨_, ran, ranLater⟩⟩

end Iteration

namespace BalanceControlImpl
variable {F S σ : Type} [FloatArithmetic F] [ControlStrategy S F] [MotionActuation σ F]
  [WheelOdometry σ F] [Clock σ]

/-- A request of a session makes one iteration of the active strategy, or none. -/
theorem perform_iterates {before after : BalanceControlImpl F S σ} {request : Request F}
    {accepted : Bool} (inSession : request.InSession)
    (performed : before.perform request = some (accepted, after)) :
    ∃ iterations, after.strategy = Iteration.run before.strategy iterations := by
  cases request with
  | engage | disengage | select | setParameter => exact inSession.elim
  | balance estimate interval =>
      obtain ⟨-, rfl⟩ := Prod.mk.inj (Option.some.inj performed)
      simp only [balance]
      split
      · exact ⟨[], rfl⟩
      · split
        · exact ⟨[], rfl⟩
        · refine ⟨[.balance estimate (intervalSeconds interval)], ?_⟩
          exact update_strategy before _
  | steer interval =>
      obtain ⟨-, rfl⟩ := Prod.mk.inj (Option.some.inj performed)
      simp only [steer]
      split
      · exact ⟨[], rfl⟩
      · have kept : (before.decayUnlessCommanded (intervalSeconds interval)).strategy =
            before.strategy := by
          unfold decayUnlessCommanded
          split <;> rfl
        refine ⟨[.steer (before.decayUnlessCommanded (intervalSeconds interval)).setpoints
          (WheelOdometry.chassis (before.decayUnlessCommanded (intervalSeconds interval)).peers)
          (intervalSeconds interval)], ?_⟩
        rw [update_strategy, kept]
        rfl
  | move setpoints =>
      have moved : (before.move setpoints).2 = after := congrArg Prod.snd (Option.some.inj performed)
      refine ⟨[], ?_⟩
      rw [← moved]
      rcases before.move_cases setpoints with refused | ⟨-, accepted⟩
      · rw [refused]
        rfl
      · rw [accepted]
        rfl
  | cancelMotion =>
      obtain ⟨-, rfl⟩ := Prod.mk.inj (Option.some.inj performed)
      exact ⟨[], rfl⟩

omit [MotionActuation σ F] [WheelOdometry σ F] [Clock σ] in
/-- A session starts with a reset of its strategy. -/
theorem engage_strategy (control : BalanceControlImpl F S σ) :
    control.engage.strategy = ControlStrategy.reset control.strategy :=
  update_strategy { control with setpoints := noSetpoints, cancelled := true } _

/-- The requests of a session make iterations of the active strategy alone. -/
theorem run_iterates {start final : BalanceControlImpl F S σ} {events : List (σ × Request F)}
    (inSession : ∀ event ∈ events, event.2.InSession) (ran : machine.run start events = some final) :
    ∃ iterations, final.strategy = Iteration.run start.strategy iterations := by
  induction events generalizing start with
  | nil =>
      obtain rfl := Option.some.inj ran
      exact ⟨[], rfl⟩
  | cons event rest ih =>
      obtain ⟨next, stepped, ran⟩ := Machine.run_cons.mp ran
      obtain ⟨accepted, performed⟩ := step_iff.mp stepped
      obtain ⟨first, made⟩ :=
        perform_iterates (inSession event List.mem_cons_self) performed
      obtain ⟨later, driven⟩ :=
        ih (fun event listed => inSession event (List.mem_cons_of_mem _ listed)) ran
      refine ⟨first ++ later, ?_⟩
      rw [driven, made, Iteration.run_append]
      rfl

/-- A session drives its strategy by iterations from a reset, and so by calls that reach its state. -/
theorem session_drives {control final : BalanceControlImpl F S σ} {events : List (σ × Request F)}
    (inSession : ∀ event ∈ events, event.2.InSession)
    (ran : machine.run control.engage events = some final) :
    ∃ iterations,
      final.strategy = Iteration.run (ControlStrategy.reset control.strategy) iterations ∧
        StrategyCall.machine.Reachable control.strategy final.strategy := by
  obtain ⟨iterations, driven⟩ := run_iterates inSession ran
  rw [engage_strategy] at driven
  obtain ⟨calls, called⟩ :=
    Iteration.run_reachable (ControlStrategy.reset control.strategy) iterations
  refine ⟨iterations, driven, .reset :: calls, ?_⟩
  rw [driven]
  exact Machine.run_cons.mpr ⟨_, rfl, called⟩

end BalanceControlImpl
end InvertedPendulum.Balance
