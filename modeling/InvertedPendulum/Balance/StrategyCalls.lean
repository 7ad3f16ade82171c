import InvertedPendulum.Balance.ControlStrategy
import InvertedPendulum.Reactive.Machine

namespace InvertedPendulum.Balance
open Estimation Odometry Reactive

/-- These calls reach a strategy that balance control drives. -/
inductive StrategyCall (F : Type) where
  | setParameter (index : Nat) (value : F)
  | reset
  | steer (setpoints : Setpoints F) (chassis : ChassisMotion F) (intervalSeconds : F)
  | balance (estimate : Estimate F) (intervalSeconds : F)
  | saturated (applied : Effort F)

namespace StrategyCall

/-- A strategy answers every call, unless a parameter index beyond its parameters stops it. -/
def answer {S F : Type} [ControlStrategy S F] (strategy : S) : StrategyCall F → Option S
  | .setParameter index value => ControlStrategy.setParameter strategy index value
  | .reset => some (ControlStrategy.reset strategy)
  | .steer setpoints chassis intervalSeconds =>
      some (ControlStrategy.steer strategy setpoints chassis intervalSeconds)
  | .balance estimate intervalSeconds =>
      some (ControlStrategy.balance strategy estimate intervalSeconds).2
  | .saturated applied => some (ControlStrategy.saturated strategy applied)

def machine {S F : Type} [ControlStrategy S F] : Machine S (StrategyCall F) where
  step := answer

/-- Between two outer iterations of one session, a strategy is neither steered nor reset. -/
def Inner {F : Type} : StrategyCall F → Prop
  | .steer _ _ _ | .reset => False
  | _ => True

/-- This call reports a saturation. -/
def Saturates {F : Type} : StrategyCall F → Prop
  | .saturated _ => True
  | _ => False

/-- A run of inner calls keeps what no inner call changes. -/
theorem inner_run_keeps {S F A : Type} [ControlStrategy S F] (read : S → A)
    (kept : ∀ strategy call next, call.Inner → answer strategy call = some next →
      read next = read strategy)
    {start final : S} {calls : List (StrategyCall F)} (inner : ∀ call ∈ calls, call.Inner)
    (ran : machine.run start calls = some final) : read final = read start := by
  induction calls generalizing start with
  | nil =>
      obtain rfl := Option.some.inj ran
      rfl
  | cons call rest ih =>
      obtain ⟨next, answered, ran⟩ := Machine.run_cons.mp ran
      have later := ih (fun call listed => inner call (List.mem_cons_of_mem _ listed)) ran
      exact later.trans (kept start call next (inner call List.mem_cons_self) answered)

end StrategyCall
end InvertedPendulum.Balance
