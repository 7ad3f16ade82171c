import Mathlib.Algebra.Order.Group.Defs
import Mathlib.Algebra.Module.NatInt
import Mathlib.Data.List.Chain
import Mathlib.Tactic.Abel

namespace Reactive

section Latest
variable {Time : Type*} {start now : Time} {times : List Time}

/-- The last time of a timeline is its start while no other has come. -/
def lastTime (start : Time) (times : List Time) : Time := times.getLastD start

@[simp] theorem lastTime_nil : lastTime start [] = start := rfl

@[simp] theorem lastTime_cons {first : Time} :
    lastTime start (first :: times) = lastTime first times := by
  unfold lastTime
  rw [List.getLastD_cons]

@[simp] theorem lastTime_snoc : lastTime start (times ++ [now]) = now := List.getLastD_concat

@[simp] theorem lastTime_append {later : List Time} :
    lastTime start (times ++ later) = lastTime (lastTime start times) later := by
  induction times generalizing start with
  | nil => rfl
  | cons first rest ih => rw [List.cons_append, lastTime_cons, lastTime_cons, ih]

end Latest

section Spacing
variable {Time : Type*} [AddCommGroup Time] {allowed : Time → Prop} {start now : Time}
  {times : List Time}

/-- Each time of a timeline follows the one before it by an allowed gap. -/
def Spaced (allowed : Time → Prop) (start : Time) (times : List Time) : Prop :=
  List.IsChain (fun earlier later => allowed (later - earlier)) (start :: times)

/-- A timeline with no time after its start is spaced. -/
@[simp] theorem Spaced.nil : Spaced allowed start [] := List.isChain_singleton start

theorem spaced_cons {first : Time} :
    Spaced allowed start (first :: times) ↔ allowed (first - start) ∧ Spaced allowed first times :=
  List.isChain_cons_cons

/-- One timeline goes on with another from its last time. -/
theorem spaced_append {later : List Time} :
    Spaced allowed start (times ++ later) ↔
      Spaced allowed start times ∧ Spaced allowed (lastTime start times) later := by
  induction times generalizing start with
  | nil => simp
  | cons first rest ih =>
      rw [List.cons_append, spaced_cons, spaced_cons, ih, lastTime_cons, and_assoc]

/-- A timeline takes one more time exactly when the last gap is allowed. -/
theorem spaced_snoc :
    Spaced allowed start (times ++ [now]) ↔
      Spaced allowed start times ∧ allowed (now - lastTime start times) := by
  rw [spaced_append, spaced_cons]
  simp

end Spacing

section Ordered
variable {Time : Type*} [AddCommGroup Time] [LinearOrder Time] [IsOrderedAddMonoid Time]
  {limit start : Time} {times : List Time}

/-- A timeline spans at most its limit times its number of gaps. -/
theorem Spaced.span_le (spaced : Spaced (· ≤ limit) start times) :
    lastTime start times - start ≤ times.length • limit := by
  induction times generalizing start with
  | nil => simp
  | cons first rest ih =>
      obtain ⟨gap, spaced⟩ := spaced_cons.mp spaced
      have tail := ih spaced
      calc lastTime start (first :: rest) - start
          = (lastTime first rest - first) + (first - start) := by
            rw [lastTime_cons]
            abel
        _ ≤ rest.length • limit + limit := add_le_add tail gap
        _ = (first :: rest).length • limit := by
            rw [List.length_cons, succ_nsmul]

end Ordered
end Reactive
