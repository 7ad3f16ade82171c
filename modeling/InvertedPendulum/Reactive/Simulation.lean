import InvertedPendulum.Reactive.Machine

namespace Reactive.Machine
variable {State Event Concrete Label : Type*} {machine : Machine State Event}
  {concrete : Machine Concrete Label}

theorem Reachable.trans {start middle final : State} (before : machine.Reachable start middle)
    (after : machine.Reachable middle final) : machine.Reachable start final := by
  obtain ⟨front, ran⟩ := before
  obtain ⟨back, went⟩ := after
  exact ⟨front ++ back, run_append.mpr ⟨middle, ran, went⟩⟩

theorem Reachable.single {start final : State} {event : Event}
    (stepped : machine.step start event = some final) : machine.Reachable start final :=
  ⟨[event], run_cons.mpr ⟨final, stepped, rfl⟩⟩

/-- A relation simulates where the machine follows every step of the other by a run of its own. -/
def Simulates (machine : Machine State Event) (concrete : Machine Concrete Label)
    (relation : Concrete → State → Prop) : Prop :=
  ∀ before state label after, relation before state → concrete.step before label = some after →
    ∃ next, machine.Reachable state next ∧ relation after next

/-- What the other machine reaches, the machine reaches up to the relation. -/
theorem Simulates.reachable {relation : Concrete → State → Prop}
    (simulates : Simulates machine concrete relation) {before after : Concrete} {start : State}
    (initially : relation before start) (reached : concrete.Reachable before after) :
    ∃ final, machine.Reachable start final ∧ relation after final := by
  obtain ⟨labels, ran⟩ := reached
  induction labels generalizing before start with
  | nil =>
      obtain rfl := Option.some.inj ran
      exact ⟨start, .refl machine start, initially⟩
  | cons label rest ih =>
      obtain ⟨middle, stepped, ran⟩ := run_cons.mp ran
      obtain ⟨next, followed, related⟩ := simulates before start label middle initially stepped
      obtain ⟨final, reached, ends⟩ := ih related ran
      exact ⟨final, followed.trans reached, ends⟩

end Reactive.Machine
