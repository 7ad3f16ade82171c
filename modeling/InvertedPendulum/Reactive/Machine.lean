import Mathlib.Logic.Relation
import Mathlib.Data.Option.Defs

namespace Reactive

/-- A machine answers an event with its next state, or with nothing where it stops. -/
structure Machine (State Event : Type*) where
  step : State → Event → Option State

namespace Machine
variable {State Event : Type*}

/-- A run answers its events in order. -/
def run (machine : Machine State Event) : State → List Event → Option State
  | state, [] => some state
  | state, event :: rest => (machine.step state event).bind fun next => machine.run next rest

@[simp] theorem run_nil (machine : Machine State Event) (state : State) :
    machine.run state [] = some state := rfl

/-- A run of one more event answers that event first. -/
theorem run_cons {machine : Machine State Event} {start final : State} {event : Event}
    {rest : List Event} :
    machine.run start (event :: rest) = some final ↔
      ∃ next, machine.step start event = some next ∧ machine.run next rest = some final := by
  simp [run, Option.bind_eq_some_iff]

/-- A run splits at every point. -/
theorem run_append {machine : Machine State Event} {start final : State}
    {front back : List Event} :
    machine.run start (front ++ back) = some final ↔
      ∃ middle, machine.run start front = some middle ∧ machine.run middle back = some final := by
  induction front generalizing start with
  | nil => simp
  | cons event front ih =>
      simp only [List.cons_append, run_cons, ih]
      constructor
      · intro given
        obtain ⟨next, stepped, middle, before, after⟩ := given
        exact ⟨middle, ⟨next, stepped, before⟩, after⟩
      · intro given
        obtain ⟨middle, ⟨next, stepped, before⟩, after⟩ := given
        exact ⟨next, stepped, middle, before, after⟩

/-- A state is reachable when some run ends in it. -/
def Reachable (machine : Machine State Event) (start final : State) : Prop :=
  ∃ events, machine.run start events = some final

theorem Reachable.refl (machine : Machine State Event) (start : State) :
    machine.Reachable start start := ⟨[], rfl⟩

/-- A step that keeps a property makes every run keep it. -/
theorem run_invariant {machine : Machine State Event} {holds : State → Prop}
    (kept : ∀ state event next, holds state → machine.step state event = some next → holds next)
    {start final : State} {events : List Event} (initially : holds start)
    (ran : machine.run start events = some final) : holds final := by
  induction events generalizing start with
  | nil =>
      obtain rfl := Option.some.inj ran
      exact initially
  | cons event rest ih =>
      obtain ⟨next, stepped, ran⟩ := run_cons.mp ran
      exact ih (kept start event next initially stepped) ran

theorem Reachable.invariant {machine : Machine State Event} {holds : State → Prop}
    (kept : ∀ state event next, holds state → machine.step state event = some next → holds next)
    {start final : State} (initially : holds start) (reached : machine.Reachable start final) :
    holds final := by
  obtain ⟨events, ran⟩ := reached
  exact run_invariant kept initially ran

/-- A run that comes to a property takes one step into it. -/
theorem run_crossing {machine : Machine State Event} (property : State → Prop)
    {start final : State} {events : List Event} (ran : machine.run start events = some final)
    (before : ¬ property start) (after : property final) :
    ∃ front event back state next, events = front ++ event :: back ∧
      machine.run start front = some state ∧ ¬ property state ∧
      machine.step state event = some next ∧ property next ∧ machine.run next back = some final := by
  induction events generalizing start with
  | nil =>
      obtain rfl := Option.some.inj ran
      exact absurd after before
  | cons event rest ih =>
      obtain ⟨next, stepped, ran⟩ := run_cons.mp ran
      by_cases crossed : property next
      · exact ⟨[], event, rest, start, next, rfl, rfl, before, stepped, crossed, ran⟩
      · obtain ⟨front, later, back, state, last, rfl, reached, outside, moved, inside, ended⟩ :=
          ih ran crossed
        exact ⟨event :: front, later, back, state, last, rfl,
          run_cons.mpr ⟨next, stepped, reached⟩, outside, moved, inside, ended⟩

/-- A relation that every step respects in both components relates every pair of runs. -/
theorem run_refines {Abstract : Type*} {machine : Machine State Event}
    (abstraction : State → Abstract) {edge : Abstract → Abstract → Prop} {holds : State → Prop}
    (kept : ∀ state event next, holds state → machine.step state event = some next → holds next)
    (refined : ∀ state event next, holds state → machine.step state event = some next →
      abstraction next = abstraction state ∨ edge (abstraction state) (abstraction next))
    {start final : State} {events : List Event} (initially : holds start)
    (ran : machine.run start events = some final) :
    Relation.ReflTransGen edge (abstraction start) (abstraction final) := by
  induction events generalizing start with
  | nil =>
      obtain rfl := Option.some.inj ran
      exact .refl
  | cons event rest ih =>
      obtain ⟨next, stepped, ran⟩ := run_cons.mp ran
      have tail := ih (kept start event next initially stepped) ran
      rcases refined start event next initially stepped with same | moved
      · rwa [same] at tail
      · exact .head moved tail

/-- A property of states and events holds at each step of a run. -/
def Along (machine : Machine State Event) (property : State → Event → Prop) :
    State → List Event → Prop
  | _, [] => True
  | state, event :: rest =>
      property state event ∧
        ∀ next, machine.step state event = some next → machine.Along property next rest

/-- A property along a run is the property at the end of every proper prefix. -/
theorem along_iff_prefix {machine : Machine State Event} {property : State → Event → Prop}
    {start : State} {events : List Event} :
    machine.Along property start events ↔
      ∀ front event back, events = front ++ event :: back →
        ∀ state, machine.run start front = some state → property state event := by
  induction events generalizing start with
  | nil => simp [Along]
  | cons first rest ih =>
      simp only [Along, ih]
      constructor
      · rintro ⟨now, later⟩ front event back split state ran
        cases front with
        | nil =>
            obtain ⟨rfl, -⟩ := List.cons.inj split
            obtain rfl := Option.some.inj ran
            exact now
        | cons head front =>
            obtain ⟨rfl, tail⟩ := List.cons.inj split
            obtain ⟨next, stepped, ran⟩ := run_cons.mp ran
            exact later next stepped front event back tail state ran
      · intro everywhere
        refine ⟨everywhere [] first rest rfl start rfl, ?_⟩
        intro next stepped front event back split state ran
        exact everywhere (first :: front) event back (by rw [split]; rfl) state
          (run_cons.mpr ⟨next, stepped, ran⟩)

/-- Two properties that agree under an invariant hold along the same runs, where the second lets the
invariant survive. -/
theorem along_congr {machine : Machine State Event} (holds : State → Prop)
    {first second : State → Event → Prop}
    (kept : ∀ state event next, holds state → second state event →
      machine.step state event = some next → holds next)
    (agree : ∀ state event, holds state → (first state event ↔ second state event))
    {start : State} (initially : holds start) (events : List Event) :
    machine.Along first start events ↔ machine.Along second start events := by
  induction events generalizing start with
  | nil => exact Iff.rfl
  | cons event rest ih =>
      simp only [Along]
      rw [agree start event initially]
      refine and_congr_right fun now => ?_
      refine forall_congr' fun next => imp_congr_right fun stepped => ?_
      exact ih (kept start event next initially now stepped)

/-- A property along a run gives every property that it implies under an invariant it keeps. -/
theorem along_of {machine : Machine State Event} {holds : State → Prop}
    {first second : State → Event → Prop}
    (kept : ∀ state event next, holds state → first state event →
      machine.step state event = some next → holds next)
    (implied : ∀ state event, holds state → first state event → second state event)
    {start : State} (initially : holds start) {events : List Event}
    (along : machine.Along first start events) : machine.Along second start events := by
  induction events generalizing start with
  | nil => trivial
  | cons event rest ih =>
      obtain ⟨now, later⟩ := along
      constructor
      · exact implied start event initially now
      · intro next stepped
        exact ih (kept start event next initially now stepped) (later next stepped)

/-- A run goes on where every step of it has a next state. -/
theorem run_of_along {machine : Machine State Event} {start : State} {events : List Event}
    (along : machine.Along (fun state event => ∃ next, machine.step state event = some next) start
      events) : ∃ final, machine.run start events = some final := by
  induction events generalizing start with
  | nil => exact ⟨start, rfl⟩
  | cons event rest ih =>
      obtain ⟨⟨next, stepped⟩, later⟩ := along
      obtain ⟨final, ran⟩ := ih (later next stepped)
      exact ⟨final, run_cons.mpr ⟨next, stepped, ran⟩⟩

/-- A property along a run lets an invariant that needs it survive the run. -/
theorem run_invariant_along {machine : Machine State Event} {holds : State → Prop}
    {property : State → Event → Prop}
    (kept : ∀ state event next, holds state → property state event →
      machine.step state event = some next → holds next)
    {start final : State} {events : List Event} (initially : holds start)
    (along : machine.Along property start events)
    (ran : machine.run start events = some final) : holds final := by
  induction events generalizing start with
  | nil =>
      obtain rfl := Option.some.inj ran
      exact initially
  | cons event rest ih =>
      obtain ⟨next, stepped, ran⟩ := run_cons.mp ran
      exact ih (kept start event next initially along.1 stepped) (along.2 next stepped) ran

/-- An observer keeps a history of the steps it has seen. -/
def observed {History : Type*} (machine : Machine State Event)
    (observe : History → State → Event → State → History) : Machine (State × History) Event where
  step pair event :=
    (machine.step pair.1 event).map fun next => (next, observe pair.2 pair.1 event next)

theorem observed_step {History : Type*} {machine : Machine State Event}
    {observe : History → State → Event → State → History} {state next : State}
    {before after : History} {event : Event} :
    (machine.observed observe).step (state, before) event = some (next, after) ↔
      machine.step state event = some next ∧ after = observe before state event next := by
  simp only [observed, Option.map_eq_some_iff, Prod.mk.injEq]
  constructor
  · intro given
    obtain ⟨_, stepped, rfl, rfl⟩ := given
    exact ⟨stepped, rfl⟩
  · intro given
    obtain ⟨stepped, rfl⟩ := given
    exact ⟨next, stepped, rfl, rfl⟩

/-- The observer does not change what the machine does. -/
theorem observed_run {History : Type*} {machine : Machine State Event}
    {observe : History → State → Event → State → History} {start final : State} (before : History)
    {events : List Event} :
    machine.run start events = some final ↔
      ∃ after, (machine.observed observe).run (start, before) events = some (final, after) := by
  induction events generalizing start before with
  | nil => simp
  | cons event rest ih =>
      rw [run_cons]
      constructor
      · intro given
        obtain ⟨next, stepped, ran⟩ := given
        obtain ⟨after, ran⟩ := (ih (observe before start event next)).mp ran
        exact ⟨after, run_cons.mpr ⟨_, observed_step.mpr ⟨stepped, rfl⟩, ran⟩⟩
      · intro given
        obtain ⟨after, ran⟩ := given
        obtain ⟨⟨next, history⟩, both, ran⟩ := run_cons.mp ran
        obtain ⟨stepped, rfl⟩ := observed_step.mp both
        exact ⟨next, stepped, (ih _).mpr ⟨after, ran⟩⟩

/-- A property of the machine holds along its runs whether or not they are observed. -/
theorem observed_along {History : Type*} {machine : Machine State Event}
    {observe : History → State → Event → State → History} {property : State → Event → Prop}
    {start : State} (history : History) {events : List Event} :
    (machine.observed observe).Along (fun pair event => property pair.1 event) (start, history)
      events ↔ machine.Along property start events := by
  induction events generalizing start history with
  | nil => exact Iff.rfl
  | cons event rest ih =>
      refine and_congr_right fun _ => ⟨?_, ?_⟩
      · intro later next stepped
        exact (ih _).mp (later (next, observe history start event next) (observed_step.mpr ⟨stepped, rfl⟩))
      · rintro later ⟨next, after⟩ both
        obtain ⟨stepped, rfl⟩ := observed_step.mp both
        exact (ih _).mpr (later next stepped)

end Machine
end Reactive
