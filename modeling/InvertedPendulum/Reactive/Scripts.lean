import InvertedPendulum.Reactive.Machine

namespace Reactive.Machine
variable {State Event : Type*} {machine : Machine State Event} {disturbs : Event → Prop}
  {holds before middle after : State → Prop} {front back script : List Event} {event : Event}
  {state drifted : State}

/-- Disturbances lead from one state to another. -/
def Drifts (machine : Machine State Event) (disturbs : Event → Prop) : State → State → Prop :=
  Relation.ReflTransGen fun state next =>
    ∃ event, disturbs event ∧ machine.step state event = some next

/-- A disturbance leaves the property standing. -/
def Stable (machine : Machine State Event) (disturbs : Event → Prop) (holds : State → Prop) : Prop :=
  ∀ state event next, holds state → disturbs event → machine.step state event = some next →
    holds next

/-- The machine answers each event of the script, whatever disturbances come before it, and the
property holds after the last one, whatever disturbances follow. -/
def Prevails (machine : Machine State Event) (disturbs : Event → Prop) (after : State → Prop) :
    List Event → State → Prop
  | [], state => ∀ final, machine.Drifts disturbs state final → after final
  | event :: rest, state => ∀ drifted, machine.Drifts disturbs state drifted →
      ∃ next, machine.step drifted event = some next ∧ machine.Prevails disturbs after rest next

/-- A script leads from one property to another when it prevails in every state with the first. -/
def Leads (machine : Machine State Event) (disturbs : Event → Prop) (before : State → Prop)
    (script : List Event) (after : State → Prop) : Prop :=
  ∀ state, before state → machine.Prevails disturbs after script state

theorem Stable.drifts (stable : machine.Stable disturbs holds)
    (drifts : machine.Drifts disturbs state drifted) (initially : holds state) : holds drifted := by
  induction drifts with
  | refl => exact initially
  | tail _ disturbed ih =>
      obtain ⟨event, disturbing, stepped⟩ := disturbed
      exact stable _ event _ ih disturbing stepped

/-- A script prevails where it does after every drift. -/
theorem prevails_drifts
    (prevails : ∀ drifted, machine.Drifts disturbs state drifted →
      machine.Prevails disturbs after script drifted) :
    machine.Prevails disturbs after script state := by
  cases script with
  | nil => exact fun final drifts => prevails final drifts final .refl
  | cons event rest => exact fun drifted drifts => prevails drifted drifts drifted .refl

/-- A script that prevails is answered where nothing disturbs it. -/
theorem Prevails.run (prevails : machine.Prevails disturbs after script state) :
    ∃ final, machine.run state script = some final ∧ after final := by
  induction script generalizing state with
  | nil => exact ⟨state, rfl, prevails state .refl⟩
  | cons event rest ih =>
      obtain ⟨next, stepped, later⟩ := prevails state .refl
      obtain ⟨final, ran, ends⟩ := ih later
      exact ⟨final, run_cons.mpr ⟨next, stepped, ran⟩, ends⟩

/-- A script prevails for everything that its end implies. -/
theorem Prevails.weaken (prevails : machine.Prevails disturbs middle script state)
    (implied : ∀ state, middle state → after state) :
    machine.Prevails disturbs after script state := by
  induction script generalizing state with
  | nil => exact fun final drifts => implied final (prevails final drifts)
  | cons event rest ih =>
      intro drifted drifts
      obtain ⟨next, stepped, later⟩ := prevails drifted drifts
      exact ⟨next, stepped, ih later⟩

/-- A script after another prevails where it leads on from the end of the other. -/
theorem Prevails.append (first : machine.Prevails disturbs middle front state)
    (second : machine.Leads disturbs middle back after) :
    machine.Prevails disturbs after (front ++ back) state := by
  induction front generalizing state with
  | nil => exact prevails_drifts fun drifted drifts => second drifted (first drifted drifts)
  | cons event rest ih =>
      intro drifted drifts
      obtain ⟨next, stepped, later⟩ := first drifted drifts
      exact ⟨next, stepped, ih later⟩

theorem Leads.nil (stable : machine.Stable disturbs before) :
    machine.Leads disturbs before [] before :=
  fun _ holds _ drifts => stable.drifts drifts holds

theorem Leads.cons (stable : machine.Stable disturbs before)
    (answers : ∀ state, before state → ∃ next, machine.step state event = some next ∧ middle next)
    (later : machine.Leads disturbs middle script after) :
    machine.Leads disturbs before (event :: script) after := by
  intro state holds drifted drifts
  obtain ⟨next, stepped, stands⟩ := answers drifted (stable.drifts drifts holds)
  exact ⟨next, stepped, later next stands⟩

/-- One script after another leads where the other leads from there. -/
theorem Leads.append (first : machine.Leads disturbs before front middle)
    (second : machine.Leads disturbs middle back after) :
    machine.Leads disturbs before (front ++ back) after :=
  fun state holds => (first state holds).append second

/-- Events in a row lead along the stages that each of them passes. -/
theorem Leads.stages (stage : Nat → State → Prop) {event : Nat → Event} {count : Nat}
    (stable : ∀ index, machine.Stable disturbs (stage index))
    (passes : ∀ index < count, ∀ state, stage index state →
      ∃ next, machine.step state (event index) = some next ∧ stage (index + 1) next) :
    machine.Leads disturbs (stage 0) ((List.range count).map event) (stage count) := by
  induction count with
  | zero => exact .nil (stable 0)
  | succ count ih =>
      rw [List.range_succ, List.map_append]
      refine (ih fun index below => passes index (Nat.lt_succ_of_lt below)).append ?_
      exact .cons (stable count) (passes count count.lt_succ_self) (.nil (stable (count + 1)))

end Reactive.Machine
