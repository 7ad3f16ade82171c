import InvertedPendulum.Motion.MotionActuation
import InvertedPendulum.Reactive.Machine
import Mathlib.Data.Rat.Floor

namespace InvertedPendulum.Motion
open Platform Reactive

/-- These inputs reach the actuation, from its users and from the driver. -/
inductive ActuationInput (F : Type) where
  | apply (effortLeft effortRight : F)
  | disable (disableState : DisableState)
  | clearFault
  | driverFault
  | configured (verified : Bool)

/-- An input that may drive the bridges is an apply or a brake. -/
def ActuationInput.Drives {F : Type} : ActuationInput F → Prop
  | .apply _ _ => True
  | .disable disableState => disableState = .brake
  | _ => False

/-- The driver configuration still owes the actuation an answer, or has given its only one. -/
structure ConfiguredActuation where
  actuation : MotionActuationImpl
  outstanding : Bool

namespace ConfiguredActuation

def construct (fullScale : DutyCycle) (decay : Decay) : ConfiguredActuation where
  actuation := .construct fullScale decay
  outstanding := true

/-- An input lists its own calls of the motor driver. -/
def begin (gate : ConfiguredActuation) : MotionActuationImpl :=
  { gate.actuation with motors := { gate.actuation.motors with calls := [] } }

/-- The actuation answers every input, and takes one answer of the driver configuration. -/
def accept {F : Type} [FloatArithmetic F] [FloatRounding F] (gate : ConfiguredActuation) :
    ActuationInput F → Option ConfiguredActuation
  | .apply effortLeft effortRight =>
      some { gate with actuation := gate.begin.apply effortLeft effortRight }
  | .disable disableState => some { gate with actuation := gate.begin.disable disableState }
  | .clearFault => some { gate with actuation := gate.begin.clearFault }
  | .driverFault => some { gate with actuation := gate.begin.onFault }
  | .configured verified =>
      if gate.outstanding then some ⟨gate.begin.onConfigured verified, false⟩ else none

def machine {F : Type} [FloatArithmetic F] [FloatRounding F] :
    Machine ConfiguredActuation (ActuationInput F) where
  step := accept

/-- The last call of the motor driver released both bridges. -/
def BridgesReleased (gate : ConfiguredActuation) : Prop :=
  gate.actuation.motors.last.left = releasedInputs ∧
    gate.actuation.motors.last.right = releasedInputs

/-- The driver is not ready, or a fault is latched. -/
def Refused (gate : ConfiguredActuation) : Prop :=
  gate.actuation.state ≠ .ready ∨ gate.actuation.fault ≠ .none

theorem refused_iff {gate : ConfiguredActuation} :
    gate.Refused ↔ gate.actuation.drivePermitted = false := by
  rw [← Bool.not_eq_true, MotionActuationImpl.drivePermitted_iff, not_and_or]
  rfl

/-- An input finds the gate open when its drive is permitted. -/
theorem opened {gate : ConfiguredActuation} (permitted : gate.actuation.drivePermitted = true) :
    ¬ gate.Refused := by
  rw [refused_iff, permitted]
  exact Bool.noConfusion

/-- A refused drive rests released, and an unanswered configuration is under way. -/
structure Guarded (gate : ConfiguredActuation) : Prop where
  released : gate.Refused → gate.BridgesReleased
  configuring : gate.outstanding = true → gate.actuation.state = .configuring

theorem construct_guarded (fullScale : DutyCycle) (decay : Decay) :
    (construct fullScale decay).Guarded where
  released _ := ⟨rfl, rfl⟩
  configuring _ := rfl

/-- An input leaves the bridges alone, releases them, or drives them through the open gate. -/
inductive Effect (before after : ConfiguredActuation) : Prop where
  | quiet (last : after.actuation.motors.last = before.actuation.motors.last)
      (uncalled : after.actuation.motors.calls = []) (kept : after.Refused → before.Refused)
  | released (last : after.actuation.motors.last = MotionActuationImpl.released)
      (called : after.actuation.motors.calls = [MotionActuationImpl.released])
      (closed : ¬ after.Refused → ¬ before.Refused)
  | driven (opened : ¬ before.Refused) (stayed : ¬ after.Refused)

section Steps
variable {F : Type} [FloatArithmetic F] [FloatRounding F]

/-- Every input of a guarded actuation has one of the three effects. -/
theorem Guarded.effect {gate next : ConfiguredActuation} {input : ActuationInput F}
    (guarded : gate.Guarded) (accepted : gate.accept input = some next) : gate.Effect next := by
  cases input with
  | apply effortLeft effortRight =>
      obtain rfl := Option.some.inj accepted
      rcases gate.begin.apply_cases effortLeft effortRight with ⟨same, refused⟩ | ⟨drove, permitted⟩
      · have uncalled : (gate.begin.apply effortLeft effortRight).motors.calls = [] := by
          rw [same]
          rfl
        refine .quiet ?_ uncalled ?_
        · exact congrArg (fun actuation => actuation.motors.last) same
        · exact fun _ => refused_iff.mpr refused
      · refine .driven (opened permitted) (opened ?_)
        change (gate.begin.apply effortLeft effortRight).drivePermitted = true
        rw [drove]
        exact permitted
  | disable disableState =>
      obtain rfl := Option.some.inj accepted
      rcases gate.begin.disable_cases disableState with released | ⟨braked, -, permitted⟩
      · simp only [released]
        exact .released rfl rfl id
      · refine .driven (opened permitted) (opened ?_)
        change (gate.begin.disable disableState).drivePermitted = true
        rw [braked]
        exact permitted
  | clearFault =>
      obtain rfl := Option.some.inj accepted
      refine .quiet rfl rfl ?_
      rintro (unready | faulted)
      · exact .inl unready
      · exact absurd rfl faulted
  | driverFault =>
      obtain rfl := Option.some.inj accepted
      refine .released rfl rfl ?_
      intro permitted
      refine absurd (.inr ?_) permitted
      intro cleared
      cases cleared
  | configured verified =>
      simp only [accept] at accepted
      split at accepted
      · rename_i outstanding
        obtain rfl := Option.some.inj accepted
        refine .quiet rfl rfl fun _ => .inl ?_
        rw [guarded.configuring outstanding]
        exact DriverState.noConfusion
      · cases accepted

/-- The driver state changes with the answer of the configuration alone. -/
theorem accept_state {gate next : ConfiguredActuation} {input : ActuationInput F}
    (accepted : gate.accept input = some next) :
    next.actuation.state = gate.actuation.state ∧ next.outstanding = gate.outstanding ∨
      gate.outstanding = true ∧ next.outstanding = false := by
  cases input with
  | apply effortLeft effortRight =>
      obtain rfl := Option.some.inj accepted
      refine .inl ⟨?_, rfl⟩
      change (gate.begin.apply effortLeft effortRight).state = gate.begin.state
      rcases gate.begin.apply_cases effortLeft effortRight with ⟨same, -⟩ | ⟨drove, -⟩
      · rw [same]
      · rw [drove]
        rfl
  | disable disableState =>
      obtain rfl := Option.some.inj accepted
      refine .inl ⟨?_, rfl⟩
      change (gate.begin.disable disableState).state = gate.begin.state
      rcases gate.begin.disable_cases disableState with released | ⟨braked, -⟩
      · rw [released]
        rfl
      · rw [braked]
        rfl
  | clearFault | driverFault =>
      obtain rfl := Option.some.inj accepted
      exact .inl ⟨rfl, rfl⟩
  | configured verified =>
      simp only [accept] at accepted
      split at accepted
      · rename_i outstanding
        obtain rfl := Option.some.inj accepted
        exact .inr ⟨outstanding, rfl⟩
      · cases accepted

theorem guarded_kept (gate : ConfiguredActuation) (input : ActuationInput F)
    (next : ConfiguredActuation) (guarded : gate.Guarded)
    (accepted : machine.step gate input = some next) : next.Guarded where
  released refused := by
    cases guarded.effect accepted with
    | quiet last _ kept =>
        unfold BridgesReleased
        rw [last]
        exact guarded.released (kept refused)
    | released last _ _ =>
        unfold BridgesReleased
        rw [last]
        exact ⟨rfl, rfl⟩
    | driven _ after => exact absurd refused after
  configuring unanswered := by
    rcases accept_state accepted with ⟨state, outstanding⟩ | ⟨-, answered⟩
    · exact state.trans (guarded.configuring (outstanding.symm.trans unanswered))
    · rw [answered] at unanswered
      cases unanswered

/-- Every actuation that a run reaches is guarded. -/
theorem reachable_guarded {fullScale : DutyCycle} {decay : Decay} {gate : ConfiguredActuation}
    (reached : (machine (F := F)).Reachable (construct fullScale decay) gate) : gate.Guarded :=
  reached.invariant guarded_kept (construct_guarded fullScale decay)

/-- An input that is no apply and no brake leaves released bridges released. -/
theorem released_kept {gate next : ConfiguredActuation} {input : ActuationInput F}
    (accepted : gate.accept input = some next) (idle : ¬ input.Drives)
    (released : gate.BridgesReleased) : next.BridgesReleased := by
  cases input with
  | apply _ _ => exact absurd trivial idle
  | disable disableState =>
      obtain rfl := Option.some.inj accepted
      rcases gate.begin.disable_cases disableState with same | ⟨-, brake, -⟩
      · simp only [BridgesReleased, same]
        exact ⟨rfl, rfl⟩
      · exact absurd brake idle
  | clearFault =>
      obtain rfl := Option.some.inj accepted
      exact released
  | driverFault =>
      obtain rfl := Option.some.inj accepted
      exact ⟨rfl, rfl⟩
  | configured verified =>
      simp only [accept] at accepted
      split at accepted
      · obtain rfl := Option.some.inj accepted
        exact released
      · cases accepted

/-- Released bridges stay released until the next apply or brake. -/
theorem released_run {gate final : ConfiguredActuation} {inputs : List (ActuationInput F)}
    (idle : ∀ input ∈ inputs, ¬ input.Drives) (ran : machine.run gate inputs = some final)
    (released : gate.BridgesReleased) : final.BridgesReleased := by
  induction inputs generalizing gate with
  | nil =>
      obtain rfl := Option.some.inj ran
      exact released
  | cons input rest ih =>
      obtain ⟨next, accepted, ran⟩ := Machine.run_cons.mp ran
      have first := idle input List.mem_cons_self
      have later : ∀ input ∈ rest, ¬ input.Drives :=
        fun input listed => idle input (List.mem_cons_of_mem _ listed)
      exact ih later ran (released_kept accepted first released)

/-- A failed driver stays failed, and its bridges are released at most. -/
theorem Guarded.failed {gate next : ConfiguredActuation} {input : ActuationInput F}
    (guarded : gate.Guarded) (failed : gate.actuation.state = .failed)
    (accepted : gate.accept input = some next) :
    next.actuation.state = .failed ∧
      ∀ call ∈ next.actuation.motors.calls, call = MotionActuationImpl.released := by
  have answered : gate.outstanding = false := by
    rw [← Bool.not_eq_true]
    intro outstanding
    have configuring := guarded.configuring outstanding
    rw [failed] at configuring
    cases configuring
  have state : next.actuation.state = .failed := by
    rcases accept_state accepted with ⟨state, -⟩ | ⟨outstanding, -⟩
    · exact state.trans failed
    · rw [answered] at outstanding
      cases outstanding
  refine ⟨state, ?_⟩
  intro call listed
  cases guarded.effect accepted with
  | quiet _ uncalled _ =>
      rw [uncalled] at listed
      cases listed
  | released _ called _ =>
      rw [called] at listed
      exact List.mem_singleton.mp listed
  | driven before _ =>
      refine absurd (.inl ?_) before
      rw [failed]
      exact DriverState.noConfusion

/-- A tristate releases the bridges in every state. -/
theorem accept_tristate (gate : ConfiguredActuation) :
    ∃ next, gate.accept (.disable .tristate : ActuationInput F) = some next ∧
      next.actuation.motors.calls = [MotionActuationImpl.released] ∧ next.BridgesReleased := by
  have released : gate.begin.disable .tristate = gate.begin.releaseBridges := by
    rcases gate.begin.disable_cases .tristate with same | ⟨-, brake, -⟩
    · exact same
    · cases brake
  refine ⟨_, rfl, ?_⟩
  simp only [released]
  exact ⟨rfl, rfl, rfl⟩

/-- Permission comes without a call of the motor driver. -/
theorem Guarded.permission {gate next : ConfiguredActuation} {input : ActuationInput F}
    (guarded : gate.Guarded) (accepted : gate.accept input = some next) (before : gate.Refused)
    (after : ¬ next.Refused) : next.actuation.motors.calls = [] ∧ next.BridgesReleased := by
  cases guarded.effect accepted with
  | quiet last uncalled _ =>
      refine ⟨uncalled, ?_⟩
      unfold BridgesReleased
      rw [last]
      exact guarded.released before
  | released _ _ closed => exact absurd before (closed after)
  | driven opened _ => exact absurd before opened

/-- A failed driver stays failed in every run. -/
theorem Guarded.failed_run {gate final : ConfiguredActuation} {inputs : List (ActuationInput F)}
    (guarded : gate.Guarded) (failed : gate.actuation.state = .failed)
    (ran : machine.run gate inputs = some final) :
    final.Guarded ∧ final.actuation.state = .failed := by
  have kept (gate : ConfiguredActuation) (input : ActuationInput F) (next : ConfiguredActuation)
      (before : gate.Guarded ∧ gate.actuation.state = .failed)
      (accepted : machine.step gate input = some next) :
      next.Guarded ∧ next.actuation.state = .failed := by
    obtain ⟨guarded, failed⟩ := before
    exact ⟨guarded_kept gate input next guarded accepted, (guarded.failed failed accepted).1⟩
  exact Machine.run_invariant kept ⟨guarded, failed⟩ ran

/-- In every reachable state the bridges are released while the drive is not permitted. Permission
comes without a drive call and the bridges wait for the next apply or brake. A tristate always
releases, and a failed driver sees releases alone. -/
theorem bridges_released_unless_permitted {fullScale : DutyCycle} {decay : Decay}
    {gate : ConfiguredActuation}
    (reached : (machine (F := F)).Reachable (construct fullScale decay) gate) :
    (gate.Refused → gate.BridgesReleased) ∧
      (∀ (input : ActuationInput F) next, gate.accept input = some next →
        gate.Refused → ¬ next.Refused → next.actuation.motors.calls = [] ∧
          ∀ (inputs : List (ActuationInput F)) final, (∀ idle ∈ inputs, ¬ idle.Drives) →
            machine.run next inputs = some final → final.BridgesReleased) ∧
      (∃ next, gate.accept (.disable .tristate : ActuationInput F) = some next ∧
        next.actuation.motors.calls = [MotionActuationImpl.released] ∧ next.BridgesReleased) ∧
      (gate.actuation.state = .failed →
        ∀ (inputs : List (ActuationInput F)) middle, machine.run gate inputs = some middle →
          ∀ (input : ActuationInput F) next, middle.accept input = some next →
            ∀ call ∈ next.actuation.motors.calls, call = MotionActuationImpl.released) := by
  have guarded := reachable_guarded reached
  refine ⟨guarded.released, ?_, gate.accept_tristate, ?_⟩
  · intro input next accepted before after
    obtain ⟨uncalled, released⟩ := guarded.permission accepted before after
    exact ⟨uncalled, fun _ _ idle ran => released_run idle ran released⟩
  · intro failed inputs middle ran input next accepted
    obtain ⟨guarded, failed⟩ := guarded.failed_run failed ran
    exact (guarded.failed failed accepted).2

end Steps

/-- A fault is latched, the configuration is verified, and the fault is cleared: the drive is
permitted and the bridges are still released. -/
theorem bridges_released_after_clearing : ∃ gate next : ConfiguredActuation,
    gate.accept (.clearFault : ActuationInput ℚ) = some next ∧ gate.Refused ∧ ¬ next.Refused ∧
      next.BridgesReleased := by
  let start := construct 1000 .slow
  let gate : ConfiguredActuation :=
    ⟨⟨1000, .slow, ⟨MotionActuationImpl.released, []⟩, .driverFault, .ready⟩, false⟩
  have reached : (machine (F := ℚ)).Reachable start gate :=
    ⟨[.driverFault, .configured true], rfl⟩
  have refused : gate.Refused := refused_iff.mpr rfl
  refine ⟨gate, ⟨gate.begin.clearFault, false⟩, rfl, refused, opened rfl, ?_⟩
  obtain ⟨-, waits, -⟩ := bridges_released_unless_permitted reached
  obtain ⟨-, idle⟩ := waits .clearFault _ rfl refused (opened rfl)
  exact idle [] _ (fun _ listed => by cases listed) rfl

end ConfiguredActuation
end InvertedPendulum.Motion
