import InvertedPendulum.Link.UpdatesInFlight
import Mathlib.Data.List.Chain

namespace InvertedPendulum.Link
open Balance Safety Telemetry Wire Reactive Machine

namespace RobotControlService
variable {F σ : Type}

/-- The command of a mode write that has one byte. -/
def Event.command? : Event → Option UInt8
  | .modeWritten [command] => some command
  | _ => none

/-- These events publish the mode. -/
def Event.Publishes (event : Event) : Prop :=
  event = .connected ∨ event = .tick ∨ event.command?.isSome = true

section Supervision
variable [SafetySupervisor σ]

/-- The answer of the supervisor to a command, which is a refusal where the command is unknown. -/
def answerTo (peers : σ) (command : UInt8) : Bool × σ :=
  match Command.ofByte? command with
  | some known => known.call peers
  | none => (false, peers)

def Outcome.of (accepted : Bool) : Outcome := if accepted then .accepted else .refused

/-- The value of the mode characteristic for the supervisor's mode and cause and some report. -/
def shownMode (peers : σ) (command : UInt8) (outcome : Outcome) : List UInt8 :=
  [EnumCast.enumCast (SafetySupervisor.current peers),
    EnumCast.enumCast (SafetySupervisor.latchedCause peers), command, EnumCast.enumCast outcome]

theorem current_toList (service : RobotControlService F σ) :
    service.current.toList = shownMode service.peers service.lastCommand service.lastOutcome := rfl

/-- The state in which a mode write publishes has executed the command. -/
theorem commanded_answer (service : RobotControlService F σ) (command : UInt8) :
    (service.commanded command).peers = (answerTo service.peers command).2 ∧
      (service.commanded command).lastCommand = command ∧
      (service.commanded command).lastOutcome = .of (answerTo service.peers command).1 := by
  cases known : Command.ofByte? command with
  | none => simp only [commanded, execute, answerTo, known, Outcome.of, and_self]
  | some found => simp only [commanded, execute, answerTo, known, calling, Outcome.of, and_self]

/-- The mode is published unless an update is in flight or the last one shows it. -/
theorem publishMode_cases (service : RobotControlService F σ) :
    ((service.mode.inFlight = true ∨ service.current = service.publishedMode) ∧
        service.publishMode = service) ∨
      (service.mode.inFlight = false ∧ service.current ≠ service.publishedMode ∧
        service.publishMode = { service with
          publishedMode := service.current
          mode := { service.mode with buffer := service.current }.hand modeSize }) := by
  by_cases held : service.mode.inFlight = true ∨ service.current = service.publishedMode
  · exact .inl ⟨held, if_pos held⟩
  · have free := not_or.mp held
    exact .inr ⟨Bool.eq_false_of_not_eq_true free.1, free.2, if_neg held⟩

/-- A step shows the mode when it hands an update with the current value over, which differs from what
was shown before, and otherwise hands nothing over. -/
def ShowsMode (before after : RobotControlService F σ) : Prop :=
  (after.mode.outstanding ⊆ before.mode.outstanding ∧
      after.publishedMode = before.publishedMode) ∨
    (before.mode.inFlight = false ∧ after.current ≠ before.publishedMode ∧
      after.publishedMode = after.current ∧
      after.mode = { before.mode with buffer := after.current }.hand modeSize)

/-- What is shown depends on the mode characteristic and on what was shown before alone. -/
theorem ShowsMode.from {before changed after : RobotControlService F σ}
    (shows : changed.ShowsMode after) (mode : changed.mode = before.mode)
    (publishedMode : changed.publishedMode = before.publishedMode) : before.ShowsMode after := by
  rw [ShowsMode, mode, publishedMode] at shows
  exact shows

theorem publishMode_shows (service : RobotControlService F σ) :
    service.ShowsMode service.publishMode := by
  rcases service.publishMode_cases with ⟨-, same⟩ | ⟨free, changed, published⟩
  · rw [same]
    exact .inl ⟨List.Subset.refl _, rfl⟩
  · rw [published]
    exact .inr ⟨free, changed, rfl, rfl⟩

/-- With no update in flight, publishing leaves the current value shown. -/
theorem publishMode_current (service : RobotControlService F σ)
    (free : service.mode.inFlight = false) :
    service.publishMode.publishedMode = service.publishMode.current := by
  rcases service.publishMode_cases with ⟨held, same⟩ | ⟨-, -, published⟩
  · rw [same]
    rcases held with flying | shown
    · cases flying.symm.trans free
    · exact shown.symm
  · rw [published]
    rfl

end Supervision

section Events
variable [SafetySupervisor σ] [OperatedControl σ F] [TelemetrySource σ F] [FloatBits F]
  [FloatImage F] {service after : RobotControlService F σ} {event : Event}

omit [SafetySupervisor σ] [OperatedControl σ F] [TelemetrySource σ F] [FloatBits F]
  [FloatImage F] in
/-- A mode write of any other size has no command. -/
theorem Event.uncommanded {data : List UInt8} (other : data.length ≠ 1) :
    (Event.modeWritten data).command? = none := by
  rcases data with _ | ⟨command, _ | ⟨second, rest⟩⟩
  · rfl
  · exact absurd rfl other
  · rfl

/-- Only a mode write of one byte changes the last command and its outcome. -/
theorem perform_report (performed : service.perform event = some after) :
    after.lastCommand = event.command?.getD service.lastCommand ∧
      after.lastOutcome = (event.command?.map fun command =>
        Outcome.of (answerTo service.peers command).1).getD service.lastOutcome := by
  cases perform_performed performed with
  | connected =>
      obtain ⟨mode, publishedMode, published⟩ := publishMode_effect
        { service with ticker := some service.config.telemetryPeriod }
      rw [published]
      exact ⟨rfl, rfl⟩
  | commanded command =>
      obtain ⟨-, told, answered⟩ := service.commanded_answer command
      obtain ⟨mode, publishedMode, published⟩ := publishMode_effect (service.commanded command)
      rw [published]
      exact ⟨told, answered⟩
  | uncommanded data other =>
      rw [Event.uncommanded other]
      exact ⟨rfl, rfl⟩
  | unsampled | sampled =>
      obtain ⟨mode, publishedMode, published⟩ := publishMode_effect service
      rw [published]
      exact ⟨rfl, rfl⟩
  | completed group serial completed =>
      obtain ⟨mode, telemetryValue, tuning, rfl⟩ := complete_effect completed
      exact ⟨rfl, rfl⟩
  | disconnected | attMtuChanged | moved | untuned | tuned => exact ⟨rfl, rfl⟩

omit [SafetySupervisor σ] [OperatedControl σ F] [TelemetrySource σ F] [FloatBits F]
  [FloatImage F] in
/-- A completion leaves at most the updates that were outstanding. -/
theorem complete_subset {group : Group} {serial : Nat}
    (completed : service.complete group serial = some after) :
    after.mode.outstanding ⊆ service.mode.outstanding := by
  cases group with
  | mode =>
      obtain ⟨mode, own, rfl⟩ := Option.map_eq_some_iff.mp completed
      unfold Channel.complete at own
      obtain ⟨-, same⟩ := Option.ite_none_right_eq_some.mp own
      obtain rfl := Option.some.inj same
      exact List.filter_subset_self _
  | telemetry | tuning =>
      obtain ⟨_, -, rfl⟩ := Option.map_eq_some_iff.mp completed
      exact List.Subset.refl _

/-- Every event but a disconnection shows the mode. -/
theorem perform_shows (linked : event ≠ .disconnected)
    (performed : service.perform event = some after) : service.ShowsMode after := by
  cases perform_performed performed with
  | disconnected => exact absurd rfl linked
  | connected =>
      exact publishMode_shows { service with ticker := some service.config.telemetryPeriod }
  | commanded command =>
      obtain ⟨peers, calls, lastOutcome, commanded⟩ := service.commanded_effect command
      exact (publishMode_shows (service.commanded command)).from (by rw [commanded])
        (by rw [commanded])
  | unsampled | sampled => exact service.publishMode_shows
  | completed group serial completed =>
      have subset := complete_subset completed
      obtain ⟨mode, telemetryValue, tuning, rfl⟩ := complete_effect completed
      exact .inl ⟨subset, rfl⟩
  | attMtuChanged | moved | uncommanded | untuned | tuned =>
      exact .inl ⟨List.Subset.refl _, rfl⟩

/-- A publishing event that finds no mode update in flight leaves the current value shown. -/
theorem perform_current (performed : service.perform event = some after)
    (publishes : event.Publishes) (free : service.mode.inFlight = false) :
    after.publishedMode = after.current := by
  cases perform_performed performed with
  | connected =>
      exact publishMode_current { service with ticker := some service.config.telemetryPeriod } free
  | commanded command =>
      obtain ⟨peers, calls, lastOutcome, commanded⟩ := service.commanded_effect command
      exact publishMode_current _ (by rw [commanded]; exact free)
  | unsampled | sampled => exact service.publishMode_current free
  | uncommanded data other =>
      unfold Event.Publishes at publishes
      rw [Event.uncommanded other] at publishes
      simp at publishes
  | disconnected | attMtuChanged | moved | untuned | tuned | completed =>
      simp [Event.Publishes, Event.command?] at publishes

/-- An observer of the mode characteristic knows the values that it was handed since the last
disconnection, and the last command with its outcome. -/
structure ModeHistory where
  shown : List (List UInt8)
  lastCommand : UInt8
  lastOutcome : Outcome

def ModeHistory.initial : ModeHistory := ⟨[], 0, .none⟩

def modeHistory (history : ModeHistory) (before : RobotControlService F σ) (event : σ × Event)
    (after : RobotControlService F σ) : ModeHistory where
  shown :=
    match event.2 with
    | .disconnected => []
    | _ => history.shown ++ before.mode.newly after.mode
  lastCommand := event.2.command?.getD history.lastCommand
  lastOutcome := (event.2.command?.map fun command =>
    Outcome.of (answerTo event.1 command).1).getD history.lastOutcome

/-- What the service takes for published is the last value handed over since the last disconnection,
and no value was handed over twice in a row. -/
structure Shadowed (service : RobotControlService F σ) (history : ModeHistory) : Prop where
  numbered : service.mode.Numbered
  last : history.shown.getLast? =
    if service.publishedMode = unpublished then none else some service.publishedMode.toList
  distinct : history.shown.IsChain (· ≠ ·)
  command : service.lastCommand = history.lastCommand
  outcome : service.lastOutcome = history.lastOutcome

omit [SafetySupervisor σ] [OperatedControl σ F] [TelemetrySource σ F] [FloatBits F]
  [FloatImage F] in
theorem shadowed_initial (peers : σ) (config : Config) :
    Shadowed (construct (F := F) peers config) .initial where
  numbered := Channel.numbered_idle _
  last := rfl
  distinct := List.isChain_nil
  command := rfl
  outcome := rfl

/-- Every step keeps the shadow true. -/
theorem shadowed_step {next : RobotControlService F σ} {history later : ModeHistory}
    {event : σ × Event} (shadowed : Shadowed service history)
    (both : (machine.observed modeHistory).step (service, history) event = some (next, later)) :
    Shadowed next later := by
  obtain ⟨peers, event⟩ := event
  obtain ⟨stepped, rfl⟩ := observed_step.mp both
  have performed : (service.attend peers).perform event = some next := stepped
  obtain ⟨told, answered⟩ := perform_report performed
  have command : next.lastCommand = event.command?.getD history.lastCommand := by
    rw [← shadowed.command]
    exact told
  have outcome : next.lastOutcome = (event.command?.map fun command =>
      Outcome.of (answerTo peers command).1).getD history.lastOutcome := by
    rw [← shadowed.outcome]
    exact answered
  by_cases left : event = .disconnected
  · subst left
    obtain rfl := Option.some.inj stepped
    exact ⟨shadowed.numbered.abandon, rfl, List.isChain_nil, command, outcome⟩
  · have evolution := perform_evolution left performed
    have numbered : next.mode.Numbered := shadowed.numbered.evolves evolution.mode
    have shown : (modeHistory history service (peers, event) next).shown =
        history.shown ++ service.mode.newly next.mode := by
      unfold modeHistory
      split
      · rename_i gone
        exact absurd gone left
      · rfl
    rcases perform_shows left performed with ⟨subset, same⟩ | ⟨free, changed, published, handed⟩
    · have nothing : service.mode.newly next.mode = [] := shadowed.numbered.newly_subset subset
      rw [nothing, List.append_nil] at shown
      have same : next.publishedMode = service.publishedMode := same
      exact ⟨numbered, by rw [shown, same, shadowed.last], by rw [shown]; exact shadowed.distinct,
        command, outcome⟩
    · have one : service.mode.newly next.mode = [next.current.toList] := by
        have whole : next.current.toList.take modeSize = next.current.toList :=
          List.take_of_length_le (Nat.le_of_eq next.current.length_toList)
        have new := shadowed.numbered.newly_hand next.current modeSize
        rw [whole] at new
        rw [handed]
        exact new
      rw [one] at shown
      have last : (modeHistory history service (peers, event) next).shown.getLast? =
          if next.publishedMode = unpublished then none else some next.publishedMode.toList := by
        rw [shown, List.getLast?_concat, published, if_neg next.current_ne_unpublished]
      have distinct : (modeHistory history service (peers, event) next).shown.IsChain (· ≠ ·) := by
        rw [shown]
        refine shadowed.distinct.append (List.isChain_singleton _) ?_
        rintro before known after new rfl
        obtain rfl := Option.some.inj new
        rw [shadowed.last] at known
        split at known
        · cases known
        · exact changed (Vector.toList_inj.mp (Option.some.inj known)).symm
      exact ⟨numbered, last, distinct, command, outcome⟩

/-- A run keeps the shadow true. -/
theorem shadowed_run {initial : σ} {config : Config} {events : List (σ × Event)}
    {history : ModeHistory}
    (ran : (machine.observed modeHistory).run (construct initial config, .initial) events =
      some (service, history)) : Shadowed service history := by
  have kept : ∀ (pair : RobotControlService F σ × ModeHistory) event next,
      Shadowed pair.1 pair.2 → (machine.observed modeHistory).step pair event = some next →
      Shadowed next.1 next.2 := by
    rintro ⟨before, history⟩ event ⟨next, later⟩ shadowed both
    exact shadowed_step shadowed both
  exact @run_invariant _ _ _ (fun pair => Shadowed pair.1 pair.2) kept _ _ _
    (shadowed_initial initial config) ran

/-- The client catches up with the mode: no value comes twice in a row, the last one after a publishing
event is current unless an update was in flight, and the completion of the update ends that. -/
structure CatchesUp (service : RobotControlService F σ) (history : ModeHistory) : Prop where
  distinct : history.shown.IsChain (· ≠ ·)
  current : ∀ (event : σ × Event) next later, event.2.Publishes → service.mode.inFlight = false →
    (machine.observed modeHistory).step (service, history) event = some (next, later) →
    later.shown.getLast? = some (shownMode next.peers later.lastCommand later.lastOutcome)
  completed : ∀ (peers : σ) serial next,
    machine.step service (peers, .completed .mode serial) = some next → next.mode.inFlight = false
  idle : service.mode.outstanding = [] → service.mode.inFlight = false

/-- In every run, whatever happens to the mode and its cause, the client catches up with it. -/
theorem mode_caught_up {initial : σ} {config : Config} {events : List (σ × Event)}
    {history : ModeHistory}
    (ran : (machine.observed modeHistory).run (construct initial config, .initial) events =
      some (service, history)) : CatchesUp service history where
  distinct := (shadowed_run ran).distinct
  current := by
    intro event next later publishes free both
    have shadowed := shadowed_step (shadowed_run ran) both
    obtain ⟨stepped, -⟩ := observed_step.mp both
    have performed : (service.attend event.1).perform event.2 = some next := stepped
    have published : next.publishedMode = next.current := perform_current performed publishes free
    rw [shadowed.last, published, if_neg next.current_ne_unpublished, current_toList,
      shadowed.command, shadowed.outcome]
  completed := by
    intro peers serial next stepped
    obtain ⟨mode, own, rfl⟩ := Option.map_eq_some_iff.mp stepped
    obtain ⟨-, same⟩ := Option.ite_none_right_eq_some.mp own
    obtain rfl := Option.some.inj same
    rfl
  idle := by
    intro empty
    rw [Bool.eq_false_iff]
    intro flying
    exact (shadowed_run ran).numbered.flagged flying empty

omit [OperatedControl σ F] [TelemetrySource σ F] [FloatBits F] [FloatImage F] in
/-- The last value handed over is the current one exactly when it is taken for published. -/
theorem Shadowed.last_iff {history : ModeHistory} (shadowed : Shadowed service history)
    (shown : RobotControlService F σ) :
    history.shown.getLast? = some shown.current.toList ↔ shown.current = service.publishedMode := by
  rw [shadowed.last]
  constructor
  · intro last
    split at last
    · cases last
    · exact (Vector.toList_inj.mp (Option.some.inj last)).symm
  · intro same
    rw [← same, if_neg shown.current_ne_unpublished]

omit [OperatedControl σ F] [TelemetrySource σ F] [FloatBits F] [FloatImage F] in
/-- What a client is to be told after a command. -/
def report (peers : σ) (command : UInt8) : List UInt8 :=
  shownMode (answerTo peers command).2 command (.of (answerTo peers command).1)

omit [SafetySupervisor σ] [OperatedControl σ F] [TelemetrySource σ F] [FloatBits F]
  [FloatImage F] in
/-- The mode characteristic was handed one update, with these bytes. -/
def HandsMode (before after : RobotControlService F σ) (bytes : List UInt8) : Prop :=
  after.mode.handed = before.mode.handed + 1 ∧
    after.mode.outstanding = before.mode.outstanding ++ [⟨before.mode.handed, bytes⟩]

/-- With no mode update in flight, the outcome of a command is reported exactly when the last update
since the last disconnection did not carry the same mode, cause, command and outcome. -/
theorem outcome_reported_iff {initial : σ} {config : Config} {events : List (σ × Event)}
    {history : ModeHistory}
    (ran : (machine.observed modeHistory).run (construct initial config, .initial) events =
      some (service, history)) (free : service.mode.inFlight = false) (peers : σ)
    (command : UInt8) :
    ∃ next, machine.step service (peers, .modeWritten [command]) = some next ∧
      (service.HandsMode next (report peers command) ↔
        history.shown.getLast? ≠ some (report peers command)) := by
  let attended := service.attend peers
  let executed := attended.commanded command
  obtain ⟨peers', told, answered⟩ := attended.commanded_answer command
  have value : executed.current.toList = report peers command := by
    rw [current_toList, peers', told, answered]
    rfl
  obtain ⟨_, _, _, effect⟩ := attended.commanded_effect command
  have mode : executed.mode = service.mode := by rw [show executed = _ from effect]; rfl
  have publishedMode : executed.publishedMode = service.publishedMode := by
    rw [show executed = _ from effect]
    rfl
  have last := (shadowed_run ran).last_iff executed
  rw [value] at last
  refine ⟨executed.publishMode, rfl, ?_⟩
  rcases executed.publishMode_cases with ⟨held, same⟩ | ⟨-, changed, published⟩
  · have shown : executed.current = service.publishedMode := by
      rcases held with flying | shown
      · rw [mode, free] at flying
        cases flying
      · rw [shown, publishedMode]
    have silent : ¬ service.HandsMode executed.publishMode (report peers command) := by
      intro hands
      have counted := hands.1
      rw [same, mode] at counted
      omega
    exact iff_of_false silent (not_not.mpr (last.mpr shown))
  · have new : history.shown.getLast? ≠ some (report peers command) := by
      intro shown
      exact changed ((last.mp shown).trans publishedMode.symm)
    have hands : service.HandsMode executed.publishMode (report peers command) := by
      have whole : executed.current.toList.take modeSize = report peers command := by
        rw [List.take_of_length_le (Nat.le_of_eq executed.current.length_toList), value]
      rw [published, HandsMode, ← mode, ← whole]
      exact ⟨rfl, rfl⟩
    exact iff_of_true hands new

end Events

/-- A client of the firmware connects and is refused arming. -/
def refusedArm {τ : Type} (firmware : τ) : List (τ × Event) :=
  [(firmware, .connected), (firmware, .completed .mode 0), (firmware, .modeWritten [1]),
    (firmware, .completed .mode 1)]

/-- The firmware refuses arming again, and the client is not told. -/
theorem repeated_refusal_unreported : ∃ firmware service history,
    Application.Firmware.powered = some firmware ∧
    (machine.observed modeHistory).run (construct firmware .default, .initial)
      (refusedArm firmware) = some (service, history) ∧
    service.ticker.isSome = true ∧ service.mode.inFlight = false ∧
    ∃ next, machine.step service (firmware, .modeWritten [1]) = some next ∧
      ¬ service.HandsMode next (report firmware 1) := by
  have evaluated : ((Application.Firmware.powered.bind fun firmware =>
      ((machine.observed modeHistory).run (construct firmware .default, .initial)
        (refusedArm firmware)).bind fun pair =>
          (machine.step pair.1 (firmware, .modeWritten [1])).map fun next => (pair.1, next)).any
      fun both => both.1.ticker.isSome ∧ both.1.mode.inFlight = false ∧
        both.2.mode.handed = both.1.mode.handed) = true := by
    decide +kernel
  obtain ⟨both, ran, ends⟩ := (Option.any_eq_true _ _).mp evaluated
  obtain ⟨firmware, powered, ran⟩ := Option.bind_eq_some_iff.mp ran
  obtain ⟨⟨service, history⟩, reached, moved⟩ := Option.bind_eq_some_iff.mp ran
  obtain ⟨next, stepped, rfl⟩ := Option.map_eq_some_iff.mp moved
  obtain ⟨ticking, free, silent⟩ := of_decide_eq_true ends
  have unreported : ¬ service.HandsMode next (report firmware 1) := by
    intro hands
    exact Nat.succ_ne_self _ (hands.1.symm.trans silent)
  exact ⟨firmware, service, history, powered, reached, ticking, free, next, stepped, unreported⟩

/-- After a reported refusal the same command is not reported again, and another one is. -/
theorem outcome_reported_iff_refused : ∃ firmware service history,
    Application.Firmware.powered = some firmware ∧
    (machine.observed modeHistory).run (construct firmware .default, .initial)
      (refusedArm firmware) = some (service, history) ∧
    service.ticker.isSome = true ∧ service.mode.inFlight = false ∧
    (∃ next, machine.step service (firmware, .modeWritten [1]) = some next ∧
      ¬ service.HandsMode next (report firmware 1)) ∧
    ∃ next, machine.step service (firmware, .modeWritten [2]) = some next ∧
      service.HandsMode next (report firmware 2) := by
  have evaluated : ((Application.Firmware.powered.bind fun firmware =>
      ((machine.observed modeHistory).run (construct firmware .default, .initial)
        (refusedArm firmware)).map fun pair => (firmware, pair)).any fun told =>
      told.2.1.ticker.isSome ∧ told.2.1.mode.inFlight = false ∧
        told.2.2.shown.getLast? = some (report told.1 1) ∧
        told.2.2.shown.getLast? ≠ some (report told.1 2)) = true := by
    decide +kernel
  obtain ⟨_, found, ends⟩ := (Option.any_eq_true _ _).mp evaluated
  obtain ⟨firmware, powered, found⟩ := Option.bind_eq_some_iff.mp found
  obtain ⟨⟨service, history⟩, ran, rfl⟩ := Option.map_eq_some_iff.mp found
  obtain ⟨ticking, free, shown, unshown⟩ := of_decide_eq_true ends
  obtain ⟨again, repeated, silent⟩ := outcome_reported_iff ran free firmware 1
  obtain ⟨other, changed, told⟩ := outcome_reported_iff ran free firmware 2
  refine ⟨firmware, service, history, powered, ran, ticking, free, ?_, ?_⟩
  · exact ⟨again, repeated, fun hands => silent.mp hands shown⟩
  · exact ⟨other, changed, told.mpr unshown⟩

/-- The self test of the firmware misses its deadline. -/
def lapsed {S τ : Type} [FloatArithmetic F] [FloatRounding F] [ControlStrategy S F]
    [Sensing.InertialSensing τ] (firmware : Application.Firmware F S τ) :
    Option (Application.Firmware F S τ) :=
  Application.Firmware.machine.step firmware
    (⟨milliseconds 10000, ⟨0, 0⟩, firmware.supervisor.peers.sensing⟩, .supervise)

/-- A client connects and gets the mode; the fault is latched, and arming is refused and reported. -/
def faultReported {τ : Type} (firmware faulted : τ) : List (τ × Event) :=
  [(firmware, .connected), (firmware, .completed .mode 0), (faulted, .modeWritten [1]),
    (faulted, .completed .mode 1), (faulted, .tick)]

/-- The client has caught up with the fault, and nothing is in flight. -/
theorem mode_caught_up_faulted : ∃ firmware faulted service history,
    Application.Firmware.powered = some firmware ∧ lapsed firmware = some faulted ∧
    (machine.observed modeHistory).run (construct firmware .default, .initial)
      (faultReported firmware faulted) = some (service, history) ∧
    service.mode.inFlight = false ∧ history.shown = [[0, 0, 0, 0], [4, 5, 1, 2]] ∧
    CatchesUp service history := by
  have evaluated : ((Application.Firmware.powered.bind fun firmware =>
      (lapsed firmware).bind fun faulted =>
        (machine.observed modeHistory).run (construct firmware .default, .initial)
          (faultReported firmware faulted)).any fun told =>
      told.1.mode.inFlight = false ∧ told.2.shown = [[0, 0, 0, 0], [4, 5, 1, 2]]) = true := by
    decide +kernel
  obtain ⟨⟨service, history⟩, ran, ends⟩ := (Option.any_eq_true _ _).mp evaluated
  obtain ⟨firmware, powered, ran⟩ := Option.bind_eq_some_iff.mp ran
  obtain ⟨faulted, lapsed, ran⟩ := Option.bind_eq_some_iff.mp ran
  obtain ⟨free, shown⟩ := of_decide_eq_true ends
  exact ⟨firmware, faulted, service, history, powered, lapsed, ran, free, shown,
    mode_caught_up ran⟩

end RobotControlService
end InvertedPendulum.Link
