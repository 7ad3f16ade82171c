import InvertedPendulum.Link.TuningProtocol

namespace InvertedPendulum.Link
open Balance Safety Telemetry Wire Reactive Machine

namespace RobotControlService
variable {F σ : Type}

/-- The update of a characteristic that an event completes. -/
def Event.completes (group : Group) : Event → Option Nat
  | .completed other serial => if other = group then some serial else none
  | _ => none

/-- The number of updates handed to a characteristic. -/
def handedTo (service : RobotControlService F σ) : Group → Nat
  | .mode => service.mode.handed
  | .telemetry => service.telemetryValue.handed
  | .tuning => service.tuning.handed

/-- A characteristic still reads an update from before a boundary. -/
def StaleAt (service : RobotControlService F σ) (boundary : Nat) : Group → Prop
  | .mode => service.mode.Stale boundary
  | .telemetry => service.telemetryValue.Stale boundary
  | .tuning => service.tuning.Stale boundary

def TrackedAt (service : RobotControlService F σ) (boundary : Nat) : Group → Prop
  | .mode => service.mode.Tracked boundary
  | .telemetry => service.telemetryValue.Tracked boundary
  | .tuning => service.tuning.Tracked boundary

/-- What a characteristic reads is left alone until it completes. -/
def RespectsAt (before after : RobotControlService F σ) (completed : Option Nat) : Group → Prop
  | .mode => before.mode.Respects after.mode completed
  | .telemetry => before.telemetryValue.Respects after.telemetryValue completed
  | .tuning => before.tuning.Respects after.tuning completed

/-- These events compose an update of a characteristic. -/
def Composes (service : RobotControlService F σ) : Group → Event → Prop
  | .mode, .connected => True
  | .mode, .tick => service.ticker.isSome = true
  | .mode, .modeWritten data => data.length = 1
  | .telemetry, .tick => service.ticker.isSome = true ∧ service.fits telemetrySize = true
  | .tuning, .tuningWritten _ => True
  | _, _ => False

/-- An event lets every characteristic evolve, and shows the mode only in an update. -/
structure Evolution (before after : RobotControlService F σ) (completed : Group → Option Nat) :
    Prop where
  mode : before.mode.Evolves after.mode (completed .mode)
  telemetryValue : before.telemetryValue.Evolves after.telemetryValue (completed .telemetry)
  tuning : before.tuning.Evolves after.tuning (completed .tuning)
  shown : after.mode.handed = before.mode.handed → after.publishedMode = before.publishedMode

/-- An operation that touches no characteristic lets each be kept. -/
theorem Evolution.kept {before after : RobotControlService F σ} (mode : after.mode = before.mode)
    (telemetryValue : after.telemetryValue = before.telemetryValue)
    (tuning : after.tuning = before.tuning) (shown : after.publishedMode = before.publishedMode) :
    Evolution before after fun _ => none where
  mode := by rw [mode]; exact .kept
  telemetryValue := by rw [telemetryValue]; exact .kept
  tuning := by rw [tuning]; exact .kept
  shown _ := shown

theorem publishMode_evolution [SafetySupervisor σ] (service : RobotControlService F σ) :
    Evolution service service.publishMode fun _ => none := by
  unfold publishMode
  split
  · exact .kept rfl rfl rfl rfl
  · rename_i free
    rw [not_or, Bool.not_eq_true] at free
    exact {
      mode := .handed free.1 _ _
      telemetryValue := .kept
      tuning := .kept
      shown := fun same => absurd same (Nat.succ_ne_self _) }

/-- A change of fields that no characteristic has does not keep them from evolving. -/
theorem Evolution.from {before changed after : RobotControlService F σ}
    {completed : Group → Option Nat} (evolution : Evolution changed after completed)
    (mode : changed.mode = before.mode) (telemetryValue : changed.telemetryValue = before.telemetryValue)
    (tuning : changed.tuning = before.tuning) (shown : changed.publishedMode = before.publishedMode) :
    Evolution before after completed where
  mode := by rw [← mode]; exact evolution.mode
  telemetryValue := by rw [← telemetryValue]; exact evolution.telemetryValue
  tuning := by rw [← tuning]; exact evolution.tuning
  shown := by rw [← mode, ← shown]; exact evolution.shown

section Events
variable [SafetySupervisor σ] [OperatedControl σ F] [TelemetrySource σ F] [FloatBits F]
  [FloatImage F] {service after : RobotControlService F σ} {event : Event}

/-- Every event but a disconnection lets the characteristics evolve. -/
theorem perform_evolution (linked : event ≠ .disconnected)
    (performed : service.perform event = some after) :
    Evolution service after event.completes := by
  cases perform_performed performed with
  | disconnected => exact absurd rfl linked
  | connected => exact (publishMode_evolution _).from rfl rfl rfl rfl
  | commanded command =>
      obtain ⟨peers, calls, lastOutcome, commanded⟩ := service.commanded_effect command
      have evolution := publishMode_evolution (service.commanded command)
      exact evolution.from (by rw [commanded]) (by rw [commanded]) (by rw [commanded])
        (by rw [commanded])
  | tuned data free =>
      exact {
        mode := .kept
        telemetryValue := .kept
        tuning := .handed free _ _
        shown := fun _ => rfl }
  | unsampled => exact publishMode_evolution service
  | sampled ticking free =>
      exact { publishMode_evolution service with telemetryValue := .handed free _ _ }
  | completed group serial answered =>
      cases group with
      | mode =>
          obtain ⟨mode, completed, rfl⟩ := Option.map_eq_some_iff.mp answered
          exact { mode := .completed completed, telemetryValue := .kept, tuning := .kept,
                  shown := fun _ => rfl }
      | telemetry =>
          obtain ⟨telemetryValue, completed, rfl⟩ := Option.map_eq_some_iff.mp answered
          exact { mode := .kept, telemetryValue := .completed completed, tuning := .kept,
                  shown := fun _ => rfl }
      | tuning =>
          obtain ⟨tuning, completed, rfl⟩ := Option.map_eq_some_iff.mp answered
          exact { mode := .kept, telemetryValue := .kept, tuning := .completed completed,
                  shown := fun _ => rfl }
  | attMtuChanged | moved | uncommanded | untuned => exact .kept rfl rfl rfl rfl

omit [SafetySupervisor σ] [OperatedControl σ F] [TelemetrySource σ F] [FloatBits F]
  [FloatImage F] in
theorem complete_handedTo {group : Group} {serial : Nat}
    (completed : service.complete group serial = some after) (other : Group) :
    after.handedTo other = service.handedTo other := by
  cases group with
  | mode | telemetry | tuning =>
      obtain ⟨channel, own, rfl⟩ := Option.map_eq_some_iff.mp completed
      cases other <;> first | exact Channel.complete_handed own | rfl

/-- Only an event that composes an update of a characteristic hands one over to it. -/
theorem composes_of_handed (performed : service.perform event = some after) {group : Group}
    (handed : after.handedTo group ≠ service.handedTo group) : service.Composes group event := by
  cases perform_performed performed with
  | connected =>
      obtain ⟨mode, publishedMode, published⟩ := publishMode_effect
        { service with ticker := some service.config.telemetryPeriod }
      rw [published] at handed
      cases group with
      | mode => trivial
      | telemetry | tuning => exact absurd rfl handed
  | commanded command =>
      obtain ⟨peers, calls, lastOutcome, commanded⟩ := service.commanded_effect command
      obtain ⟨mode, publishedMode, published⟩ := publishMode_effect (service.commanded command)
      rw [published, commanded] at handed
      cases group with
      | mode => rfl
      | telemetry | tuning => exact absurd rfl handed
  | tuned =>
      cases group with
      | tuning => trivial
      | mode | telemetry => exact absurd rfl handed
  | unsampled ticking =>
      obtain ⟨mode, publishedMode, published⟩ := publishMode_effect service
      rw [published] at handed
      cases group with
      | mode => exact ticking
      | telemetry | tuning => exact absurd rfl handed
  | sampled ticking free fit =>
      obtain ⟨mode, publishedMode, published⟩ := publishMode_effect service
      rw [published] at handed
      cases group with
      | mode => exact ticking
      | telemetry => exact ⟨ticking, fit⟩
      | tuning => exact absurd rfl handed
  | completed other serial completed => exact absurd (complete_handedTo completed group) handed
  | disconnected | attMtuChanged | moved | uncommanded | untuned =>
      cases group <;> exact absurd rfl handed

omit [OperatedControl σ F] [TelemetrySource σ F] [FloatBits F] [FloatImage F] in
/-- No mode has the code of the value that stands for an unpublished one. -/
theorem current_ne_unpublished (service : RobotControlService F σ) :
    service.current ≠ unpublished := by
  intro same
  have first : service.current[0] = unpublished[0] := by rw [same]
  revert first
  show EnumCast.enumCast (SafetySupervisor.current service.peers) ≠ (0xff : UInt8)
  cases SafetySupervisor.current service.peers <;> decide

omit [OperatedControl σ F] [TelemetrySource σ F] [FloatBits F] [FloatImage F] in
/-- The mode is published when nothing has been since the last disconnection. -/
theorem publishMode_first (service : RobotControlService F σ)
    (cleared : service.mode.inFlight = false)
    (hidden : service.publishedMode = unpublished) :
    service.publishMode = { service with
      publishedMode := service.current
      mode := { service.mode with buffer := service.current }.hand modeSize } := by
  have held : ¬ (service.mode.inFlight = true ∨ service.current = service.publishedMode) := by
    rw [cleared, hidden, not_or]
    exact ⟨Bool.false_ne_true, service.current_ne_unpublished⟩
  rw [publishMode, if_neg held]

/-- A characteristic that still reads an update from before the last disconnection is handed another
by every event that composes one. -/
theorem handed_of_composes {boundary : Nat} {group : Group}
    (performed : service.perform event = some after) (stale : service.StaleAt boundary group)
    (tracked : service.TrackedAt boundary group)
    (hidden : service.mode.handed = boundary → group = .mode → service.publishedMode = unpublished)
    (composes : service.Composes group event) :
    after.handedTo group ≠ service.handedTo group := by
  cases group with
  | mode =>
      have cleared := Channel.Tracked.cleared_of_stale tracked stale
      have hidden := hidden (Channel.Tracked.handed_of_stale tracked stale) rfl
      show after.mode.handed ≠ service.mode.handed
      cases perform_performed performed with
      | connected =>
          have published := publishMode_first
            { service with ticker := some service.config.telemetryPeriod } cleared hidden
          rw [published]
          exact Nat.succ_ne_self _
      | commanded command =>
          obtain ⟨peers, calls, lastOutcome, commanded⟩ := service.commanded_effect command
          have published := (service.commanded command).publishMode_first
            (by rw [commanded]; exact cleared) (by rw [commanded]; exact hidden)
          rw [published, commanded]
          exact Nat.succ_ne_self _
      | unsampled | sampled =>
          rw [service.publishMode_first cleared hidden]
          exact Nat.succ_ne_self _
      | uncommanded data other => exact absurd composes other
      | disconnected | attMtuChanged | moved | untuned | tuned | completed => exact composes.elim
  | telemetry =>
      have cleared := Channel.Tracked.cleared_of_stale tracked stale
      cases perform_performed performed with
      | unsampled ticking held =>
          rcases held with flying | unfit
          · cases flying.symm.trans cleared
          · cases unfit.symm.trans composes.2
      | sampled => exact Nat.succ_ne_self _
      | connected | disconnected | attMtuChanged | moved | commanded | uncommanded | untuned
      | tuned | completed => exact composes.elim
  | tuning =>
      have cleared := Channel.Tracked.cleared_of_stale tracked stale
      cases perform_performed performed with
      | untuned data busy => cases busy.symm.trans cleared
      | tuned => exact Nat.succ_ne_self _
      | connected | disconnected | attMtuChanged | moved | commanded | uncommanded | unsampled
      | sampled | completed => exact composes.elim

omit [SafetySupervisor σ] [OperatedControl σ F] [FloatBits F] in
/-- A sample always fits the telemetry buffer. -/
theorem publishTelemetry_answers (service : RobotControlService F σ) :
    ∃ after, service.publishTelemetry = some after := by
  unfold publishTelemetry
  split
  · exact ⟨service, rfl⟩
  · let sample := TelemetrySource.latest service.peers
    let initial := service.telemetryValue.buffer
    obtain ⟨pitched, pitch⟩ := putFloat_answers initial 0 sample.pitch (by decide)
    obtain ⟨turning, rate⟩ := putFloat_answers pitched 4 sample.pitchRate (by decide)
    obtain ⟨driven, velocity⟩ :=
      putFloat_answers turning 8 sample.forwardVelocity (by decide)
    obtain ⟨yawing, yaw⟩ := putFloat_answers driven 12 sample.yawRate (by decide)
    obtain ⟨lefted, left⟩ := putFloat_answers yawing 16 sample.effortLeft (by decide)
    obtain ⟨righted, right⟩ := putFloat_answers lefted 20 sample.effortRight (by decide)
    obtain ⟨buffer, codes⟩ := putAll_answers righted 24
      [EnumCast.enumCast sample.mode, EnumCast.enumCast sample.cause] (by simp [telemetrySize])
    simp only [sample, initial] at pitch rate velocity yaw left right codes
    simp only [Option.bind_eq_bind, pitch, Option.bind_some, rate, velocity, yaw, left, right, codes]
    exact ⟨_, rfl⟩

/-- An event that composes an update is answered. -/
theorem perform_answers [OperatedContract σ] (service : RobotControlService F σ)
    (floor : attDefaultMaxMtuSize.toNat ≤ service.mtu.toNat) {group : Group}
    (composes : service.Composes group event) : ∃ after, service.perform event = some after := by
  have ticks (ticking : service.ticker.isSome = true) :
      ∃ after, service.perform .tick = some after := by
    obtain ⟨after, published⟩ := service.publishMode.publishTelemetry_answers
    exact ⟨after, by rw [perform, if_pos ticking, tick, published]⟩
  cases group with
  | mode =>
      cases event with
      | connected | modeWritten => exact ⟨_, rfl⟩
      | tick => exact ticks composes
      | disconnected | attMtuChanged | motionWritten | tuningWritten | completed =>
          exact composes.elim
  | telemetry =>
      cases event with
      | tick => exact ticks composes.1
      | connected | disconnected | attMtuChanged | motionWritten | modeWritten | tuningWritten
      | completed => exact composes.elim
  | tuning =>
      cases event with
      | tuningWritten data =>
          cases flying : service.tuning.inFlight with
          | true => exact ⟨service, by rw [perform, tuningWrites, if_pos flying]⟩
          | false =>
              obtain ⟨peers, status, calls, buffer, response, wrote, -⟩ :=
                service.tuningWrites_sound flying floor data
              exact ⟨_, wrote⟩
      | connected | disconnected | attMtuChanged | motionWritten | modeWritten | tick | completed =>
          exact composes.elim

/-- An observer of the link knows how many updates each characteristic had been handed at the last
disconnection. -/
def sinceDisconnection (boundary : Group → Nat) (_ : RobotControlService F σ) (event : σ × Event)
    (after : RobotControlService F σ) : Group → Nat :=
  match event.2 with
  | .disconnected => after.handedTo
  | _ => boundary

/-- In every reachable state the characteristics are tracked from the last disconnection on, and the
mode is not published before an update shows it. -/
structure Watched (pair : RobotControlService F σ × (Group → Nat)) : Prop where
  tracked : ∀ group, pair.1.TrackedAt (pair.2 group) group
  hidden : pair.1.mode.handed = pair.2 .mode → pair.1.publishedMode = unpublished
  floor : attDefaultMaxMtuSize.toNat ≤ pair.1.mtu.toNat

/-- A step leaves alone what each characteristic reads until its own completion. -/
def Undisturbed (service : RobotControlService F σ) (event : σ × Event) : Prop :=
  ∀ after, machine.step service event = some after →
    ∀ group, service.RespectsAt after (event.2.completes group) group

/-- An event composes no update for a characteristic that still reads one from before the last
disconnection. -/
def Awaits (pair : RobotControlService F σ × (Group → Nat)) (event : σ × Event) : Prop :=
  ∀ group, pair.1.Composes group event.2 → ¬ pair.1.StaleAt (pair.2 group) group

omit [SafetySupervisor σ] [OperatedControl σ F] [TelemetrySource σ F] [FloatBits F]
  [FloatImage F] in
theorem watched_initial (peers : σ) (config : Config) :
    Watched (construct (F := F) peers config, fun _ => 0) where
  tracked group := by
    cases group <;> exact Channel.tracked_idle _
  hidden _ := rfl
  floor := Nat.le_refl _

omit [SafetySupervisor σ] [OperatedControl σ F] [TelemetrySource σ F] [FloatBits F]
  [FloatImage F] in
theorem respectsAt_iff {boundary : Nat} {group : Group} {completed : Group → Option Nat}
    (evolution : Evolution service after completed) (tracked : service.TrackedAt boundary group) :
    service.RespectsAt after (completed group) group ↔
      (after.handedTo group ≠ service.handedTo group → ¬ service.StaleAt boundary group) := by
  cases group with
  | mode => exact Channel.Tracked.respects_iff tracked evolution.mode
  | telemetry => exact Channel.Tracked.respects_iff tracked evolution.telemetryValue
  | tuning => exact Channel.Tracked.respects_iff tracked evolution.tuning

omit [SafetySupervisor σ] [OperatedControl σ F] [TelemetrySource σ F] [FloatBits F]
  [FloatImage F] in
theorem trackedAt_evolves {boundary : Nat} {group : Group} {completed : Group → Option Nat}
    (evolution : Evolution service after completed) (tracked : service.TrackedAt boundary group)
    (fresh : after.handedTo group ≠ service.handedTo group → ¬ service.StaleAt boundary group) :
    after.TrackedAt boundary group := by
  cases group with
  | mode => exact Channel.Tracked.evolves tracked evolution.mode fresh
  | telemetry => exact Channel.Tracked.evolves tracked evolution.telemetryValue fresh
  | tuning => exact Channel.Tracked.evolves tracked evolution.tuning fresh

/-- A disconnection abandons what is in flight and leaves the buffers and the counts alone. -/
theorem disconnected_step {event : σ × Event} (left : event.2 = .disconnected)
    (stepped : machine.step service event = some after) :
    (∀ group, service.RespectsAt after (event.2.completes group) group) ∧
      after.publishedMode = unpublished ∧ after.handedTo = service.handedTo ∧
      ∀ boundary group, service.TrackedAt boundary group →
        after.TrackedAt (after.handedTo group) group := by
  obtain ⟨peers, event⟩ := event
  obtain rfl : event = .disconnected := left
  obtain rfl := Option.some.inj stepped
  refine ⟨?_, rfl, ?_, ?_⟩
  · intro group
    cases group <;> exact .kept rfl rfl
  · funext group
    cases group <;> rfl
  · intro boundary group tracked
    cases group <;> exact Channel.Tracked.abandon tracked

/-- A watched state is left undisturbed by exactly the events that await what is outstanding. -/
theorem undisturbed_iff [OperatedContract σ] {boundary : Group → Nat} {event : σ × Event}
    (watched : Watched (service, boundary)) :
    Undisturbed service event ↔ Awaits (service, boundary) event := by
  constructor
  · intro undisturbed group composes stale
    have linked : event.2 ≠ .disconnected := by
      intro left
      rw [left] at composes
      cases group <;> exact composes.elim
    obtain ⟨after, performed⟩ :=
      (service.attend event.1).perform_answers watched.floor composes
    have evolution := perform_evolution linked performed
    have respects := undisturbed after performed group
    have fresh := (respectsAt_iff evolution (watched.tracked group)).mp respects
    have hidden : service.mode.handed = boundary group → group = .mode →
        service.publishedMode = unpublished := by
      rintro same rfl
      exact watched.hidden same
    exact fresh (handed_of_composes performed stale (watched.tracked group) hidden composes) stale
  · intro awaits after stepped group
    by_cases left : event.2 = .disconnected
    · exact (disconnected_step left stepped).1 group
    · have evolution := perform_evolution left stepped
      apply (respectsAt_iff evolution (watched.tracked group)).mpr
      intro handed
      exact awaits group (composes_of_handed stepped handed)

/-- An event that awaits what is outstanding keeps the characteristics tracked. -/
theorem watched_step {boundary after : Group → Nat} {event : σ × Event}
    {next : RobotControlService F σ} (watched : Watched (service, boundary))
    (awaits : Awaits (service, boundary) event)
    (both : (machine.observed sinceDisconnection).step (service, boundary) event =
      some (next, after)) : Watched (next, after) := by
  obtain ⟨stepped, rfl⟩ := observed_step.mp both
  have performed : (service.attend event.1).perform event.2 = some next := stepped
  have floor : attDefaultMaxMtuSize.toNat ≤ next.mtu.toNat :=
    perform_floor performed watched.floor
  by_cases left : event.2 = .disconnected
  · obtain ⟨-, hidden, handed, tracked⟩ := disconnected_step left stepped
    have observed : sinceDisconnection boundary service event next = next.handedTo := by
      rw [sinceDisconnection, left]
    rw [observed]
    exact ⟨fun group => tracked _ group (watched.tracked group), fun _ => hidden, floor⟩
  · have evolution := perform_evolution left stepped
    have observed : sinceDisconnection boundary service event next = boundary := by
      unfold sinceDisconnection
      split
      · rename_i gone
        exact absurd gone left
      · rfl
    rw [observed]
    have tracked : ∀ group, next.TrackedAt (boundary group) group := fun group =>
      trackedAt_evolves evolution (watched.tracked group) fun handed =>
        awaits group (composes_of_handed performed handed)
    have hidden : next.mode.handed = boundary .mode → next.publishedMode = unpublished := by
      intro same
      have grown : service.mode.handed ≤ next.mode.handed := evolution.mode.handed_le
      have bounded : boundary .mode ≤ service.mode.handed := (watched.tracked .mode).bounded
      have still : next.mode.handed = service.mode.handed := by omega
      exact (evolution.shown still).trans (watched.hidden (still.symm.trans same))
    exact ⟨tracked, hidden, floor⟩

/-- In a run, every update is left undisturbed until its own completion exactly when no event
composes an update for a characteristic that still reads one from before the last disconnection. -/
theorem undisturbed_iff_awaits [OperatedContract σ] (initial : σ) (config : Config)
    (events : List (σ × Event)) :
    machine.Along Undisturbed (construct (F := F) initial config) events ↔
      (machine.observed sinceDisconnection).Along Awaits
        (construct (F := F) initial config, fun _ => 0) events := by
  rw [← @observed_along _ _ _ _ sinceDisconnection _ _ (fun _ => 0)]
  refine along_congr Watched ?_ ?_ (watched_initial initial config) events
  · rintro ⟨service, boundary⟩ event ⟨next, after⟩ watched awaits stepped
    exact watched_step watched awaits stepped
  · rintro ⟨service, boundary⟩ event watched
    exact undisturbed_iff watched

/-- A client that comes back before the update of its first connection has completed makes the service
hand over a second one. -/
theorem reconnection_disturbs (peers : σ) (config : Config) :
    ¬ machine.Along Undisturbed (construct (F := F) peers config)
      [(peers, .connected), (peers, .disconnected), (peers, .connected)] := by
  intro along
  obtain ⟨-, along⟩ := along
  obtain ⟨-, along⟩ := along _ rfl
  obtain ⟨undisturbed, -⟩ := along _ rfl
  let attended := (construct (F := F) peers config).attend peers
  have shown : attended.connected = _ := publishMode_first
    { attended with ticker := some attended.config.telemetryPeriod } rfl rfl
  let gone := ((attended.connected.attend peers).disconnected).attend peers
  have again : gone.connected = _ := publishMode_first
    { gone with ticker := some gone.config.telemetryPeriod } rfl rfl
  have respects : gone.mode.Respects gone.connected.mode none := undisturbed _ rfl .mode
  have outstanding : gone.mode.outstanding =
      [⟨0, { attended.mode with buffer := attended.current }.front modeSize⟩] := by
    show attended.connected.mode.outstanding = _
    rw [shown]
    rfl
  have alone := respects.alone ⟨0, _⟩ (by rw [outstanding]; exact List.mem_singleton_self _) nofun
  rw [again] at alone
  exact Nat.succ_ne_self _ alone

end Events

/-- A client of the firmware comes back before the first update of the mode has completed. -/
theorem reconnection_hands_second_update : ∃ firmware, Application.Firmware.powered = some firmware ∧
    ¬ machine.Along Undisturbed (construct firmware .default)
      [(firmware, .connected), (firmware, .disconnected), (firmware, .connected)] := by
  obtain ⟨firmware, powered⟩ := Option.isSome_iff_exists.mp
    (by decide +kernel : Application.Firmware.powered.isSome = true)
  exact ⟨firmware, powered, reconnection_disturbs firmware .default⟩

/-- Both sides of the condition agree on the reconnection of a client of the firmware. -/
theorem undisturbed_iff_awaits_reconnection :
    ∃ firmware, Application.Firmware.powered = some firmware ∧
      (machine.Along Undisturbed (construct firmware .default)
          [(firmware, .connected), (firmware, .disconnected), (firmware, .connected)] ↔
        (machine.observed sinceDisconnection).Along Awaits (construct firmware .default, fun _ => 0)
          [(firmware, .connected), (firmware, .disconnected), (firmware, .connected)]) := by
  obtain ⟨firmware, powered⟩ := Option.isSome_iff_exists.mp
    (by decide +kernel : Application.Firmware.powered.isSome = true)
  exact ⟨firmware, powered, undisturbed_iff_awaits firmware .default _⟩

end RobotControlService
end InvertedPendulum.Link
