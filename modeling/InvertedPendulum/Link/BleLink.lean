import InvertedPendulum.Link.Effects
import InvertedPendulum.Link.FirmwarePeers

namespace InvertedPendulum.Link
open Balance Safety Telemetry Reactive Machine

/-- `services::GapPeripheralState` -/
inductive GapPeripheralState where
  | standby
  | advertising
  | connected
  deriving DecidableEq

/-- The link makes these calls on its service and on the peripheral. -/
inductive BleLink.Call where
  | connected
  | disconnected
  | attMtuChanged (mtu : UInt16)
  | advertise
  deriving DecidableEq

/-- The calls of the notification under way are listed. -/
structure BleLink (F σ : Type) where
  service : RobotControlService F σ
  state : GapPeripheralState
  calls : List BleLink.Call

namespace BleLink
variable {F σ : Type}

def connected (link : BleLink F σ) : Bool := link.state = .connected

/-- `Advertise` sets the advertisement and the scan response and starts advertising. -/
def advertise (link : BleLink F σ) : BleLink F σ :=
  { link with calls := link.calls ++ [.advertise] }

def construct (peers : σ) : BleLink F σ :=
  advertise ⟨.construct peers .default, .standby, []⟩

/-- `MaxAttMtuSizeChanged` -/
def maxAttMtuSizeChanged (link : BleLink F σ) (maxAttMtuSize : UInt16) : BleLink F σ :=
  { link with
    service := link.service.attMtuChanged maxAttMtuSize
    calls := link.calls ++ [.attMtuChanged maxAttMtuSize] }

section Notifications
variable [SafetySupervisor σ] [OperatedControl σ F]

omit [SafetySupervisor σ] in
def disconnectService (link : BleLink F σ) : BleLink F σ :=
  { link with service := link.service.disconnected, calls := link.calls ++ [.disconnected] }

omit [OperatedControl σ F] in
def connectService (link : BleLink F σ) : BleLink F σ :=
  { link with service := link.service.connected, calls := link.calls ++ [.connected] }

def stateChanged (link : BleLink F σ) (newState : GapPeripheralState) : BleLink F σ :=
  let wasConnected := link.connected
  let moved := { link with state := newState }
  if newState = .connected then moved.connectService
  else if newState = .standby then
    (if wasConnected then moved.disconnectService else moved).advertise
  else moved

end Notifications

/-- These events reach the service from the client, the timer and the stack past the link. -/
def Remote : RobotControlService.Event → Prop
  | .connected | .disconnected | .attMtuChanged _ => False
  | _ => True

/-- The stack notifies the link, or an event reaches its service. -/
inductive Event where
  | stateChanged (newState : GapPeripheralState)
  | maxAttMtuSizeChanged (maxAttMtuSize : UInt16)
  | served (event : RobotControlService.Event) (remote : Remote event)

/-- An event finds the peers in any state and starts with empty lists of calls. -/
def attend (link : BleLink F σ) (peers : σ) : BleLink F σ :=
  { link with service := link.service.attend peers, calls := [] }

section Machine
variable [SafetySupervisor σ] [OperatedControl σ F] [TelemetrySource σ F] [FloatBits F]
  [FloatImage F]

def perform (link : BleLink F σ) : Event → Option (BleLink F σ)
  | .stateChanged newState => some (link.stateChanged newState)
  | .maxAttMtuSizeChanged maxAttMtuSize => some (link.maxAttMtuSizeChanged maxAttMtuSize)
  | .served event _ => (link.service.perform event).map fun service => { link with service }

def machine : Machine (BleLink F σ) (σ × Event) where
  step link event := (link.attend event.1).perform event.2

/-- An observer knows whether the unit of transfer was changed since the state last left connected. -/
def changedSinceLoss (changed : Bool) (before : BleLink F σ) (event : σ × Event)
    (after : BleLink F σ) : Bool :=
  match event.2 with
  | .maxAttMtuSizeChanged _ => true
  | _ => if before.connected ∧ ! after.connected then false else changed

end Machine

/-- The service was disconnected once, with every effect of it. -/
structure Lost (link : BleLink F σ) : Prop where
  once : link.calls.count .disconnected = 1
  tickerCancelled : link.service.ticker = none
  motionCancelled : RobotControlService.Call.cancelMotion ∈ link.service.calls
  defaultMtu : link.service.mtu = RobotControlService.attDefaultMaxMtuSize
  modeCleared : link.service.mode.inFlight = false
  telemetryCleared : link.service.telemetryValue.inFlight = false
  tuningCleared : link.service.tuning.inFlight = false

/-- Without a connection the ticker stands still, and the unit of transfer is the default unless it
was changed since. -/
def Quiet (link : BleLink F σ) (changed : Bool) : Prop :=
  link.connected = false → link.service.ticker = none ∧
    (changed = false → link.service.mtu = RobotControlService.attDefaultMaxMtuSize)

variable [SafetySupervisor σ] [OperatedControl σ F] [TelemetrySource σ F] [FloatBits F]
  [FloatImage F]

/-- A step disconnects the service exactly when the state leaves connected, and leaves the link quiet
without a connection. -/
def HandlesLoss (pair : BleLink F σ × Bool) (event : σ × Event) : Prop :=
  ∀ next, machine.step pair.1 event = some next →
    (if pair.1.connected ∧ ! next.connected then Lost next else .disconnected ∉ next.calls) ∧
      Quiet next (changedSinceLoss pair.2 pair.1 event next)

/-- A connected link is not told that the peripheral is advertising. -/
def AvoidsAdvertising (pair : BleLink F σ × Bool) (event : σ × Event) : Prop :=
  pair.1.connected = true → event.2 ≠ .stateChanged .advertising

omit [SafetySupervisor σ] [TelemetrySource σ F] [FloatBits F] [FloatImage F] in
theorem disconnectService_lost {link : BleLink F σ} (fresh : link.calls = []) :
    Lost link.disconnectService.advertise where
  once := by simp [disconnectService, advertise, fresh]
  tickerCancelled := rfl
  motionCancelled := List.mem_append_right _ (List.mem_singleton_self _)
  defaultMtu := rfl
  modeCleared := rfl
  telemetryCleared := rfl
  tuningCleared := rfl

/-- An event past the link keeps the ticker and the unit of transfer. -/
theorem served_link {service after : RobotControlService F σ} {event : RobotControlService.Event}
    (remote : Remote event) (performed : service.perform event = some after) :
    after.ticker = service.ticker ∧ after.mtu = service.mtu := by
  obtain ⟨mtu, ticker, -⟩ := RobotControlService.perform_link performed
  cases event with
  | connected | disconnected | attMtuChanged => exact remote.elim
  | motionWritten | modeWritten | tuningWritten | tick | completed => exact ⟨ticker, mtu⟩

omit [SafetySupervisor σ] [OperatedControl σ F] [TelemetrySource σ F] [FloatBits F]
  [FloatImage F] in
/-- A step that does not leave connected asks for silence. -/
theorem silent_handled {link next : BleLink F σ} (stays : link.connected = true → next.connected = true)
    (silent : .disconnected ∉ next.calls) :
    if link.connected ∧ ! next.connected then Lost next else .disconnected ∉ next.calls := by
  rw [if_neg]
  · exact silent
  · rintro ⟨connected, left⟩
    rw [stays connected] at left
    cases left

omit [SafetySupervisor σ] [OperatedControl σ F] [TelemetrySource σ F] [FloatBits F]
  [FloatImage F] in
/-- Without a connection there is no loss to observe. -/
theorem changedSinceLoss_unconnected {link next : BleLink F σ} {changed : Bool} {event : σ × Event}
    (unconnected : link.connected = false) (other : ∀ mtu, event.2 ≠ .maxAttMtuSizeChanged mtu) :
    changedSinceLoss changed link event next = changed := by
  unfold changedSinceLoss
  split
  · rename_i mtu told
    exact absurd told (other mtu)
  · simp [unconnected]

section Handling
variable {link : BleLink F σ} {changed : Bool} (quiet : Quiet link changed)
include quiet

omit [SafetySupervisor σ] [OperatedControl σ F] [TelemetrySource σ F] [FloatBits F]
  [FloatImage F] in
/-- A link that was not connected stays quiet under every step that keeps its service. -/
theorem quiet_unconnected {next : BleLink F σ} {event : σ × Event}
    (unconnected : link.connected = false) (other : ∀ mtu, event.2 ≠ .maxAttMtuSizeChanged mtu)
    (ticker : next.service.ticker = link.service.ticker)
    (mtu : next.service.mtu = link.service.mtu) :
    Quiet next (changedSinceLoss changed link event next) := by
  intro _
  obtain ⟨still, default⟩ := quiet unconnected
  rw [changedSinceLoss_unconnected unconnected other]
  exact ⟨ticker.trans still, fun unchanged => mtu.trans (default unchanged)⟩

/-- An event of the service is silent, and leaves a link without a connection quiet. -/
theorem served_handles (peers : σ) (event : RobotControlService.Event) (remote : Remote event) :
    HandlesLoss (link, changed) (peers, .served event remote) := by
  intro next stepped
  obtain ⟨service, performed, rfl⟩ := Option.map_eq_some_iff.mp stepped
  obtain ⟨ticker, mtu⟩ := served_link remote performed
  constructor
  · exact silent_handled id (by simp [attend])
  · intro unconnected
    exact quiet_unconnected quiet unconnected (by intro mtu told; cases told) ticker mtu unconnected

/-- The standby of a connected link disconnects its service. -/
theorem standby_handles (peers : σ) :
    HandlesLoss (link, changed) (peers, .stateChanged .standby) := by
  intro _ stepped
  obtain rfl := Option.some.inj stepped
  let moved := { link.attend peers with state := .standby }
  have next : (link.attend peers).stateChanged .standby =
      (if link.connected then moved.disconnectService else moved).advertise := rfl
  rw [next]
  cases connected : link.connected with
  | true =>
      constructor
      · rw [if_pos ⟨rfl, rfl⟩]
        exact disconnectService_lost rfl
      · exact fun _ => ⟨rfl, fun _ => rfl⟩
  | false =>
      constructor
      · rw [if_neg (fun lost => Bool.false_ne_true lost.1)]
        simp [advertise, moved, attend]
      · exact quiet_unconnected quiet connected (by intro mtu told; cases told) rfl rfl

/-- Advertising is silent on a link that is not connected. -/
theorem advertising_handles (peers : σ) (unconnected : link.connected = false) :
    HandlesLoss (link, changed) (peers, .stateChanged .advertising) := by
  intro _ stepped
  obtain rfl := Option.some.inj stepped
  have next : (link.attend peers).stateChanged .advertising =
      { link.attend peers with state := .advertising } := rfl
  rw [next]
  constructor
  · exact silent_handled (fun connected => absurd (connected.symm.trans unconnected) nofun)
      (by simp [attend])
  · exact quiet_unconnected quiet unconnected (by intro mtu told; cases told) rfl rfl

/-- A quiet link handles a loss exactly when it is not told of advertising while connected. -/
theorem handlesLoss_iff {event : σ × Event} :
    HandlesLoss (link, changed) event ↔ AvoidsAdvertising (link, changed) event := by
  obtain ⟨peers, event⟩ := event
  constructor
  · rintro handles connected rfl
    obtain ⟨handled, -⟩ := handles _ rfl
    have lost : (link.connected ∧ ! ((link.attend peers).stateChanged .advertising).connected) :=
      ⟨connected, rfl⟩
    rw [if_pos lost] at handled
    cases handled.once
  · intro avoids
    cases event with
    | maxAttMtuSizeChanged mtu =>
        intro next stepped
        obtain rfl := Option.some.inj stepped
        constructor
        · exact silent_handled id (by simp [maxAttMtuSizeChanged, attend])
        · intro unconnected
          exact ⟨(quiet unconnected).1, nofun⟩
    | served event remote => exact served_handles quiet peers event remote
    | stateChanged newState =>
        cases newState with
        | connected =>
            intro next stepped
            obtain rfl := Option.some.inj stepped
            constructor
            · exact silent_handled (fun _ => rfl) (by simp [stateChanged, connectService, attend])
            · intro unconnected
              cases unconnected
        | standby => exact standby_handles quiet peers
        | advertising =>
            apply advertising_handles quiet peers
            rw [Bool.eq_false_iff]
            intro connected
            exact avoids connected rfl

end Handling

/-- A link that handles a loss stays quiet. -/
theorem quiet_step {link next : BleLink F σ} {changed after : Bool} {event : σ × Event}
    (quiet : Quiet link changed) (avoids : AvoidsAdvertising (link, changed) event)
    (both : (machine.observed changedSinceLoss).step (link, changed) event = some (next, after)) :
    Quiet next after := by
  obtain ⟨stepped, rfl⟩ := observed_step.mp both
  exact ((handlesLoss_iff quiet).mpr avoids next stepped).2

/-- In a run, every loss of the link is handled exactly when no connected link is told that the
peripheral is advertising. -/
theorem losses_handled_iff (peers : σ) (events : List (σ × Event)) :
    (machine.observed changedSinceLoss).Along HandlesLoss (construct (F := F) peers, false) events ↔
      (machine.observed changedSinceLoss).Along AvoidsAdvertising (construct (F := F) peers, false)
        events := by
  apply along_congr fun pair => Quiet pair.1 pair.2
  · rintro ⟨link, changed⟩ event ⟨next, after⟩ quiet avoids both
    exact quiet_step quiet avoids both
  · rintro ⟨link, changed⟩ event quiet
    exact handlesLoss_iff quiet
  · exact fun _ => ⟨rfl, fun _ => rfl⟩

/-- A client that is lost straight to advertising leaves the service connected. -/
theorem advertising_unhandled (peers : σ) :
    ¬ (machine.observed changedSinceLoss).Along HandlesLoss (construct (F := F) peers, false)
      [(peers, .stateChanged .connected), (peers, .stateChanged .advertising)] := by
  intro along
  obtain ⟨-, along⟩ := along
  obtain ⟨handles, -⟩ := along _ rfl
  obtain ⟨handled, -⟩ := handles _ rfl
  have lost := (if_pos ⟨rfl, rfl⟩).mp handled
  have once : ([] : List Call).count .disconnected = 1 := lost.once
  exact absurd once (by decide)

end BleLink

/-- The client of the firmware is lost straight to advertising. -/
theorem BleLink.advertising_leaves_firmware_connected :
    ∃ firmware, Application.Firmware.powered = some firmware ∧
      ¬ (machine.observed changedSinceLoss).Along HandlesLoss (construct firmware, false)
        [(firmware, .stateChanged .connected), (firmware, .stateChanged .advertising)] := by
  obtain ⟨firmware, powered⟩ := Option.isSome_iff_exists.mp
    (by decide +kernel : Application.Firmware.powered.isSome = true)
  exact ⟨firmware, powered, advertising_unhandled firmware⟩

end InvertedPendulum.Link
