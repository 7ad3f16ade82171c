import InvertedPendulum.Link.Service

namespace InvertedPendulum.Link
open Balance Safety Telemetry Wire Reactive

namespace RobotControlService
variable {F σ : Type}

/-- An operation fills when it touches at most the tuning buffer. -/
def Fills (before after : RobotControlService F σ) : Prop :=
  ∃ buffer, after = before.assembling buffer

theorem Fills.refl (service : RobotControlService F σ) : service.Fills service :=
  ⟨service.tuning.buffer, rfl⟩

theorem Fills.trans {first second third : RobotControlService F σ}
    (before : first.Fills second) (after : second.Fills third) : first.Fills third := by
  obtain ⟨_, rfl⟩ := before
  obtain ⟨buffer, rfl⟩ := after
  exact ⟨buffer, rfl⟩

theorem write_fills {service after : RobotControlService F σ} {offset : Nat}
    {bytes : List UInt8} (wrote : service.write offset bytes = some after) :
    service.Fills after := by
  obtain ⟨buffer, -, rfl⟩ := Option.map_eq_some_iff.mp wrote
  exact ⟨buffer, rfl⟩

theorem writeFloat_fills [FloatImage F] {service after : RobotControlService F σ} {offset : Nat}
    {value : F} (wrote : service.writeFloat offset value = some after) :
    service.Fills after := by
  obtain ⟨buffer, -, rfl⟩ := Option.map_eq_some_iff.mp wrote
  exact ⟨buffer, rfl⟩

section Responders
variable {service after : RobotControlService F σ} {length : Nat}

theorem appendName_fills {offset : Nat} {name : String}
    (appended : service.appendName offset name = some (length, after)) :
    service.Fills after := by
  simp only [appendName, Option.bind_eq_bind, Option.bind_eq_some_iff, Option.some.injEq,
    Prod.mk.injEq] at appended
  obtain ⟨counted, wrote, named, copied, -, rfl⟩ := appended
  exact (write_fills wrote).trans (write_fills copied)

theorem respond_fills {status : Status}
    (responded : service.respond status = some (length, after)) : service.Fills after := by
  simp only [respond, Option.bind_eq_bind, Option.bind_eq_some_iff, Option.some.injEq,
    Prod.mk.injEq] at responded
  obtain ⟨answered, wrote, -, rfl⟩ := responded
  exact write_fills wrote

theorem sendResponse_cases (sent : service.sendResponse length = some after) :
    ∃ answered length, service.Fills answered ∧
      after = { answered with tuning := answered.tuning.hand length } := by
  simp only [sendResponse, Option.bind_eq_some_iff, Option.ite_none_right_eq_some,
    Option.some.injEq] at sent
  obtain ⟨⟨length, answered⟩, prepared, -, rfl⟩ := sent
  refine ⟨answered, length, ?_, rfl⟩
  split at prepared
  · exact respond_fills prepared
  · obtain ⟨-, rfl⟩ := Prod.mk.inj (Option.some.inj prepared)
    exact .refl _

variable [OperatedControl σ F]

theorem describeStrategy_fills {index : UInt8}
    (described : service.describeStrategy index = some (length, after)) :
    service.Fills after := by
  unfold describeStrategy at described
  dsimp only at described
  split at described
  · exact respond_fills described
  · simp only [Option.bind_eq_bind, Option.bind_eq_some_iff] at described
    obtain ⟨⟨_, answered⟩, responded, counted, count, activated, active, name, -, appended⟩ :=
      described
    exact (respond_fills responded).trans ((write_fills count).trans
      ((write_fills active).trans (appendName_fills appended)))

theorem describeParameter_fills [FloatImage F] {index : UInt8}
    (described : service.describeParameter index = some (length, after)) :
    service.Fills after := by
  unfold describeParameter at described
  dsimp only at described
  split at described
  · exact respond_fills described
  · simp only [Option.bind_eq_bind, Option.bind_eq_some_iff] at described
    obtain ⟨⟨_, answered⟩, responded, counted, count, value, -, valued, current, bounded, minimum,
      ranged, maximum, appended⟩ := described
    have numbers := (writeFloat_fills current).trans
      ((writeFloat_fills minimum).trans (writeFloat_fills maximum))
    exact (respond_fills responded).trans ((write_fills count).trans
      (numbers.trans (appendName_fills appended)))

/-- The service makes the call of a tuning request. -/
def tuned (service : RobotControlService F σ) : Tuning F → Option (RobotControlService F σ)
  | .select index =>
      let (accepted, peers) := OperatedControl.select service.peers index
      some (service.calling (.select index accepted) peers)
  | .setParameter index value =>
      (OperatedControl.setParameter service.peers index value).map fun (accepted, peers) =>
        service.calling (.setParameter index value accepted) peers

/-- The service makes at most one call. -/
def tunedBy (service : RobotControlService F σ) : Option (Tuning F) →
    Option (RobotControlService F σ)
  | none => some service
  | some tuning => service.tuned tuning

/-- A call touches at most the peers and the list of calls. -/
theorem tunedBy_effect {request : Option (Tuning F)}
    (tuned : service.tunedBy request = some after) :
    ∃ peers calls, after = { service with peers, calls } := by
  cases request with
  | none =>
      obtain rfl := Option.some.inj tuned
      exact ⟨service.peers, service.calls, rfl⟩
  | some request =>
      cases request with
      | select index =>
          obtain rfl := Option.some.inj tuned
          exact ⟨_, _, rfl⟩
      | setParameter index value =>
          obtain ⟨⟨accepted, peers⟩, -, rfl⟩ := Option.map_eq_some_iff.mp tuned
          exact ⟨peers, _, rfl⟩

/-- A call does not depend on the tuning buffer. -/
theorem Fills.tunedBy {next called : RobotControlService F σ} {request : Option (Tuning F)}
    (filled : service.Fills next) (tuned : next.tunedBy request = some called) :
    ∃ original, service.tunedBy request = some original ∧ original.Fills called := by
  obtain ⟨buffer, rfl⟩ := filled
  cases request with
  | none =>
      obtain rfl := Option.some.inj tuned
      exact ⟨service, rfl, buffer, rfl⟩
  | some request =>
      cases request with
      | select index =>
          obtain rfl := Option.some.inj tuned
          exact ⟨_, rfl, buffer, rfl⟩
      | setParameter index value =>
          obtain ⟨⟨accepted, peers⟩, stored, rfl⟩ := Option.map_eq_some_iff.mp tuned
          refine ⟨service.calling (.setParameter index value accepted) peers, ?_, buffer, rfl⟩
          exact Option.map_eq_some_iff.mpr ⟨(accepted, peers), stored, rfl⟩

theorem selectStrategy_called {index : UInt8}
    (selected : service.selectStrategy index = some (length, after)) :
    ∃ called, service.tunedBy (if index.toNat < OperatedControl.strategyCount service.peers then
        some (.select index.toNat) else none) = some called ∧ called.Fills after := by
  unfold selectStrategy at selected
  split at selected
  · rename_i beyond
    rw [if_neg (not_lt.mpr beyond)]
    exact ⟨service, rfl, respond_fills selected⟩
  · rename_i inside
    rw [if_pos (not_le.mp inside)]
    exact ⟨_, rfl, respond_fills selected⟩

variable [FloatBits F]

theorem writeParameter_called [FloatImage F] {index : UInt8} {data : List UInt8}
    (written : service.writeParameter index data = some (length, after)) :
    ∃ called, service.tunedBy
        (if data.length = 6 ∧ index.toNat < (OperatedControl.parameters service.peers).length then
          (getFloat data 2).map (.setParameter index.toNat) else none) = some called ∧
      called.Fills after := by
  unfold writeParameter at written
  split at written
  · rename_i invalid
    rw [if_neg (by omega)]
    exact ⟨service, rfl, respond_fills written⟩
  · rename_i valid
    rw [if_pos (by omega)]
    simp only [Option.bind_eq_bind, Option.bind_eq_some_iff, Option.some.injEq,
      Prod.mk.injEq] at written
    obtain ⟨value, read, ⟨accepted, peers⟩, stored, ⟨_, answered⟩, responded, now, -, valued, wrote,
      -, rfl⟩ := written
    rw [read]
    refine ⟨service.calling (.setParameter index.toNat value accepted) peers, ?_, ?_⟩
    · show Option.map _ _ = _
      rw [stored]
      rfl
    · exact (respond_fills responded).trans (writeFloat_fills wrote)

/-- The tuning request that a write selects when no response is in flight. -/
def request (service : RobotControlService F σ) (data : List UInt8) : Option (Tuning F) :=
  tuningWritten false (OperatedControl.strategyCount service.peers)
    (OperatedControl.parameters service.peers).length data

/-- A request is answered after the call that it selects. -/
theorem responseTo_decoded [FloatImage F] {data : List UInt8}
    (responded : service.responseTo data = some (length, after)) :
    ∃ called, service.tunedBy (service.request data) = some called ∧ called.Fills after := by
  unfold responseTo at responded
  unfold request tuningWritten
  rw [if_neg Bool.false_ne_true]
  rcases data with _ | ⟨operation, _ | ⟨index, rest⟩⟩
  · exact ⟨service, rfl, respond_fills responded⟩
  · exact ⟨service, rfl, respond_fills responded⟩
  · dsimp only at responded ⊢
    cases read : Operation.ofByte? operation with
    | none =>
        rw [read] at responded
        exact ⟨service, rfl, respond_fills responded⟩
    | some known =>
        rw [read] at responded
        cases known with
        | describeStrategy =>
            dsimp only at responded
            split at responded
            · exact ⟨service, rfl, describeStrategy_fills responded⟩
            · exact ⟨service, rfl, respond_fills responded⟩
        | selectStrategy =>
            dsimp only at responded ⊢
            split at responded
            · rename_i indexOnly
              simpa [indexOnly] using selectStrategy_called responded
            · rename_i longer
              rw [if_neg (fun sized => longer sized.1)]
              exact ⟨service, rfl, respond_fills responded⟩
        | describeParameter =>
            dsimp only at responded
            split at responded
            · exact ⟨service, rfl, describeParameter_fills responded⟩
            · exact ⟨service, rfl, respond_fills responded⟩
        | writeParameter =>
            simpa using writeParameter_called responded

theorem Fills.request_eq {next : RobotControlService F σ}
    (filled : service.Fills next) (data : List UInt8) :
    next.request data = service.request data := by
  obtain ⟨buffer, rfl⟩ := filled
  rfl

/-- A tuning write is ignored while a response is in flight, and hands one over otherwise, after the
call that it selects. -/
theorem tuningWrites_decoded [FloatImage F] {data : List UInt8}
    (wrote : service.tuningWrites data = some after) :
    (service.tuning.inFlight = true ∧ after = service) ∨
      (service.tuning.inFlight = false ∧ ∃ called buffer length,
        service.tunedBy (service.request data) = some called ∧
        after = { called with tuning := { called.tuning with buffer }.hand length }) := by
  unfold tuningWrites at wrote
  split at wrote
  · rename_i busy
    exact .inl ⟨busy, (Option.some.inj wrote).symm⟩
  · rename_i free
    simp only [Option.bind_eq_bind, Option.bind_eq_some_iff] at wrote
    obtain ⟨operated, first, indexed, second, ⟨size, answered⟩, responded, sent⟩ := wrote
    obtain ⟨checked, length, prepared, rfl⟩ := sendResponse_cases sent
    obtain ⟨called, tuned, filled⟩ := responseTo_decoded responded
    have echoed := (write_fills first).trans (write_fills second)
    rw [echoed.request_eq] at tuned
    obtain ⟨original, tuned, same⟩ := echoed.tunedBy tuned
    obtain ⟨buffer, rfl⟩ := same.trans (filled.trans prepared)
    exact .inr ⟨Bool.eq_false_of_not_eq_true free, original, buffer, length, tuned, rfl⟩

/-- A tuning write touches at most the peers, the calls and the tuning characteristic. -/
theorem tuningWrites_cases [FloatImage F] {data : List UInt8}
    (wrote : service.tuningWrites data = some after) :
    (service.tuning.inFlight = true ∧ after = service) ∨
      (service.tuning.inFlight = false ∧ ∃ peers calls buffer length,
        after = { service with
          peers
          calls
          tuning := { service.tuning with buffer }.hand length }) := by
  rcases tuningWrites_decoded wrote with ignored | ⟨free, called, buffer, length, tuned, rfl⟩
  · exact .inl ignored
  · obtain ⟨peers, calls, rfl⟩ := tunedBy_effect tuned
    exact .inr ⟨free, peers, calls, buffer, length, rfl⟩

end Responders

section Effects
variable {service after : RobotControlService F σ}

/-- A motion write touches at most the peers. -/
theorem motionWrites_effect [OperatedControl σ F] [FloatBits F] {data : List UInt8}
    (wrote : service.motionWrites data = some after) :
    ∃ peers calls, after = { service with peers, calls } := by
  unfold motionWrites at wrote
  split at wrote
  · simp only [Option.bind_eq_bind, Option.bind_eq_some_iff, Option.some.injEq] at wrote
    obtain ⟨velocity, -, yawRate, -, rfl⟩ := wrote
    exact ⟨_, _, rfl⟩
  · obtain rfl := Option.some.inj wrote
    exact ⟨service.peers, service.calls, rfl⟩

/-- Telemetry is published when the last sample is out and the next one fits. -/
theorem publishTelemetry_cases [TelemetrySource σ F] [FloatImage F]
    (published : service.publishTelemetry = some after) :
    ((service.telemetryValue.inFlight = true ∨ service.fits telemetrySize = false) ∧
        after = service) ∨
      (service.telemetryValue.inFlight = false ∧ service.fits telemetrySize = true ∧
        ∃ buffer, after = { service with
          telemetryValue := { service.telemetryValue with buffer }.hand telemetrySize }) := by
  unfold publishTelemetry at published
  split at published
  · rename_i held
    exact .inl ⟨by simpa using held, (Option.some.inj published).symm⟩
  · rename_i free
    simp only [not_or, Bool.not_eq_true, Bool.not_eq_eq_eq_not] at free
    simp only [Option.bind_eq_bind, Option.bind_eq_some_iff, Option.some.injEq] at published
    obtain ⟨_, -, _, -, _, -, _, -, _, -, _, -, buffer, -, rfl⟩ := published
    exact .inr ⟨free.1, by simpa using free.2, buffer, rfl⟩

/-- A command touches at most the peers. -/
theorem execute_effect [SafetySupervisor σ] (service : RobotControlService F σ) (command : UInt8) :
    ∃ peers calls, (service.execute command).2 = { service with peers, calls } := by
  unfold execute
  split
  · exact ⟨_, _, rfl⟩
  · exact ⟨service.peers, service.calls, rfl⟩

/-- Publishing the mode touches at most the mode characteristic and the record of what it shows. -/
theorem publishMode_effect [SafetySupervisor σ] (service : RobotControlService F σ) :
    ∃ mode publishedMode, service.publishMode = { service with mode, publishedMode } := by
  unfold publishMode
  split
  · exact ⟨service.mode, service.publishedMode, rfl⟩
  · exact ⟨_, _, rfl⟩

/-- The state in which a mode write of one byte publishes the mode. -/
def commanded [SafetySupervisor σ] (service : RobotControlService F σ) (command : UInt8) :
    RobotControlService F σ :=
  { (service.execute command).2 with
    lastCommand := command
    lastOutcome := if (service.execute command).1 then .accepted else .refused }

theorem modeWrites_one [SafetySupervisor σ] (service : RobotControlService F σ) (command : UInt8) :
    service.modeWrites [command] = (service.commanded command).publishMode := rfl

/-- A mode write of any other size is ignored. -/
theorem modeWrites_other [SafetySupervisor σ] (service : RobotControlService F σ)
    {data : List UInt8} (other : data.length ≠ 1) : service.modeWrites data = service := by
  rcases data with _ | ⟨command, _ | ⟨second, rest⟩⟩
  · rfl
  · exact absurd rfl other
  · rfl

/-- A command touches at most the peers and the report on it. -/
theorem commanded_effect [SafetySupervisor σ] (service : RobotControlService F σ)
    (command : UInt8) :
    ∃ peers calls lastOutcome, service.commanded command =
      { service with peers, calls, lastCommand := command, lastOutcome } := by
  obtain ⟨peers, calls, executed⟩ := service.execute_effect command
  exact ⟨peers, calls, _, by rw [commanded, executed]⟩

/-- A completion touches at most the characteristics. -/
theorem complete_effect {group : Group} {serial : Nat}
    (completed : service.complete group serial = some after) :
    ∃ mode telemetryValue tuning, after = { service with mode, telemetryValue, tuning } := by
  cases group with
  | mode | telemetry | tuning =>
      obtain ⟨_, -, rfl⟩ := Option.map_eq_some_iff.mp completed
      exact ⟨_, _, _, rfl⟩

end Effects

section Events
variable [SafetySupervisor σ] [OperatedControl σ F] [TelemetrySource σ F] [FloatBits F]
  [FloatImage F] {service after : RobotControlService F σ} {event : Event}

/-- What an event does to the service: a write that is ignored does nothing, and every other event
touches at most what its constructor names. -/
inductive Performed (service : RobotControlService F σ) :
    Event → RobotControlService F σ → Prop where
  | connected : Performed service .connected
      { service with ticker := some service.config.telemetryPeriod }.publishMode
  | disconnected : Performed service .disconnected service.disconnected
  | attMtuChanged (mtu : UInt16) : Performed service (.attMtuChanged mtu) (service.attMtuChanged mtu)
  | moved (data : List UInt8) (peers : σ) (calls : List (Call F)) :
      Performed service (.motionWritten data) { service with peers, calls }
  | commanded (command : UInt8) :
      Performed service (.modeWritten [command]) (service.commanded command).publishMode
  | uncommanded (data : List UInt8) (other : data.length ≠ 1) :
      Performed service (.modeWritten data) service
  | untuned (data : List UInt8) (busy : service.tuning.inFlight = true) :
      Performed service (.tuningWritten data) service
  | tuned (data : List UInt8) (free : service.tuning.inFlight = false) (peers : σ)
      (calls : List (Call F)) (buffer : Vector UInt8 tuningSize) (length : Nat) :
      Performed service (.tuningWritten data)
        { service with
          peers
          calls
          tuning := { service.tuning with buffer }.hand length }
  | unsampled (ticking : service.ticker.isSome = true)
      (held : service.telemetryValue.inFlight = true ∨ service.fits telemetrySize = false) :
      Performed service .tick service.publishMode
  | sampled (ticking : service.ticker.isSome = true) (free : service.telemetryValue.inFlight = false)
      (fit : service.fits telemetrySize = true) (buffer : Vector UInt8 telemetrySize) :
      Performed service .tick
        { service.publishMode with
          telemetryValue := { service.telemetryValue with buffer }.hand telemetrySize }
  | completed (group : Group) (serial : Nat) {after : RobotControlService F σ}
      (completed : service.complete group serial = some after) :
      Performed service (.completed group serial) after

/-- Every event that is answered does one of these things. -/
theorem perform_performed (answered : service.perform event = some after) :
    service.Performed event after := by
  cases event with
  | connected =>
      obtain rfl := Option.some.inj answered
      exact .connected
  | disconnected =>
      obtain rfl := Option.some.inj answered
      exact .disconnected
  | attMtuChanged mtu =>
      obtain rfl := Option.some.inj answered
      exact .attMtuChanged mtu
  | motionWritten data =>
      obtain ⟨peers, calls, rfl⟩ := motionWrites_effect answered
      exact .moved data peers calls
  | modeWritten data =>
      obtain rfl := Option.some.inj answered
      by_cases one : data.length = 1
      · obtain ⟨command, rfl⟩ := List.length_eq_one_iff.mp one
        exact .commanded command
      · rw [service.modeWrites_other one]
        exact .uncommanded data one
  | tuningWritten data =>
      rcases tuningWrites_cases answered with ⟨busy, rfl⟩ | ⟨free, peers, calls, buffer, length, rfl⟩
      · exact .untuned data busy
      · exact .tuned data free peers calls buffer length
  | tick =>
      obtain ⟨ticking, ticked⟩ := Option.ite_none_right_eq_some.mp answered
      obtain ⟨mode, publishedMode, published⟩ := publishMode_effect service
      have sampling : service.publishMode.telemetryValue = service.telemetryValue := by
        rw [published]
      have fitting : service.publishMode.fits telemetrySize = service.fits telemetrySize := by
        rw [published]
        rfl
      rcases publishTelemetry_cases ticked with ⟨held, rfl⟩ | ⟨free, fit, buffer, rfl⟩
      · rw [sampling, fitting] at held
        exact .unsampled ticking held
      · rw [sampling] at free ⊢
        rw [fitting] at fit
        exact .sampled ticking free fit buffer
  | completed group serial => exact .completed group serial answered

/-- The unit of transfer after an event. -/
def Event.mtu (before : UInt16) : Event → UInt16
  | .disconnected => attDefaultMaxMtuSize
  | .attMtuChanged newMtu => max newMtu attDefaultMaxMtuSize
  | _ => before

/-- The ticker after an event. -/
def Event.ticker (config : Config) (before : Option Duration) : Event → Option Duration
  | .connected => some config.telemetryPeriod
  | .disconnected => none
  | _ => before

/-- Only the link events change the unit of transfer and the ticker, and nothing the configuration. -/
theorem perform_link (answered : service.perform event = some after) :
    after.mtu = event.mtu service.mtu ∧ after.ticker = event.ticker service.config service.ticker ∧
      after.config = service.config := by
  cases perform_performed answered with
  | connected =>
      obtain ⟨mode, publishedMode, published⟩ := publishMode_effect
        { service with ticker := some service.config.telemetryPeriod }
      rw [published]
      exact ⟨rfl, rfl, rfl⟩
  | commanded command =>
      obtain ⟨peers, calls, lastOutcome, commanded⟩ := service.commanded_effect command
      obtain ⟨mode, publishedMode, published⟩ := publishMode_effect (service.commanded command)
      rw [published, commanded]
      exact ⟨rfl, rfl, rfl⟩
  | unsampled | sampled =>
      obtain ⟨mode, publishedMode, published⟩ := publishMode_effect service
      rw [published]
      exact ⟨rfl, rfl, rfl⟩
  | completed group serial completed =>
      obtain ⟨mode, telemetryValue, tuning, rfl⟩ := complete_effect completed
      exact ⟨rfl, rfl, rfl⟩
  | disconnected | attMtuChanged | moved | uncommanded | untuned | tuned => exact ⟨rfl, rfl, rfl⟩

omit [SafetySupervisor σ] [OperatedControl σ F] [TelemetrySource σ F] [FloatBits F]
  [FloatImage F] in
/-- A change of the unit of transfer stays at the default or above it. -/
theorem default_le_attMtuChanged (service : RobotControlService F σ) (newMtu : UInt16) :
    attDefaultMaxMtuSize.toNat ≤ (service.attMtuChanged newMtu).mtu.toNat := by
  show _ ≤ (if newMtu ≤ attDefaultMaxMtuSize then attDefaultMaxMtuSize else newMtu).toNat
  split
  · exact Nat.le_refl _
  · rename_i larger
    rw [UInt16.le_iff_toNat_le] at larger
    omega

/-- An event keeps the unit of transfer at the default or above it. -/
theorem perform_floor (performed : service.perform event = some after)
    (floor : attDefaultMaxMtuSize.toNat ≤ service.mtu.toNat) :
    attDefaultMaxMtuSize.toNat ≤ after.mtu.toNat := by
  rw [(perform_link performed).1]
  cases event with
  | disconnected => exact Nat.le_refl _
  | attMtuChanged newMtu => exact default_le_attMtuChanged service newMtu
  | _ => exact floor

/-- The unit of transfer never falls below the default. -/
theorem default_le_mtu {initial : σ} {config : Config} {service : RobotControlService F σ}
    (reached : machine.Reachable (construct initial config) service) :
    attDefaultMaxMtuSize.toNat ≤ service.mtu.toNat := by
  have kept : ∀ (state : RobotControlService F σ) (event : σ × Event) next,
      attDefaultMaxMtuSize.toNat ≤ state.mtu.toNat → machine.step state event = some next →
      attDefaultMaxMtuSize.toNat ≤ next.mtu.toNat := by
    intro state event next floor stepped
    have performed : (state.attend event.1).perform event.2 = some next := stepped
    exact perform_floor performed floor
  exact reached.invariant kept (Nat.le_refl _)

end Events
end RobotControlService
end InvertedPendulum.Link
