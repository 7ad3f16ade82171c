import InvertedPendulum.Application.CommandPaths
import InvertedPendulum.Link.Effects
import InvertedPendulum.Link.FirmwarePeers

namespace InvertedPendulum.Link
open Balance Safety Telemetry Sensing Application Reactive Machine

namespace RobotControlService

section Decoding
variable {F σ : Type} {service after : RobotControlService F σ}

/-- A motion write of the right size moves, and any other is ignored. -/
theorem motionWrites_decoded [OperatedControl σ F] [FloatBits F] {data : List UInt8}
    (wrote : service.motionWrites data = some after) :
    (motionWritten (F := F) data = none ∧ after = service) ∨
      ∃ setpoints, motionWritten data = some setpoints ∧
        after = service.calling (.move setpoints (OperatedControl.move service.peers setpoints).1)
          (OperatedControl.move service.peers setpoints).2 := by
  unfold motionWrites at wrote
  unfold motionWritten
  split at wrote
  · rename_i sized
    rw [if_pos sized]
    simp only [Option.bind_eq_bind, Option.bind_eq_some_iff, Option.some.injEq] at wrote
    obtain ⟨velocity, forward, yawRate, turning, rfl⟩ := wrote
    right
    exact ⟨⟨velocity, yawRate⟩, by simp [forward, turning], rfl⟩
  · rename_i other
    rw [if_neg other]
    exact .inl ⟨rfl, (Option.some.inj wrote).symm⟩

/-- A mode write that holds a command executes it, and any other leaves the peers alone. -/
theorem modeWrites_decoded [SafetySupervisor σ] (service : RobotControlService F σ)
    (data : List UInt8) :
    (service.modeWrites data).peers =
      (modeWritten data).elim service.peers fun command => (command.call service.peers).2 := by
  rcases data with _ | ⟨byte, _ | ⟨second, rest⟩⟩
  · rfl
  · obtain ⟨mode, publishedMode, published⟩ := publishMode_effect (service.commanded byte)
    rw [modeWrites_one, published]
    show (service.execute byte).2.peers = (Command.ofByte? byte).elim _ _
    unfold execute
    cases Command.ofByte? byte with
    | none => rfl
    | some command => rfl
  · rfl

end Decoding

section Inputs
variable {F S τ : Type} [FloatArithmetic F] [FloatRounding F] [ControlStrategy S F]
  [InertialSensing τ] [FloatBits F] [FloatImage F]
  {service after : RobotControlService F (Firmware F S τ)}

/-- An event of the link is an input of the firmware, and one that only concerns the link acts on
the firmware no more than a ping does. -/
def Event.input (inFlight : Bool) : Event → Input F
  | .motionWritten data => .motionWritten data
  | .modeWritten data => .modeWritten data
  | .tuningWritten data => .tuningWritten inFlight data
  | .disconnected => .disconnected
  | .connected | .attMtuChanged _ | .tick | .completed _ _ => .command .ping

omit [FloatBits F] [FloatImage F] in
/-- The call of a tuning request performs its operation. -/
theorem tunedBy_performs {request : Option (Tuning F)}
    (tuned : service.tunedBy request = some after) :
    (request.map tuningOperation).elim (some service.peers) service.peers.perform =
      some after.peers := by
  cases request with
  | none =>
      obtain rfl := Option.some.inj tuned
      rfl
  | some request =>
      cases request with
      | select index =>
          obtain rfl := Option.some.inj tuned
          rfl
      | setParameter index value =>
          obtain ⟨⟨accepted, firmware⟩, stored, rfl⟩ := Option.map_eq_some_iff.mp tuned
          obtain ⟨written, wrote, same⟩ := Option.map_eq_some_iff.mp stored
          obtain ⟨-, rfl⟩ := Prod.mk.inj same
          exact Option.map_eq_some_iff.mpr ⟨written, wrote, rfl⟩

/-- The service changes the firmware exactly as the input does. -/
theorem perform_input {event : Event} (answered : service.perform event = some after) :
    ((event.input service.tuning.inFlight).operation? service.peers.control).elim
      (some service.peers) service.peers.perform = some after.peers := by
  cases event with
  | connected =>
      obtain ⟨mode, publishedMode, published⟩ := publishMode_effect
        { service with ticker := some service.config.telemetryPeriod }
      obtain rfl := Option.some.inj answered
      rw [connected, published]
      rfl
  | disconnected | attMtuChanged mtu =>
      obtain rfl := Option.some.inj answered
      rfl
  | motionWritten data =>
      rcases motionWrites_decoded answered with ⟨unread, rfl⟩ | ⟨setpoints, read, rfl⟩
      · simp only [Event.input, Input.operation?, unread]
        rfl
      · simp only [Event.input, Input.operation?, read]
        rfl
  | modeWritten data =>
      obtain rfl := Option.some.inj answered
      rw [modeWrites_decoded]
      simp only [Event.input, Input.operation?]
      cases modeWritten data with
      | none => rfl
      | some command => cases command <;> rfl
  | tuningWritten data =>
      rcases tuningWrites_decoded answered with
        ⟨busy, rfl⟩ | ⟨free, called, buffer, length, tuned, rfl⟩
      · rw [busy]
        rfl
      · rw [free]
        have performs := tunedBy_performs tuned
        exact performs
  | tick =>
      obtain ⟨-, ticked⟩ := Option.ite_none_right_eq_some.mp answered
      obtain ⟨mode, publishedMode, published⟩ := publishMode_effect service
      rw [tick, published] at ticked
      rcases publishTelemetry_cases ticked with ⟨-, rfl⟩ | ⟨-, -, buffer, rfl⟩
      · rfl
      · rfl
  | completed group serial =>
      obtain ⟨mode, telemetryValue, tuning, rfl⟩ := complete_effect answered
      rfl

end Inputs
end RobotControlService
end InvertedPendulum.Link
