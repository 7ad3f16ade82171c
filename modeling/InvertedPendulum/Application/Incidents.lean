import InvertedPendulum.Application.Upkeep

namespace InvertedPendulum.Application
open Platform Motion Odometry Estimation Sensing Control Balance Safety Telemetry Link Cli Reactive
  Machine

section Drifting
variable {F S τ : Type} [FloatArithmetic F] [FloatRounding F] [ControlStrategy S F]
  [InertialSensing τ]

/-- These operations move the robot, tune it or check on it, and neither report on the driver nor
command the supervisor. -/
def Operation.Incidental : Operation F → Prop
  | .supervise | .move _ | .cancelMotion | .select _ | .setParameter _ _ | .tristate | .brake => True
  | _ => False

/-- The mode changes only where a check of the supervisor changes it. -/
inductive ModeDrift (before after : SafetySupervisorImpl F (Plant F S τ)) : Prop where
  | kept (mode : after.mode = before.mode)
  | settled (calibrating : before.mode = .calibrating)
      (calibrated : InertialSensing.calibration before.peers.sensing = .calibrated)
      (idle : after.mode = .idle)
  | failed (calibrating : before.mode = .calibrating)
      (failed : InertialSensing.calibration before.peers.sensing = .failed)
      (fault : after.mode = .fault)
  | fell (armed : before.mode = .armed) (fault : after.mode = .fault)
  | polled (idle : before.mode = .idle) (faulted : before.peers.actuation.fault ≠ .none)
      (fault : after.mode = .fault)

/-- The sensing and the driver stay as they are while the mode drifts. -/
structure SupervisorDrift (before after : SafetySupervisorImpl F (Plant F S τ)) : Prop where
  sensing : after.peers.sensing = before.peers.sensing
  fault : after.peers.actuation.fault = before.peers.actuation.fault
  mode : ModeDrift before after

/-- After the self-test a tick starts no calibration. -/
theorem supervise_drifts {before after : SafetySupervisorImpl F (Plant F S τ)}
    (tested : before.mode ≠ .init) (outcome : before.Outcome .supervise after) :
    SupervisorDrift before after := by
  have entered (supervisor : SafetySupervisorImpl F (Plant F S τ)) (cause : Safety.FaultCause)
      (peers : supervisor.peers = before.peers)
      (mode : ModeDrift before (supervisor.enterFault cause)) :
      SupervisorDrift before (supervisor.enterFault cause) := by
    refine ⟨?_, ?_, mode⟩
    · rw [enterFault_sensing, peers]
    · rw [(enterFault_driver supervisor cause).2, peers]
  cases outcome with
  | selfTestPassed init | selfTestOverdue init | selfTestPending init => exact absurd init tested
  | calibrated calibrating succeeded => exact ⟨rfl, rfl, .settled calibrating succeeded rfl⟩
  | calibrationFailed calibrating failed =>
      exact entered before _ rfl (.failed calibrating failed rfl)
  | polled live faulted =>
      rcases live with idle | armed
      · exact entered before _ rfl (.polled idle faulted rfl)
      · exact entered before _ rfl (.fell armed rfl)
  | stalled armed => exact entered before.counted _ rfl (.fell armed rfl)
  | calibrationPending | counted | latched => exact ⟨rfl, rfl, .kept rfl⟩

/-- An incidental operation drifts. -/
theorem Firmware.perform_drifts {before after : Firmware F S τ} {operation : Operation F}
    (incidental : operation.Incidental) (tested : before.supervisor.mode ≠ .init)
    (performed : before.perform operation = some after) :
    SupervisorDrift before.supervisor after.supervisor := by
  cases perform_performs performed with
  | requested _ request _ requested supervisor =>
      cases operation with
      | supervise =>
          obtain rfl := Option.some.inj requested
          have outcome := before.supervisor.perform_outcome .supervise
          rw [← supervisor] at outcome
          exact supervise_drifts tested outcome
      | balance | steer | arm | disarm | clearFault | calibrate => exact incidental.elim
      | _ => cases requested
  | prepared _ control prepares =>
      exact ⟨rfl, congrArg (fun hardware => hardware.actuation.fault) prepares.1, .kept rfl⟩
  | tristate => exact ⟨rfl, rfl, .kept rfl⟩
  | brake =>
      refine ⟨rfl, ?_, .kept rfl⟩
      change (before.actuation.disable .brake).fault = before.actuation.fault
      rcases before.actuation.disable_cases .brake with released | ⟨braked, -⟩
      · rw [released]
        rfl
      · rw [braked]
        rfl
  | driverFault | configured => exact incidental.elim

end Drifting

namespace Main
variable {F S C K : Type} [FloatArithmetic F] [FloatRounding F] [FloatGeometry F] [FloatPi F]
  [FloatBits F] [FloatImage F] [TextInput F] [ControlStrategy S F] [PitchFilter C F]
  [PitchFilter K F] {main next : Main F S C K} {now : TimePoint} {event : Event F}

/-- The timers, the radio and the operator cause these events at any time, and none of them is a
sample, reports on the driver or commands the supervisor or the estimation. -/
def Event.Incidental : Event F → Prop
  | .sample _ | .driverFault | .configured _ => False
  | .typed .arm _ | .typed .disarm _ | .typed .clearFault _ | .typed .calibrate _ => False
  | .typed .selectFilter _ => False
  | .radio (.served (.modeWritten _) _) => False
  | _ => True

omit [FloatArithmetic F] [FloatRounding F] [FloatGeometry F] [FloatPi F] [FloatImage F]
  [PitchFilter C F] [PitchFilter K F] in
/-- An incidental event asks for incidental operations. -/
theorem operation_incidental (incidental : event.Incidental) {operation : Operation F}
    (read : event.operation? main = some operation) : operation.Incidental := by
  cases event with
  | sample | driverFault | configured => exact incidental.elim
  | wheels | radioReady => cases read
  | supervise =>
      obtain rfl := Option.some.inj read
      trivial
  | typed command params =>
      cases command with
      | arm | disarm | clearFault | calibrate | selectFilter => exact incidental.elim
      | releaseBridges | brake =>
          obtain rfl := Option.some.inj read
          trivial
      | move | param =>
          obtain ⟨_, -, rfl⟩ := Option.map_eq_some_iff.mp read
          trivial
      | strategy =>
          obtain ⟨-, selected⟩ := Option.ite_none_left_eq_some.mp read
          obtain ⟨_, -, rfl⟩ := Option.map_eq_some_iff.mp selected
          trivial
      | _ => cases read
  | radio event =>
      obtain ⟨link, -, read⟩ := Option.bind_eq_some_iff.mp read
      cases event with
      | stateChanged =>
          obtain ⟨-, cancels⟩ := Option.ite_none_right_eq_some.mp read
          obtain rfl := Option.some.inj cancels
          trivial
      | maxAttMtuSizeChanged => cases read
      | served event remote =>
          cases event with
          | modeWritten => exact incidental.elim
          | disconnected => exact remote.elim
          | motionWritten =>
              obtain ⟨_, -, rfl⟩ := Option.map_eq_some_iff.mp read
              trivial
          | tuningWritten =>
              obtain ⟨request, -, rfl⟩ := Option.map_eq_some_iff.mp read
              cases request <;> trivial
          | connected | attMtuChanged | tick | completed => cases read

/-- An incidental event leaves the estimation and the sensing alone, and the supervisor drifts. -/
theorem incident_drifts (incidental : event.Incidental) (tested : main.supervisor.mode ≠ .init)
    (stepped : machine.step main (now, event) = some next) :
    next.attitudeEstimation = main.attitudeEstimation ∧
      SupervisorDrift (main.begin now).supervisor next.supervisor := by
  have unsampled (sample : InertialSample F) : event ≠ .sample sample := by
    rintro rfl
    exact incidental
  constructor
  · have selects := (other_loops unsampled stepped).1
    have selected : event.filter = none := by
      cases event with
      | typed command params =>
          cases command with
          | selectFilter => exact incidental.elim
          | _ => rfl
      | _ => rfl
    rw [selected] at selects
    exact selects
  · have operates := perform_operates unsampled stepped
    cases read : event.operation? (main.begin now) with
    | none =>
        rw [read] at operates
        have same : (main.begin now).firmware = next.firmware := Option.some.inj operates
        have kept : (main.begin now).supervisor = next.supervisor :=
          congrArg Firmware.supervisor same
        rw [← kept]
        exact ⟨rfl, rfl, .kept rfl⟩
    | some operation =>
        rw [read] at operates
        exact Firmware.perform_drifts (operation_incidental incidental read) tested operates

end Main
end InvertedPendulum.Application
