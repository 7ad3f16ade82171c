import InvertedPendulum.Application.FilterSelection
import InvertedPendulum.Sensing.HeldStill

namespace InvertedPendulum.Application
open Platform Motion Odometry Estimation Sensing Control Balance Safety Telemetry Link Cli Reactive
  Machine

section Supervision
variable {F S τ : Type} [FloatArithmetic F] [FloatRounding F] [ControlStrategy S F]
  [InertialSensing τ] {before after : SafetySupervisorImpl F (Plant F S τ)}
  {request : Safety.Request F}

omit [InertialSensing τ] in
/-- A fault releases the bridges of a driver that stays as it is. -/
theorem enterFault_driver (supervisor : SafetySupervisorImpl F (Plant F S τ))
    (cause : Safety.FaultCause) :
    (supervisor.enterFault cause).peers.actuation.state = supervisor.peers.actuation.state ∧
      (supervisor.enterFault cause).peers.actuation.fault = supervisor.peers.actuation.fault := by
  unfold SafetySupervisorImpl.enterFault
  split <;> exact ⟨rfl, rfl⟩

/-- Control drives the bridges of a driver that stays as it is. -/
theorem balance_driver (control : BalanceControlImpl F S (Hardware F)) (estimate : Estimate F)
    (interval : Duration) :
    (control.balance estimate interval).peers.actuation.state = control.peers.actuation.state ∧
      (control.balance estimate interval).peers.actuation.fault = control.peers.actuation.fault := by
  rcases balance_peers control estimate interval with same | ⟨left, right, applied⟩
  · rw [same]
    exact ⟨rfl, rfl⟩
  · rw [applied]
    change (control.peers.actuation.apply left right).state = _ ∧
      (control.peers.actuation.apply left right).fault = _
    rcases control.peers.actuation.apply_cases left right with ⟨same, -⟩ | ⟨driven, -⟩
    · rw [same]
      exact ⟨rfl, rfl⟩
    · rw [driven]
      exact ⟨rfl, rfl⟩

/-- An iteration of the loop leaves the driver alone, and no mode but armed. -/
structure Iterates (before after : SafetySupervisorImpl F (Plant F S τ)) : Prop where
  mode : after.mode = before.mode ∨ before.mode = .armed ∧ after.mode = .fault
  state : after.peers.actuation.state = before.peers.actuation.state
  fault : after.peers.actuation.fault = before.peers.actuation.fault

omit [FloatArithmetic F] [FloatRounding F] [ControlStrategy S F] [InertialSensing τ] in
theorem Iterates.refl (supervisor : SafetySupervisorImpl F (Plant F S τ)) :
    Iterates supervisor supervisor := ⟨.inl rfl, rfl, rfl⟩

omit [FloatArithmetic F] [FloatRounding F] [ControlStrategy S F] [InertialSensing τ] in
theorem Iterates.trans {middle : SafetySupervisorImpl F (Plant F S τ)}
    (first : Iterates before middle) (second : Iterates middle after) : Iterates before after := by
  refine ⟨?_, second.state.trans first.state, second.fault.trans first.fault⟩
  rcases second.mode with same | ⟨armed, fault⟩
  · rw [same]
    exact first.mode
  · rcases first.mode with same | ⟨-, latched⟩
    · exact .inr ⟨same.symm.trans armed, fault⟩
    · rw [armed] at latched
      cases latched

/-- A balance iteration serves the supervisor. -/
theorem balance_iterates (supervisor : SafetySupervisorImpl F (Plant F S τ)) (estimate : Estimate F)
    (interval : Duration) :
    Iterates supervisor (supervisor.balance estimate interval) ∧
      (supervisor.balance estimate interval).serviced = true := by
  have outcome := supervisor.balance_outcome estimate interval
  generalize supervisor.balance estimate interval = after at outcome
  have faulted (armed : supervisor.mode = .armed) (cause : Safety.FaultCause) :
      Iterates supervisor ((supervisor.fed estimate).enterFault cause) := by
    obtain ⟨state, fault⟩ := enterFault_driver (supervisor.fed estimate) cause
    exact ⟨.inr ⟨armed, rfl⟩, state, fault⟩
  cases outcome with
  | fed => exact ⟨⟨.inl rfl, rfl, rfl⟩, rfl⟩
  | invalid _ _ armed | fell _ _ armed | failed _ _ armed => exact ⟨faulted armed _, by simp⟩
  | balanced =>
      obtain ⟨state, fault⟩ := balance_driver supervisor.peers.control estimate interval
      exact ⟨⟨.inl rfl, state, fault⟩, rfl⟩

omit [InertialSensing τ] in
/-- An outer iteration does not. -/
theorem steer_iterates (supervisor : SafetySupervisorImpl F (Plant F S τ)) (interval : Duration) :
    Iterates supervisor (supervisor.steer interval) ∧
      (supervisor.steer interval).serviced = supervisor.serviced := by
  unfold SafetySupervisorImpl.steer
  split
  · have peers := (steer_retains supervisor.peers.control interval).1
    refine ⟨⟨.inl rfl, ?_, ?_⟩, rfl⟩
    · exact congrArg (fun hardware => hardware.actuation.state) peers
    · exact congrArg (fun hardware => hardware.actuation.fault) peers
  · exact ⟨.refl supervisor, rfl⟩

/-- No request changes the state of the driver. -/
theorem driver_outcome (outcome : before.Outcome request after) :
    after.peers.actuation.state = before.peers.actuation.state := by
  cases outcome with
  | invalid | fell | failed | selfTestOverdue | calibrationFailed | polled =>
      exact (enterFault_driver _ _).1
  | stalled => exact (enterFault_driver before.counted _).1
  | balanced estimate interval => exact (balance_driver before.peers.control estimate interval).1
  | steered interval =>
      exact congrArg (fun hardware => hardware.actuation.state)
        (steer_retains before.peers.control interval).1
  | _ => rfl

/-- A request leaves the sensing alone, and does not wait for it, or it starts a calibration. -/
theorem sensing_outcome (outcome : before.Outcome request after) :
    after.peers.sensing = before.peers.sensing ∧
        (after.mode = .calibrating → before.mode = .calibrating) ∨
      after.peers.sensing = InertialSensing.startCalibration before.peers.sensing := by
  cases outcome with
  | selfTestPassed | recalibrated => exact .inr rfl
  | invalid | fell | failed | selfTestOverdue | calibrationFailed | polled =>
      exact .inl ⟨enterFault_sensing _ _, by simp⟩
  | stalled => exact .inl ⟨enterFault_sensing before.counted _, by simp⟩
  | armed | disarmed | cleared | calibrated => exact .inl ⟨rfl, by simp⟩
  | _ => exact .inl ⟨rfl, id⟩

end Supervision

namespace Firmware
variable {F S τ : Type} [FloatArithmetic F] [FloatRounding F] [ControlStrategy S F]
  [InertialSensing τ] {before after : Firmware F S τ}

/-- The driver answers its configuration once and keeps its answer. -/
theorem perform_driver {operation : Operation F} (performed : before.perform operation = some after) :
    after.actuation.state = before.actuation.state ∧
        after.configurationOutstanding = before.configurationOutstanding ∨
      before.configurationOutstanding = true ∧ after.configurationOutstanding = false ∧
        after.actuation.state ≠ .configuring := by
  cases perform_performs performed with
  | requested _ request _ _ supervisor outstanding =>
      have outcome := before.supervisor.perform_outcome request
      rw [← supervisor] at outcome
      exact .inl ⟨driver_outcome outcome, outstanding⟩
  | prepared _ control prepares =>
      exact .inl ⟨congrArg (fun hardware => hardware.actuation.state) prepares.1, rfl⟩
  | tristate | driverFault => exact .inl ⟨rfl, rfl⟩
  | brake =>
      refine .inl ⟨?_, rfl⟩
      change (before.actuation.disable .brake).state = before.actuation.state
      rcases before.actuation.disable_cases .brake with released | ⟨braked, -⟩
      · rw [released]
        rfl
      · rw [braked]
        rfl
  | configured verified outstanding =>
      refine .inr ⟨outstanding, rfl, ?_⟩
      change (if verified then DriverState.ready else .failed) ≠ .configuring
      cases verified <;> simp

/-- The driver is configuring exactly while its answer is outstanding. -/
def Awaits (firmware : Firmware F S τ) : Prop :=
  firmware.actuation.state = .configuring ↔ firmware.configurationOutstanding = true

theorem awaits_kept (state : Firmware F S τ) (event : Moment F τ × Operation F)
    (next : Firmware F S τ) (awaits : state.Awaits) (stepped : machine.step state event = some next) :
    next.Awaits := by
  unfold Awaits at awaits ⊢
  rcases perform_driver stepped with ⟨same, outstanding⟩ | ⟨-, answered, state⟩
  · rw [same, outstanding]
    exact awaits
  · exact iff_of_false state (by simp [answered])

/-- A driver that has answered stays in this state. -/
def Answered (answer : DriverState) (firmware : Firmware F S τ) : Prop :=
  firmware.actuation.state = answer ∧ firmware.configurationOutstanding = false

omit [FloatArithmetic F] [FloatRounding F] [ControlStrategy S F] [InertialSensing τ] in
/-- A driver that is not configuring has answered. -/
theorem Awaits.answered {firmware : Firmware F S τ} (awaits : firmware.Awaits) {answer : DriverState}
    (state : firmware.actuation.state = answer) (settled : answer ≠ .configuring) :
    firmware.Answered answer := by
  refine ⟨state, ?_⟩
  by_contra outstanding
  rw [Bool.not_eq_false] at outstanding
  exact settled (state.symm.trans (awaits.mpr outstanding))

theorem answered_kept (answer : DriverState) (state : Firmware F S τ)
    (event : Moment F τ × Operation F) (next : Firmware F S τ) (answered : state.Answered answer)
    (stepped : machine.step state event = some next) : next.Answered answer := by
  obtain ⟨same, closed⟩ := answered
  rcases perform_driver stepped with ⟨kept, outstanding⟩ | ⟨outstanding, -⟩
  · exact ⟨kept.trans same, outstanding.trans closed⟩
  · have outstanding : state.configurationOutstanding = true := outstanding
    rw [closed] at outstanding
    cases outstanding

omit [FloatRounding F] [ControlStrategy S F] [InertialSensing τ] in
theorem construct_awaits {fullScale : DutyCycle} {decay : Decay} {strategies : List S}
    {moment : Moment F τ} {balanceConfig : BalanceControlImpl.Config F}
    {safetyConfig : SafetySupervisorImpl.Config F} {start : Firmware F S τ}
    (constructed : construct fullScale decay strategies moment balanceConfig safetyConfig =
      some start) : start.Awaits := by
  have coherent := (construct_starts constructed).1
  obtain ⟨control, -, supervised⟩ := Option.bind_eq_some_iff.mp constructed
  obtain ⟨supervisor, -, rfl⟩ := Option.map_eq_some_iff.mp supervised
  exact iff_of_true (coherent.configuring rfl) rfl

end Firmware

namespace Main
variable {F S C K : Type} [FloatArithmetic F] [FloatRounding F] [FloatGeometry F] [FloatPi F]
  [FloatBits F] [FloatImage F] [TextInput F] [ControlStrategy S F] [PitchFilter C F]
  [PitchFilter K F] {start main next final : Main F S C K} {now : TimePoint}

/-- What the machine of the firmware keeps, whatever the moment, the application keeps. -/
theorem firmware_invariant {holds : Firmware F S (Gyroscope F) → Prop}
    (kept : ∀ state event next, holds state → Firmware.machine.step state event = some next →
      holds next)
    (begins : ∀ firmware moment, holds (firmware.begin moment) ↔ holds firmware)
    (initially : holds main.firmware) (reached : machine.Reachable main final) :
    holds final.firmware := by
  obtain ⟨firmware, follows, alike⟩ := firmware_simulates.reachable (.refl main.firmware) reached
  have begun := (begins firmware final.firmware.moment).mpr (follows.invariant kept initially)
  rw [← alike final.firmware.moment] at begun
  exact (begins _ _).mp begun

/-- A driver that has answered its configuration keeps its answer. -/
theorem answer_lasts {answer : DriverState} (answered : main.firmware.Answered answer)
    (reached : machine.Reachable main final) : final.firmware.Answered answer :=
  firmware_invariant (Firmware.answered_kept answer) (fun _ _ => Iff.rfl) answered reached

/-- A sample goes through the calibration, leaves the driver alone, and serves the supervisor where a
balance iteration is due. -/
structure SampleUpkeep (main next : Main F S C K) (sample : InertialSample F) : Prop where
  sensing : main.inertialSensing.sensing.onSample sample = some next.inertialSensing.sensing
  iterates : Iterates main.supervisor next.supervisor
  served : (main.robot.samplesSinceBalance + 1 < main.robot.samplesPerBalance ∧
      next.supervisor.serviced = main.supervisor.serviced) ∨
    ¬ main.robot.samplesSinceBalance + 1 < main.robot.samplesPerBalance ∧
      next.supervisor.serviced = true

/-- The machine takes a sample in this way. -/
theorem sample_upkeep {sample : InertialSample F}
    (stepped : machine.step main (now, .sample sample) = some next) :
    main.SampleUpkeep next sample := by
  obtain ⟨robot, performed, rfl⟩ := Option.map_eq_some_iff.mp stepped
  have sampled : Robot.machine.step main.robot ((now, main.wheelOdometry.chassis),
      .sample sample) = some robot := performed
  have sensed := (Robot.machine_sample sampled).sensing
  obtain ⟨sensing, -, taken⟩ := Option.map_eq_some_iff.mp performed
  let sampled : Robot F S C K := (main.begin now).robot.withSensing sensing
  let estimated := main.attitudeEstimation.update (sensing.latest now)
  obtain ⟨iteration, -⟩ := ControlLoopImpl.onMeasurement_iteration sampled (sensing.latest now)
  rw [taken] at iteration
  have supervised {peers : Pipeline F S C K} (same : robot.peers = peers) :
      ({ main.begin now with robot } : Main F S C K).supervisor = peers.firmware.supervisor :=
    congrArg (fun pipeline : Pipeline F S C K => pipeline.firmware.supervisor) same
  refine ⟨sensed, ?_, ?_⟩
  · cases iteration with
    | sampled early counter peers =>
        rw [supervised peers]
        exact ⟨.inl rfl, rfl, rfl⟩
    | balanced interval due counter peers =>
        rw [supervised peers]
        obtain ⟨mode, state, fault⟩ := (balance_iterates sampled.supervisor estimated.1 interval).1
        exact ⟨mode, state, fault⟩
    | steered interval outer due counter peers =>
        rw [supervised peers]
        obtain ⟨mode, state, fault⟩ :=
          (balance_iterates sampled.supervisor estimated.1 interval).1.trans
            (steer_iterates (sampled.supervisor.balance estimated.1 interval) outer).1
        exact ⟨mode, state, fault⟩
  · cases iteration with
    | sampled early counter peers =>
        rw [supervised peers]
        exact .inl ⟨early, rfl⟩
    | balanced interval due counter peers =>
        rw [supervised peers]
        exact .inr ⟨due, (balance_iterates sampled.supervisor estimated.1 interval).2⟩
    | steered interval outer due counter peers =>
        rw [supervised peers]
        have served := (balance_iterates sampled.supervisor estimated.1 interval).2
        have kept := (steer_iterates (sampled.supervisor.balance estimated.1 interval) outer).2
        exact .inr ⟨due, kept.trans served⟩

/-- The sensing keeps its configuration, and a supervisor that waits for a calibration has started
one. -/
structure Waits (config : InertialSensingImpl.Config F) (main : Main F S C K) : Prop where
  config : main.inertialSensing.sensing.config = config
  started : main.supervisor.mode = .calibrating →
    main.inertialSensing.sensing.calibration ≠ .uncalibrated

omit [FloatGeometry F] [FloatPi F] [FloatBits F] [FloatImage F] [TextInput F] [PitchFilter C F]
  [PitchFilter K F] in
/-- The sensing starts its calibration at the moment of the request. -/
theorem request_senses {request : Safety.Request F}
    (outcome : (main.begin now).supervisor.Outcome request next.supervisor) :
    next.inertialSensing.sensing = main.inertialSensing.sensing ∧
        (next.supervisor.mode = .calibrating → main.supervisor.mode = .calibrating) ∨
      next.inertialSensing.sensing = main.inertialSensing.sensing.startCalibration now := by
  rcases sensing_outcome outcome with ⟨same, waits⟩ | started
  · exact .inl ⟨(congrArg Gyroscope.sensing same).trans rfl, waits⟩
  · exact .inr ((congrArg Gyroscope.sensing started).trans rfl)

omit [FloatGeometry F] [FloatPi F] [FloatBits F] [FloatImage F] [TextInput F] [PitchFilter C F]
  [PitchFilter K F] in
/-- A request to the supervisor keeps the sensing in order. -/
theorem Waits.requested {config : InertialSensingImpl.Config F} (waits : main.Waits config)
    {request : Safety.Request F}
    (outcome : (main.begin now).supervisor.Outcome request next.supervisor) : next.Waits config := by
  rcases request_senses outcome with ⟨same, calibrating⟩ | started
  · constructor
    · rw [same]
      exact waits.config
    · rw [same]
      exact waits.started ∘ calibrating
  · constructor
    · rw [started]
      exact waits.config
    · rw [started]
      simp [InertialSensingImpl.startCalibration]

omit [FloatRounding F] [FloatGeometry F] [FloatPi F] [FloatBits F] [FloatImage F] [TextInput F]
  [ControlStrategy S F] [PitchFilter C F] [PitchFilter K F] in
/-- A sample starts no calibration, and no wait for one. -/
theorem Waits.sampled {config : InertialSensingImpl.Config F} (waits : main.Waits config)
    {sample : InertialSample F} (upkeep : main.SampleUpkeep next sample) : next.Waits config := by
  refine ⟨(InertialSensingImpl.onSample_config upkeep.sensing).trans waits.config, ?_⟩
  intro calibrating
  refine InertialSensingImpl.onSample_started (waits.started ?_) upkeep.sensing
  rcases upkeep.iterates.mode with same | ⟨-, fault⟩
  · exact same.symm.trans calibrating
  · rw [calibrating] at fault
    cases fault

/-- Every event keeps the sensing in order. -/
theorem waits_kept (config : InertialSensingImpl.Config F) (main : Main F S C K)
    (event : TimePoint × Event F) (next : Main F S C K) (waits : main.Waits config)
    (stepped : machine.step main event = some next) : next.Waits config := by
  obtain ⟨now, event⟩ := event
  have kept (supervisor : next.supervisor.mode = main.supervisor.mode)
      (sensing : next.inertialSensing.sensing = main.inertialSensing.sensing) :
      next.Waits config := by
    constructor
    · rw [sensing]
      exact waits.config
    · rw [supervisor, sensing]
      exact waits.started
  cases sampled : event with
  | sample sample =>
      rw [sampled] at stepped
      exact waits.sampled (sample_upkeep stepped)
  | wheels | supervise | driverFault | configured | typed | radioReady | radio =>
      obtain ⟨operation, -, performed⟩ := perform_performs (by simp [sampled]) stepped
      cases operation with
      | none =>
          have same : (main.begin now).firmware = next.firmware := Option.some.inj performed
          refine kept ?_ ?_
          · exact (congrArg (fun firmware => firmware.supervisor.mode) same).symm
          · exact (congrArg (fun firmware => firmware.supervisor.peers.sensing.sensing) same).symm
      | some operation =>
          have performed : (main.begin now).firmware.perform operation = some next.firmware :=
            performed
          generalize reached : next.firmware = firmware at performed
          cases Firmware.perform_performs performed with
          | requested _ request _ _ supervisor =>
              have outcome := (main.begin now).supervisor.perform_outcome request
              have supervisor : firmware.supervisor =
                  (main.begin now).supervisor.perform request := supervisor
              rw [← supervisor, ← reached] at outcome
              exact waits.requested outcome
          | prepared | tristate | brake | driverFault | configured =>
              refine kept ?_ ?_
              · exact congrArg (fun firmware => firmware.supervisor.mode) reached
              · exact congrArg (fun firmware => firmware.supervisor.peers.sensing.sensing) reached

omit [FloatRounding F] [FloatGeometry F] [FloatPi F] [FloatBits F] [FloatImage F] [TextInput F]
  [ControlStrategy S F] [PitchFilter C F] [PitchFilter K F] in
/-- The constructed application waits for no calibration. -/
theorem construct_waits {fullScale : DutyCycle} {decay : Decay}
    {sensingConfig : InertialSensingImpl.Config F}
    {estimationConfig : AttitudeEstimationImpl.Config F} {complementary : C} {kalman : K}
    {strategies : List S} {odometryConfig : WheelOdometryImpl.Config F}
    {balanceConfig : BalanceControlImpl.Config F} {safetyConfig : SafetySupervisorImpl.Config F}
    {identityAddress : MacAddress}
    (constructed : construct fullScale decay sensingConfig estimationConfig complementary kalman
      strategies odometryConfig balanceConfig safetyConfig identityAddress now = some start) :
    start.Waits sensingConfig := by
  obtain ⟨wheelOdometry, -, mapped⟩ := Option.bind_eq_some_iff.mp constructed
  obtain ⟨robot, wired, rfl⟩ := Option.map_eq_some_iff.mp mapped
  obtain ⟨sensing, sensed, composed⟩ := Option.bind_eq_some_iff.mp wired
  obtain ⟨firmware, built, looped⟩ := Option.bind_eq_some_iff.mp composed
  obtain ⟨control, -, supervised⟩ := Option.bind_eq_some_iff.mp built
  obtain ⟨supervisor, supervises, rfl⟩ := Option.map_eq_some_iff.mp supervised
  obtain rfl := Option.some.inj looped
  unfold InertialSensingImpl.construct at sensed
  unfold SafetySupervisorImpl.construct at supervises
  split at sensed
  · obtain rfl := Option.some.inj sensed
    split at supervises
    · obtain rfl := Option.some.inj supervises
      refine ⟨rfl, fun calibrating => ?_⟩
      cases calibrating
    · cases supervises
  · cases sensed

end Main
end InvertedPendulum.Application
