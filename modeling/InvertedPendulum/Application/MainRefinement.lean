import InvertedPendulum.Application.MainEvents
import InvertedPendulum.Application.CalibrationEvidence
import InvertedPendulum.Application.DriveSafety
import InvertedPendulum.Control.KeepingPace

namespace InvertedPendulum.Application
open Platform Motion Odometry Estimation Sensing Control Balance Safety Telemetry Link Cli Reactive
  Machine

namespace Firmware
variable {F S τ : Type}

/-- Two states of the firmware are alike when they differ at most in the moment and the calls of the
operation that has just ended. -/
def Alike (first second : Firmware F S τ) : Prop := ∀ moment, first.begin moment = second.begin moment

theorem Alike.refl (firmware : Firmware F S τ) : firmware.Alike firmware := fun _ => rfl

theorem begin_alike (firmware : Firmware F S τ) (moment : Moment F τ) :
    (firmware.begin moment).Alike firmware := fun _ => rfl

/-- What a state of the firmware knows of its moment. -/
def moment (firmware : Firmware F S τ) : Moment F τ :=
  ⟨firmware.control.peers.now, firmware.control.peers.chassis, firmware.supervisor.peers.sensing⟩

variable [FloatArithmetic F] [FloatRounding F] [ControlStrategy S F] [InertialSensing τ]

theorem Alike.step {first second : Firmware F S τ} (alike : first.Alike second)
    (event : Moment F τ × Operation F) : machine.step first event = machine.step second event :=
  congrArg (fun begun => begun.perform event.2) (alike event.1)

omit [FloatRounding F] [ControlStrategy S F] [InertialSensing τ] in
theorem decay_actuation (control : BalanceControlImpl F S (Hardware F))
    (actuation : MotionActuationImpl) (intervalSeconds : F) :
    { control with peers := { control.peers with actuation } }.decayUnlessCommanded intervalSeconds =
      { control.decayUnlessCommanded intervalSeconds with
        peers := { control.peers with actuation } } := by
  change (if ! control.cancelled ∧
    Clock.now control.peers - control.commandedAt ≤ control.config.commandTimeout then _ else _) = _
  unfold BalanceControlImpl.decayUnlessCommanded
  split <;> rfl

omit [FloatRounding F] [InertialSensing τ] in
/-- An outer iteration of control reads the moment of its peers and nothing of the motors. -/
theorem steer_actuation (control : BalanceControlImpl F S (Hardware F))
    (actuation : MotionActuationImpl) (interval : Duration) :
    { control with peers := { control.peers with actuation } }.steer interval =
      { control.steer interval with peers := { control.peers with actuation } } := by
  have decayed := decay_actuation control actuation (intervalSeconds interval)
  have same : (control.decayUnlessCommanded (intervalSeconds interval)).peers = control.peers := by
    unfold BalanceControlImpl.decayUnlessCommanded
    split <;> rfl
  unfold BalanceControlImpl.steer
  simp only [decayed, same]
  split <;> rfl

omit [InertialSensing τ] in
/-- An outer iteration leaves the motors alone. -/
theorem steer_motors (firmware : Firmware F S τ) (interval : Duration) :
    (firmware.withSupervisor (firmware.supervisor.steer interval)).motors = firmware.motors := by
  change (firmware.supervisor.steer interval).peers.actuation.motors = _
  unfold SafetySupervisorImpl.steer
  split
  · exact congrArg (fun hardware => hardware.actuation.motors)
      (steer_retains firmware.control interval).1
  · rfl

omit [InertialSensing τ] in
/-- An outer iteration does not depend on the calls before it in its event. -/
theorem steer_alike (firmware : Firmware F S τ) (interval : Duration) :
    (firmware.withSupervisor (firmware.supervisor.steer interval)).Alike
      ((firmware.begin firmware.moment).withSupervisor
        ((firmware.begin firmware.moment).supervisor.steer interval)) := by
  intro later
  have steered := steer_actuation firmware.control
    { firmware.actuation with motors := ⟨firmware.motors.last, []⟩ } interval
  have peers := (steer_retains firmware.control interval).1
  unfold SafetySupervisorImpl.steer
  by_cases armed : firmware.supervisor.mode = .armed
  · have begun : (firmware.begin firmware.moment).supervisor.mode = .armed := armed
    rw [if_pos armed, if_pos begun]
    change (firmware.withControl (firmware.control.steer interval)).begin later =
      (firmware.withControl ({ firmware.control with
        peers := { firmware.control.peers with
          actuation := { firmware.actuation with motors := ⟨firmware.motors.last, []⟩ } } }.steer
            interval)).begin later
    rw [steered]
    generalize firmware.control.steer interval = after at peers
    cases after
    cases peers
    rfl
  · have begun : ¬ (firmware.begin firmware.moment).supervisor.mode = .armed := armed
    rw [if_neg armed, if_neg begun]
    rfl

/-- A request to the supervisor is a row of its table. -/
theorem requested_outcome {before after : Firmware F S τ} {operation : Operation F}
    {request : Safety.Request F} (requested : operation.request? = some request)
    (performed : before.perform operation = some after) :
    before.supervisor.Outcome request after.supervisor := by
  rw [(perform_request requested performed).1]
  exact before.supervisor.perform_outcome request

/-- A state stands for the firmware of another up to the calls of its last operation, and its machine
follows each operation. -/
theorem Alike.operated {before state after : Firmware F S τ} (alike : before.Alike state)
    {moment : Moment F τ} {operation : Operation F}
    (performed : (before.begin moment).perform operation = some after) :
    ∃ next, machine.Reachable state next ∧ after.Alike next := by
  have stepped : machine.step before (moment, operation) = some after := performed
  rw [alike.step] at stepped
  exact ⟨after, .single stepped, .refl after⟩

/-- A balance iteration may be followed by an outer one in the same event. -/
theorem Alike.steered {before state : Firmware F S τ} (alike : before.Alike state)
    (moment : Moment F τ) (estimate : Estimate F) (interval outer : Duration) :
    let balanced := { before.begin moment with
      recorder := (before.begin moment).recorder.balance estimate interval }
    ∃ next, machine.Reachable state next ∧
      (balanced.withSupervisor (balanced.supervisor.steer outer)).Alike next := by
  intro balanced
  have stepped : machine.step before (moment, .balance estimate interval) = some balanced := rfl
  rw [alike.step] at stepped
  have steered : machine.step balanced (balanced.moment, .steer outer) =
      some ((balanced.begin balanced.moment).withSupervisor
        ((balanced.begin balanced.moment).supervisor.steer outer)) := rfl
  exact ⟨_, (Reachable.single stepped).trans (.single steered), steer_alike balanced outer⟩

/-- An event that makes at most one call is followed by at most one step. -/
theorem Alike.answered {before state after : Firmware F S τ} (alike : before.Alike state)
    {moment : Moment F τ} {operation : Option (Operation F)}
    (performed : operation.elim (some (before.begin moment)) (before.begin moment).perform =
      some after) :
    ∃ next, machine.Reachable state next ∧ after.Alike next := by
  cases operation with
  | none =>
      obtain rfl := Option.some.inj performed
      refine ⟨state, .refl machine state, ?_⟩
      exact fun later => (begin_alike before moment later).trans (alike later)
  | some operation => exact alike.operated performed

end Firmware

section Inputs
variable {F S C K : Type} [FloatArithmetic F] [FloatRounding F] [ControlStrategy S F]

/-- The terminal has read this command. -/
def typedCommand [TextInput F] (params : String) : Command → CliCommand F
  | .ping => .ping
  | .identify => .identify
  | .releaseBridges => .releaseBridges
  | .brake => .brake
  | .odometry => .odometry
  | .imu => .imu
  | .calibrate => .calibrate
  | .clearFault => .clearFault
  | .driverStatus => .driverStatus
  | .attitude => .attitude
  | .selectFilter => .selectFilter params
  | .loopTiming => .loopTiming params
  | .arm => .arm
  | .disarm => .disarm
  | .reportMode => .reportMode
  | .move => .move (readSetpoints params)
  | .strategy => .strategy params
  | .param => .param (if params.isEmpty then none else readParameter params)
  | .bluetooth => .bluetooth

/-- A typed line changes the firmware exactly as its command does. -/
theorem run_performs [TextInput F] {main next : Main F S C K} {command : Command} {params : String}
    {reply : Reply F} (ran : command.run main params = some (reply, next)) :
    ((typedCommand params command).operation? main.balanceControl).elim (some main.firmware)
      main.firmware.perform = some next.firmware := by
  cases command with
  | ping | identify | odometry | imu | driverStatus | attitude | reportMode | bluetooth |
    releaseBridges | brake | calibrate | clearFault | arm | disarm =>
      obtain ⟨-, rfl⟩ := Prod.mk.inj (Option.some.inj ran)
      rfl
  | selectFilter =>
      obtain rfl : (Cli.selectFilter main params).2 = next := congrArg Prod.snd (Option.some.inj ran)
      unfold Cli.selectFilter
      split
      · rfl
      · split <;> rfl
  | loopTiming =>
      obtain rfl : (Cli.loopTiming main params).2 = next := congrArg Prod.snd (Option.some.inj ran)
      unfold Cli.loopTiming
      split <;> rfl
  | move =>
      obtain rfl : (Cli.move main params).2 = next := congrArg Prod.snd (Option.some.inj ran)
      simp only [typedCommand, CliCommand.operation?, Cli.move]
      cases (readSetpoints params : Option (Setpoints F)) with
      | none => rfl
      | some setpoints => rfl
  | strategy =>
      obtain rfl : (Cli.strategy main params).2 = next := congrArg Prod.snd (Option.some.inj ran)
      simp only [typedCommand, CliCommand.operation?, Cli.strategy]
      split
      · rfl
      · split
        · rename_i unknown
          rw [unknown]
          rfl
        · rename_i index known
          rw [known]
          rfl
  | param =>
      have ran : Cli.param main params = some (reply, next) := ran
      unfold Cli.param at ran
      simp only [typedCommand, CliCommand.operation?]
      split at ran
      · rename_i bare
        obtain ⟨listed, -, both⟩ := Option.map_eq_some_iff.mp ran
        obtain ⟨-, rfl⟩ := Prod.mk.inj both
        rw [if_pos bare]
        rfl
      · rename_i named
        rw [if_neg named]
        split at ran
        · rename_i unread
          obtain ⟨-, rfl⟩ := Prod.mk.inj (Option.some.inj ran)
          rw [unread]
          rfl
        · rename_i index value read
          rw [read]
          obtain ⟨⟨accepted, control⟩, stored, told⟩ := Option.bind_eq_some_iff.mp ran
          have written : next = main.withFirmware (main.firmware.withControl control) := by
            cases accepted with
            | false => exact (congrArg Prod.snd (Option.some.inj told)).symm
            | true =>
                obtain ⟨descriptor, -, both⟩ := Option.bind_eq_some_iff.mp told
                exact (congrArg Prod.snd (Option.some.inj both)).symm
          rw [written]
          exact Option.map_eq_some_iff.mpr ⟨_, stored, rfl⟩

/-- A line of the terminal selects this filter. -/
def typedFilter (params : String) : Command → Option Filter
  | .selectFilter => parseFilter params
  | _ => none

/-- A typed line selects at most a filter, and of the loop it resets at most the statistics. -/
theorem run_selects [TextInput F] {main next : Main F S C K} {command : Command} {params : String}
    {reply : Reply F} (ran : command.run main params = some (reply, next)) :
    next.attitudeEstimation = (typedFilter params command).elim main.attitudeEstimation
        main.attitudeEstimation.select ∧
      next = { main with robot := { main.robot with
        peers := next.robot.peers
        statistics := next.robot.statistics } } := by
  cases command with
  | ping | identify | odometry | imu | driverStatus | attitude | reportMode | bluetooth |
    releaseBridges | brake | calibrate | clearFault | arm | disarm =>
      obtain ⟨-, rfl⟩ := Prod.mk.inj (Option.some.inj ran)
      exact ⟨rfl, rfl⟩
  | selectFilter =>
      obtain rfl : (Cli.selectFilter main params).2 = next := congrArg Prod.snd (Option.some.inj ran)
      unfold Cli.selectFilter typedFilter
      split
      · rename_i bare
        rw [String.isEmpty_iff.mp bare]
        exact ⟨rfl, rfl⟩
      · split
        · rename_i unknown
          rw [unknown]
          exact ⟨rfl, rfl⟩
        · rename_i filter known
          rw [known]
          exact ⟨rfl, rfl⟩
  | loopTiming =>
      obtain rfl : (Cli.loopTiming main params).2 = next := congrArg Prod.snd (Option.some.inj ran)
      unfold Cli.loopTiming
      split <;> exact ⟨rfl, rfl⟩
  | move =>
      obtain rfl : (Cli.move main params).2 = next := congrArg Prod.snd (Option.some.inj ran)
      unfold Cli.move
      split <;> exact ⟨rfl, rfl⟩
  | strategy =>
      obtain rfl : (Cli.strategy main params).2 = next := congrArg Prod.snd (Option.some.inj ran)
      unfold Cli.strategy
      split
      · exact ⟨rfl, rfl⟩
      · split <;> exact ⟨rfl, rfl⟩
  | param =>
      have ran : Cli.param main params = some (reply, next) := ran
      unfold Cli.param at ran
      split at ran
      · obtain ⟨listed, -, both⟩ := Option.map_eq_some_iff.mp ran
        obtain ⟨-, rfl⟩ := Prod.mk.inj both
        exact ⟨rfl, rfl⟩
      · split at ran
        · obtain ⟨-, rfl⟩ := Prod.mk.inj (Option.some.inj ran)
          exact ⟨rfl, rfl⟩
        · obtain ⟨⟨accepted, control⟩, -, told⟩ := Option.bind_eq_some_iff.mp ran
          cases accepted with
          | false =>
              obtain rfl := congrArg Prod.snd (Option.some.inj told)
              exact ⟨rfl, rfl⟩
          | true =>
              obtain ⟨descriptor, -, both⟩ := Option.bind_eq_some_iff.mp told
              obtain rfl := congrArg Prod.snd (Option.some.inj both)
              exact ⟨rfl, rfl⟩

variable {τ : Type} [InertialSensing τ] [FloatBits F] [FloatImage F]

omit [FloatArithmetic F] [FloatRounding F] [FloatBits F] [FloatImage F] in
/-- The terminal performs only what its line asks for. -/
theorem typedCommand_asks [TextInput F] {control : BalanceControlImpl F S (Hardware F)}
    {command : Command} {params : String} {operation : Operation F}
    (read : (typedCommand params command).operation? control = some operation) :
    (Main.Event.typed command params).Asks operation := by
  cases command with
  | ping | identify | odometry | imu | driverStatus | attitude | reportMode | bluetooth |
    selectFilter | loopTiming => cases read
  | releaseBridges | brake | calibrate | clearFault | arm | disarm =>
      obtain rfl := Option.some.inj read
      exact not_false
  | move | param =>
      obtain ⟨_, -, rfl⟩ := Option.map_eq_some_iff.mp read
      trivial
  | strategy =>
      simp only [typedCommand, CliCommand.operation?] at read
      split at read
      · cases read
      · obtain ⟨_, -, rfl⟩ := Option.map_eq_some_iff.mp read
        trivial

omit [FloatArithmetic F] [FloatRounding F] [FloatImage F] in
/-- The client performs only what its write asks for. -/
theorem input_asks {control : BalanceControlImpl F S (Hardware F)}
    {event : RobotControlService.Event} {inFlight : Bool} {operation : Operation F}
    (read : (event.input inFlight).operation? control = some operation)
    (remote : BleLink.Remote event) : (Main.Event.radio (.served event remote)).Asks operation := by
  cases event with
  | connected | attMtuChanged | tick | completed => cases read
  | disconnected => exact remote.elim
  | motionWritten =>
      obtain ⟨_, -, rfl⟩ := Option.map_eq_some_iff.mp read
      trivial
  | modeWritten =>
      obtain ⟨command, -, rfl⟩ := Option.map_eq_some_iff.mp read
      cases command <;> exact not_false
  | tuningWritten =>
      obtain ⟨request, -, rfl⟩ := Option.map_eq_some_iff.mp read
      cases request <;> trivial

/-- At most one operation takes the firmware from one state to the other, and it was asked for. -/
def Performs (asked : Operation F → Prop) (before after : Firmware F S τ) : Prop :=
  ∃ operation : Option (Operation F), (∀ made ∈ operation, asked made) ∧
    operation.elim (some before) before.perform = some after

/-- An event of the radio makes at most one call that can change the chain. -/
def radioOperation? (link : BleLink F (Firmware F S τ)) : BleLink.Event → Option (Operation F)
  | .stateChanged newState =>
      if newState = .standby ∧ link.connected then some .cancelMotion else none
  | .maxAttMtuSizeChanged _ => none
  | .served event _ =>
      (event.input link.service.tuning.inFlight).operation? link.service.peers.control

omit [FloatArithmetic F] [FloatRounding F] [InertialSensing τ] [FloatImage F] in
theorem radioOperation_asks {link : BleLink F (Firmware F S τ)} {event : BleLink.Event}
    {operation : Operation F} (read : radioOperation? link event = some operation) :
    (Main.Event.radio event).Asks operation := by
  cases event with
  | stateChanged newState =>
      obtain ⟨-, cancels⟩ := Option.ite_none_right_eq_some.mp read
      obtain rfl := Option.some.inj cancels
      exact not_false
  | maxAttMtuSizeChanged maxAttMtuSize => cases read
  | served event remote => exact input_asks read remote

/-- An event of the radio changes the firmware exactly as its call does. -/
theorem radio_operates {link after : BleLink F (Firmware F S τ)} {event : BleLink.Event}
    (performed : link.perform event = some after) :
    (radioOperation? link event).elim (some link.service.peers) link.service.peers.perform =
      some after.service.peers := by
  cases event with
  | stateChanged newState =>
      obtain rfl := Option.some.inj performed
      cases newState with
      | connected =>
          have answered : link.service.perform .connected = some link.service.connected := rfl
          exact RobotControlService.perform_input answered
      | standby =>
          have answered : link.service.perform .disconnected = some link.service.disconnected := rfl
          simp only [BleLink.stateChanged, radioOperation?]
          cases link.connected with
          | false => rfl
          | true => exact RobotControlService.perform_input answered
      | advertising => rfl
  | maxAttMtuSizeChanged maxAttMtuSize =>
      obtain rfl := Option.some.inj performed
      rfl
  | served event remote =>
      obtain ⟨service, served, rfl⟩ := Option.map_eq_some_iff.mp performed
      exact RobotControlService.perform_input served

end Inputs

namespace Main
variable {F S C K : Type} [FloatArithmetic F] [FloatRounding F] [FloatGeometry F] [FloatPi F]
  [FloatBits F] [FloatImage F] [TextInput F] [ControlStrategy S F] [PitchFilter C F]
  [PitchFilter K F]

/-- The chain runs a balance iteration. -/
def balanced (firmware : Firmware F S (Gyroscope F)) (estimate : Estimate F) (interval : Duration) :
    Firmware F S (Gyroscope F) :=
  { firmware with recorder := firmware.recorder.balance estimate interval }

/-- A sample leaves the chain alone, or it runs a balance iteration where it fills the divider, and at
most an outer one, which covers the time since the outer one before it. -/
inductive SampleRun (main next : Main F S C K) : Prop where
  | rested (moment : Moment F (Gyroscope F)) (same : next.firmware = main.firmware.begin moment)
      (kept : next.robot.previousOuter = main.robot.previousOuter)
      (early : main.robot.samplesSinceBalance + 1 < main.robot.samplesPerBalance)
  | balanced (moment : Moment F (Gyroscope F)) (estimate : Estimate F) (interval : Duration)
      (same : next.firmware = balanced (main.firmware.begin moment) estimate interval)
      (kept : next.robot.previousOuter = main.robot.previousOuter)
      (due : ¬ main.robot.samplesSinceBalance + 1 < main.robot.samplesPerBalance)
  | steered (moment : Moment F (Gyroscope F)) (estimate : Estimate F) (interval : Duration)
      (sampledAt : TimePoint)
      (same : next.firmware = (balanced (main.firmware.begin moment) estimate interval).withSupervisor
        ((balanced (main.firmware.begin moment) estimate interval).supervisor.steer
          (main.robot.outerInterval sampledAt)))
      (taken : next.robot.previousOuter = some sampledAt)
      (due : ¬ main.robot.samplesSinceBalance + 1 < main.robot.samplesPerBalance)

theorem sample_runs {main next : Main F S C K} {now : TimePoint} {sample : InertialSample F}
    (stepped : machine.step main (now, .sample sample) = some next) : SampleRun main next := by
  obtain ⟨robot, performed, rfl⟩ := Option.map_eq_some_iff.mp stepped
  obtain ⟨sensing, -, rfl⟩ := Option.map_eq_some_iff.mp performed
  let moment : Moment F (Gyroscope F) := ⟨now, main.wheelOdometry.chassis, ⟨sensing, now⟩⟩
  let sampled : Robot F S C K := (main.begin now).robot.withSensing sensing
  let measurement := sensing.latest now
  let estimate := (main.attitudeEstimation.update measurement).1
  let interval := main.robot.balanceInterval measurement.sampledAt
  have loop := sampled.onMeasurement_eq measurement
  have balanced := sampled.balanced_fields measurement
  by_cases early : sampled.samplesSinceBalance + 1 < sampled.samplesPerBalance
  · rw [if_pos early] at loop
    have firmware := congrArg (fun robot : Robot F S C K => robot.peers.firmware) loop
    have outer := congrArg (fun robot : Robot F S C K => robot.previousOuter) loop
    exact .rested moment firmware outer early
  · rw [if_neg early, balanced] at loop
    by_cases soon : sampled.balancesSinceOuter + 1 < sampled.balancesPerOuter
    · rw [if_pos soon] at loop
      have firmware := congrArg (fun robot : Robot F S C K => robot.peers.firmware) loop
      have outer := congrArg (fun robot : Robot F S C K => robot.previousOuter) loop
      exact .balanced moment estimate interval firmware outer early
    · rw [if_neg soon, ControlLoopImpl.runOuter_fields] at loop
      have firmware := congrArg (fun robot : Robot F S C K => robot.peers.firmware) loop
      have outer := congrArg (fun robot : Robot F S C K => robot.previousOuter) loop
      exact .steered moment estimate interval measurement.sampledAt firmware outer early

/-- An event makes at most one call that can change the chain, where it is no sample. -/
def Event.operation? (main : Main F S C K) : Event F → Option (Operation F)
  | .sample _ | .wheels _ _ | .radioReady => none
  | .supervise => some .supervise
  | .driverFault => some .driverFault
  | .configured verified => some (.configured verified)
  | .typed command params => (typedCommand params command).operation? main.balanceControl
  | .radio event =>
      main.bleEndpoint.link.bind fun link => radioOperation? (link.attend main.firmware) event

omit [FloatArithmetic F] [FloatRounding F] [FloatGeometry F] [FloatPi F] [FloatImage F]
  [PitchFilter C F] [PitchFilter K F] in
theorem operation_asks {main : Main F S C K} {event : Event F} {operation : Operation F}
    (read : event.operation? main = some operation) : event.Asks operation := by
  cases event with
  | sample | wheels | radioReady => cases read
  | supervise | driverFault | configured =>
      obtain rfl := Option.some.inj read
      exact not_false
  | typed command params => exact typedCommand_asks read
  | radio event =>
      obtain ⟨link, -, read⟩ := Option.bind_eq_some_iff.mp read
      exact radioOperation_asks read

/-- Every event but a sample changes the firmware exactly as its call does. -/
theorem perform_operates {main next : Main F S C K} {now : TimePoint} {event : Event F}
    (unsampled : ∀ sample, event ≠ .sample sample)
    (performed : main.perform now event = some next) :
    (event.operation? main).elim (some main.firmware) main.firmware.perform =
      some next.firmware := by
  have once (operation : Operation F)
      (mapped : (main.firmware.perform operation).map main.withFirmware = some next) :
      main.firmware.perform operation = some next.firmware := by
    obtain ⟨firmware, answered, rfl⟩ := Option.map_eq_some_iff.mp mapped
    exact answered
  cases event with
  | sample sample => exact absurd rfl (unsampled sample)
  | wheels left right =>
      obtain ⟨wheelOdometry, -, rfl⟩ := Option.map_eq_some_iff.mp performed
      rfl
  | supervise => exact once .supervise performed
  | driverFault => exact once .driverFault performed
  | configured verified => exact once (.configured verified) performed
  | typed command params =>
      obtain ⟨⟨reply, after⟩, ran, rfl⟩ := Option.map_eq_some_iff.mp performed
      exact run_performs ran
  | radioReady =>
      obtain rfl := Option.some.inj performed
      rfl
  | radio event =>
      obtain ⟨link, paired, mapped⟩ := Option.bind_eq_some_iff.mp performed
      obtain ⟨after, answered, rfl⟩ := Option.map_eq_some_iff.mp mapped
      have operated := radio_operates answered
      simp only [Event.operation?, paired, Option.bind_some]
      exact operated

/-- Every event but a sample performs at most one operation. -/
theorem perform_performs {main next : Main F S C K} {now : TimePoint} {event : Event F}
    (unsampled : ∀ sample, event ≠ .sample sample)
    (performed : main.perform now event = some next) :
    Performs event.Asks main.firmware next.firmware :=
  ⟨event.operation? main, fun _ => operation_asks, perform_operates unsampled performed⟩

/-- An event selects a filter when it is a line of the terminal that does. -/
def Event.filter : Event F → Option Filter
  | .typed command params => typedFilter params command
  | _ => none

/-- Every event but a sample reaches the estimation only by a selection, and of the loop it resets at
most the statistics. -/
theorem other_loops {main next : Main F S C K} {now : TimePoint} {event : Event F}
    (unsampled : ∀ sample, event ≠ .sample sample)
    (stepped : machine.step main (now, event) = some next) :
    next.attitudeEstimation =
        event.filter.elim main.attitudeEstimation main.attitudeEstimation.select ∧
      next.robot =
        { main.robot with peers := next.robot.peers, statistics := next.robot.statistics } := by
  have operated (operation : Operation F) (mapped : ((main.begin now).firmware.perform
      operation).map (main.begin now).withFirmware = some next) :
      next.attitudeEstimation = main.attitudeEstimation ∧ next.robot =
        { main.robot with peers := next.robot.peers, statistics := next.robot.statistics } := by
    obtain ⟨firmware, -, rfl⟩ := Option.map_eq_some_iff.mp mapped
    exact ⟨rfl, rfl⟩
  cases event with
  | sample sample => exact absurd rfl (unsampled sample)
  | wheels left right =>
      obtain ⟨wheelOdometry, -, rfl⟩ := Option.map_eq_some_iff.mp stepped
      exact ⟨rfl, rfl⟩
  | supervise => exact operated .supervise stepped
  | driverFault => exact operated .driverFault stepped
  | configured verified => exact operated (.configured verified) stepped
  | typed command params =>
      obtain ⟨⟨reply, after⟩, ran, rfl⟩ := Option.map_eq_some_iff.mp stepped
      obtain ⟨selected, looped⟩ := run_selects ran
      exact ⟨selected, congrArg Main.robot looped⟩
  | radioReady =>
      obtain rfl := Option.some.inj stepped
      exact ⟨rfl, rfl⟩
  | radio event =>
      obtain ⟨link, -, mapped⟩ := Option.bind_eq_some_iff.mp stepped
      obtain ⟨after, -, rfl⟩ := Option.map_eq_some_iff.mp mapped
      exact ⟨rfl, rfl⟩

/-- The radio alone reaches the endpoint. -/
theorem step_endpoint {main next : Main F S C K} {now : TimePoint} {event : Event F}
    (silent : event ≠ .radioReady) (unheard : ∀ heard, event ≠ .radio heard)
    (stepped : machine.step main (now, event) = some next) :
    next.bleEndpoint = main.bleEndpoint := by
  have operated (operation : Operation F) (mapped : ((main.begin now).firmware.perform
      operation).map (main.begin now).withFirmware = some next) :
      next.bleEndpoint = main.bleEndpoint := by
    obtain ⟨firmware, -, rfl⟩ := Option.map_eq_some_iff.mp mapped
    rfl
  cases event with
  | sample sample =>
      obtain ⟨robot, -, rfl⟩ := Option.map_eq_some_iff.mp stepped
      rfl
  | wheels left right =>
      obtain ⟨wheelOdometry, -, rfl⟩ := Option.map_eq_some_iff.mp stepped
      rfl
  | supervise => exact operated .supervise stepped
  | driverFault => exact operated .driverFault stepped
  | configured verified => exact operated (.configured verified) stepped
  | typed command params =>
      obtain ⟨⟨reply, after⟩, ran, rfl⟩ := Option.map_eq_some_iff.mp stepped
      have kept := congrArg Main.bleEndpoint (run_selects ran).2
      exact kept
  | radioReady => exact absurd rfl silent
  | radio heard => exact absurd rfl (unheard heard)

/-- The machine of the firmware follows every event, up to the calls of the last operation. -/
theorem firmware_simulates : Simulates Firmware.machine (machine : Machine (Main F S C K) _)
    fun main firmware => main.firmware.Alike firmware := by
  intro main state event next alike stepped
  obtain ⟨now, event⟩ := event
  show ∃ later, Firmware.machine.Reachable state later ∧ next.firmware.Alike later
  cases sampled : event with
  | sample sample =>
      rw [sampled] at stepped
      cases sample_runs stepped with
      | rested moment same =>
          rw [same]
          exact ⟨state, .refl _ state, fun later => alike later⟩
      | balanced moment estimate interval same =>
          rw [same]
          have performed : (main.firmware.begin moment).perform (.balance estimate interval) =
              some (balanced (main.firmware.begin moment) estimate interval) := rfl
          exact alike.operated performed
      | steered moment estimate interval sampledAt same =>
          rw [same]
          exact alike.steered moment estimate interval _
  | wheels | supervise | driverFault | configured | typed | radioReady | radio =>
      obtain ⟨operation, -, performed⟩ := perform_performs (by simp [sampled]) stepped
      exact alike.answered performed

omit [FloatRounding F] [ControlStrategy S F] [FloatGeometry F] [FloatPi F] [FloatBits F]
  [FloatImage F] [TextInput F] [PitchFilter C F] [PitchFilter K F] in
theorem construct_wires {fullScale : DutyCycle} {decay : Decay}
    {sensingConfig : InertialSensingImpl.Config F} {estimationConfig : AttitudeEstimationImpl.Config F}
    {complementary : C} {kalman : K} {strategies : List S}
    {odometryConfig : WheelOdometryImpl.Config F} {balanceConfig : BalanceControlImpl.Config F}
    {safetyConfig : SafetySupervisorImpl.Config F} {identityAddress : MacAddress} {now : TimePoint}
    {start : Main F S C K}
    (constructed : construct fullScale decay sensingConfig estimationConfig complementary kalman
      strategies odometryConfig balanceConfig safetyConfig identityAddress now = some start) :
    ∃ moment, Firmware.construct fullScale decay strategies moment balanceConfig safetyConfig =
      some start.firmware := by
  obtain ⟨wheelOdometry, -, mapped⟩ := Option.bind_eq_some_iff.mp constructed
  obtain ⟨robot, wired, rfl⟩ := Option.map_eq_some_iff.mp mapped
  obtain ⟨sensing, -, composed⟩ := Option.bind_eq_some_iff.mp wired
  obtain ⟨firmware, built, looped⟩ := Option.bind_eq_some_iff.mp composed
  obtain rfl := Option.some.inj looped
  exact ⟨_, built⟩

/-- Where the firmware started in agreement, every reachable state is in agreement. -/
theorem reachable_coherent {start main : Main F S C K} (initially : start.firmware.Coherent none)
    (reached : machine.Reachable start main) : ∃ caller, main.firmware.Coherent caller := by
  obtain ⟨firmware, follows, alike⟩ := firmware_simulates.reachable (.refl start.firmware) reached
  obtain ⟨caller, coherent⟩ := Firmware.reachable_coherent initially follows
  have begun := coherent.begin main.firmware.moment
  rw [← alike main.firmware.moment] at begun
  exact ⟨caller, begun.engaged, begun.ready, begun.rested, begun.gated, begun.released,
    begun.configuring⟩

/-- A call that maps an effort comes from an armed balance iteration on the estimate that the
supervisor has just received, valid and within the threshold, with a driver that permits it. -/
def Justified (main next : Main F S C K) : Prop :=
  main.supervisor.mode = .armed ∧ next.supervisor.latest.valid = true ∧
    ¬ main.supervisor.config.fallThreshold < fabs next.supervisor.latest.pitch ∧
    main.motionActuation.state = .ready ∧ main.motionActuation.fault = .none

/-- A call that maps an effort while a sample is handled is justified. -/
theorem sample_justified {main next : Main F S C K} {caller : Option (Operation F)}
    (coherent : main.firmware.Coherent caller) {now : TimePoint} {sample : InertialSample F}
    (stepped : machine.step main (now, .sample sample) = some next) {call : DriveCall}
    (called : call ∈ next.firmware.motors.calls) (site : call.site = .apply) :
    Justified main next := by
  have balances (moment : Moment F (Gyroscope F)) (estimate : Estimate F) (interval : Duration)
      (called : call ∈ (balanced (main.firmware.begin moment) estimate interval).motors.calls) :
      main.supervisor.mode = .armed ∧ estimate.valid = true ∧
        ¬ main.supervisor.config.fallThreshold < fabs estimate.pitch ∧
        main.motionActuation.drivePermitted = true := by
    have performed : (main.firmware.begin moment).perform (.balance estimate interval) =
        some (balanced (main.firmware.begin moment) estimate interval) := rfl
    have step := Firmware.perform_driveStep (coherent.begin moment) performed
    rcases step.called rfl called with rfl | ⟨rfl, -⟩ |
      ⟨_, _, same, -, armed, valid, within, permitted⟩
    · cases site
    · cases site
    · obtain ⟨rfl, rfl⟩ := Operation.balance.inj same
      exact ⟨armed, valid, within, permitted⟩
  have latest (moment : Moment F (Gyroscope F)) (estimate : Estimate F) (interval : Duration) :
      (balanced (main.firmware.begin moment) estimate interval).supervisor.latest = estimate :=
    ((main.firmware.begin moment).supervisor.balance_outcome estimate interval).latest
  have supervised {firmware : Firmware F S (Gyroscope F)} (same : next.firmware = firmware) :
      next.supervisor = firmware.supervisor := congrArg Firmware.supervisor same
  cases sample_runs stepped with
  | rested moment same =>
      rw [same] at called
      cases called
  | balanced moment estimate interval same =>
      rw [same] at called
      obtain ⟨armed, valid, within, permitted⟩ := balances moment estimate interval called
      refine ⟨armed, ?_, ?_, MotionActuationImpl.drivePermitted_iff.mp permitted⟩
      · rw [supervised same, latest]
        exact valid
      · rw [supervised same, latest]
        exact within
  | steered moment estimate interval sampledAt same =>
      rw [same, Firmware.steer_motors] at called
      obtain ⟨armed, valid, within, permitted⟩ := balances moment estimate interval called
      have received : next.supervisor.latest = estimate := by
        rw [supervised same]
        exact (steer_continues _ _).2.trans (latest moment estimate interval)
      rw [Justified, received]
      exact ⟨armed, valid, within, MotionActuationImpl.drivePermitted_iff.mp permitted⟩

/-- Every other event maps no effort. -/
theorem other_unmapped {main next : Main F S C K} {caller : Option (Operation F)}
    (coherent : main.firmware.Coherent caller) {now : TimePoint} {event : Event F}
    (unsampled : ∀ sample, event ≠ .sample sample)
    (stepped : machine.step main (now, event) = some next) {call : DriveCall}
    (called : call ∈ next.firmware.motors.calls) : call.site ≠ .apply := by
  obtain ⟨operation, asked, performed⟩ := perform_performs unsampled stepped
  cases operation with
  | none =>
      have same := Option.some.inj performed
      rw [← same] at called
      cases called
  | some operation =>
      have step := Firmware.perform_driveStep (coherent.begin _) performed
      rcases step.called rfl called with rfl | ⟨rfl, -⟩ | ⟨_, _, rfl, -⟩
      · intro site
        cases site
      · intro site
        cases site
      · exact (asked _ rfl).elim

/-- The drive of the whole application is safe in every run from here. -/
structure DriveSafe (start : Main F S C K) : Prop where
  engaged : ∀ main, machine.Reachable start main →
    (main.balanceControl.engaged = true ↔ main.supervisor.mode = .armed)
  disarmed : ∀ main, machine.Reachable start main → main.supervisor.mode ≠ .armed →
    main.motionActuation.motors.last = MotionActuationImpl.released ∨
      main.motionActuation.motors.last =
        MotionActuationImpl.braked main.motionActuation.fullScale
  justified : ∀ main now event next, machine.Reachable start main →
    machine.step main (now, event) = some next →
    ∀ call ∈ next.firmware.motors.calls, call.site = .apply →
      (∃ sample, event = .sample sample) ∧ Justified main next

/-- Whatever the sensor, the timers, the driver, the terminal and the radio do, in any order, the drive
is safe. -/
theorem application_drive_safe {fullScale : DutyCycle} {decay : Decay}
    {sensingConfig : InertialSensingImpl.Config F} {estimationConfig : AttitudeEstimationImpl.Config F}
    {complementary : C} {kalman : K} {strategies : List S}
    {odometryConfig : WheelOdometryImpl.Config F} {balanceConfig : BalanceControlImpl.Config F}
    {safetyConfig : SafetySupervisorImpl.Config F} {identityAddress : MacAddress} {now : TimePoint}
    {start : Main F S C K}
    (constructed : construct fullScale decay sensingConfig estimationConfig complementary kalman
      strategies odometryConfig balanceConfig safetyConfig identityAddress now = some start) :
    start.DriveSafe := by
  obtain ⟨moment, built⟩ := construct_wires constructed
  have initially := (Firmware.construct_starts built).1
  refine ⟨?_, ?_, ?_⟩
  · intro main reached
    obtain ⟨caller, coherent⟩ := reachable_coherent initially reached
    exact coherent.engaged
  · intro main reached disarmed
    obtain ⟨caller, coherent⟩ := reachable_coherent initially reached
    exact (coherent.released disarmed).imp_right And.left
  · intro main now event next reached stepped call called site
    obtain ⟨caller, coherent⟩ := reachable_coherent initially reached
    by_cases sampled : ∃ sample, event = .sample sample
    · obtain ⟨sample, rfl⟩ := sampled
      exact ⟨⟨sample, rfl⟩, sample_justified coherent stepped called site⟩
    · rw [not_exists] at sampled
      exact absurd site (other_unmapped coherent sampled stepped called)

section Bench
open Bench

/-- The application runs the strategies of the host. -/
abbrev Hosted := Main Extended (HostedStrategy (GainRow Extended) (VelocityPid Extended) Extended)
  (AccelerometerFilter Extended) (AccelerometerFilter Extended)

/-- The application of `Main.cpp` right after it is powered. -/
def powered : Option Hosted :=
  construct 1000 .slow .default .default ⟨0⟩ ⟨0⟩ (hosted .default .default) .default .default .default
    (Vector.replicate 6 0) 0

theorem powered_starts : ∃ start, powered = some start :=
  Option.isSome_iff_exists.mp (by decide +kernel)

/-- The powered application has a safe drive. -/
theorem powered_application_drive_safe : ∃ start, powered = some start ∧ start.DriveSafe := by
  obtain ⟨start, constructed⟩ := powered_starts
  exact ⟨start, constructed, application_drive_safe constructed⟩

end Bench
end Main
end InvertedPendulum.Application
