import InvertedPendulum.Application.MainRefinement
import InvertedPendulum.Application.TelemetryTruth
import InvertedPendulum.Link.FrameCodec

namespace InvertedPendulum.Application
open Platform Motion Odometry Estimation Sensing Control Balance Safety Telemetry Link Cli Reactive
  Machine Wire

namespace Firmware
variable {F S τ : Type} [FloatArithmetic F]

/-- The last sample of the recorder is true of the estimate that the supervisor has last received. -/
structure Recorded (firmware : Firmware F S τ) : Prop where
  pitch : firmware.recorder.latest.pitch = firmware.supervisor.latest.pitch
  pitchRate : firmware.recorder.latest.pitchRate = firmware.supervisor.latest.pitchRate
  cause : firmware.recorder.latest.cause ≠ .none ↔ firmware.recorder.latest.mode = .fault
  armed : firmware.recorder.latest.mode = .armed → firmware.supervisor.latest.valid = true ∧
    ¬ firmware.supervisor.config.fallThreshold < fabs firmware.recorder.latest.pitch
  disarmed : firmware.recorder.latest.mode ≠ .armed →
    firmware.recorder.latest.effortLeft = 0 ∧ firmware.recorder.latest.effortRight = 0

/-- A firmware with the same sample and the same estimate is recorded alike. -/
theorem Recorded.kept {before after : Firmware F S τ} (recorded : before.Recorded)
    (sample : after.recorder.latest = before.recorder.latest)
    (estimate : after.supervisor.latest = before.supervisor.latest)
    (config : after.supervisor.config = before.supervisor.config) : after.Recorded := by
  refine ⟨?_, ?_, ?_, ?_, ?_⟩
  · rw [sample, estimate]
    exact recorded.pitch
  · rw [sample, estimate]
    exact recorded.pitchRate
  · rw [sample]
    exact recorded.cause
  · rw [sample, estimate, config]
    exact recorded.armed
  · rw [sample]
    exact recorded.disarmed

variable [FloatRounding F] [ControlStrategy S F] [InertialSensing τ]

/-- Only a balance iteration records a sample and brings an estimate. -/
theorem perform_records {before after : Firmware F S τ} {operation : Operation F}
    (quiet : ∀ estimate interval, operation ≠ .balance estimate interval)
    (performed : before.perform operation = some after) :
    after.recorder.latest = before.recorder.latest ∧
      after.supervisor.latest = before.supervisor.latest ∧
      after.supervisor.config = before.supervisor.config := by
  cases operation with
  | balance estimate interval => exact absurd rfl (quiet estimate interval)
  | steer | supervise | arm | disarm | clearFault | calibrate =>
      have outcome := requested_outcome rfl performed
      have latest := outcome.latest
      have config := outcome.config.1
      obtain rfl := Option.some.inj performed
      exact ⟨rfl, latest, config⟩
  | move | cancelMotion | select | tristate | brake | driverFault =>
      obtain rfl := Option.some.inj performed
      exact ⟨rfl, rfl, rfl⟩
  | setParameter index value =>
      obtain ⟨written, -, rfl⟩ := Option.map_eq_some_iff.mp performed
      exact ⟨rfl, rfl, rfl⟩
  | configured verified =>
      obtain ⟨-, answered⟩ := Option.ite_none_right_eq_some.mp performed
      obtain rfl := Option.some.inj answered
      exact ⟨rfl, rfl, rfl⟩

/-- A balance iteration records the estimate that it brings. -/
theorem balance_records {before after : Firmware F S τ} {caller : Option (Operation F)}
    {estimate : Estimate F} {interval : Duration} (coherent : before.Coherent caller)
    (quiet : before.motors.calls = []) (formed : before.supervisor.WellFormed)
    (performed : before.perform (.balance estimate interval) = some after) : after.Recorded := by
  obtain ⟨mode, cause, effortLeft, effortRight⟩ := sampled performed
  have outcome := requested_outcome rfl performed
  have agreed := perform_coherent coherent quiet performed
  have latest : after.supervisor.latest = estimate := outcome.latest
  have recorded : after.recorder.latest.pitch = estimate.pitch ∧
      after.recorder.latest.pitchRate = estimate.pitchRate := by
    obtain rfl := Option.some.inj performed
    exact ⟨rfl, rfl⟩
  refine ⟨?_, ?_, ?_, ?_, ?_⟩
  · rw [latest]
    exact recorded.1
  · rw [latest]
    exact recorded.2
  · rw [mode, cause]
    exact (outcome.wellFormed formed).cause.symm
  · intro armed
    obtain ⟨valid, within, -⟩ := balanced_drive outcome coherent (mode.symm.trans armed)
    rw [latest, recorded.1, outcome.config.1]
    exact ⟨valid, within⟩
  · intro disarmed
    rw [mode] at disarmed
    have rested : after.control.applied = noEffort := (Sound.disarmed agreed disarmed).2
    rw [effortLeft, effortRight, rested]
    exact ⟨rfl, rfl⟩

/-- Every step keeps the last sample true. -/
theorem recorded_kept (state : Firmware F S τ) (event : Moment F τ × Operation F)
    (next : Firmware F S τ)
    (invariant : (∃ caller, state.Coherent caller) ∧ state.supervisor.WellFormed ∧ state.Recorded)
    (stepped : machine.step state event = some next) :
    (∃ caller, next.Coherent caller) ∧ next.supervisor.WellFormed ∧ next.Recorded := by
  obtain ⟨⟨caller, coherent⟩, formed, recorded⟩ := invariant
  obtain ⟨moment, operation⟩ := event
  have performed : (state.begin moment).perform operation = some next := stepped
  have agreed := perform_coherent (coherent.begin moment) rfl performed
  have kept := supervised_kept _ state (moment, operation) next ⟨formed, rfl⟩ stepped
  refine ⟨⟨_, agreed⟩, kept.1, ?_⟩
  by_cases balances : ∃ estimate interval, operation = .balance estimate interval
  · obtain ⟨estimate, interval, rfl⟩ := balances
    have began : (state.begin moment).supervisor.WellFormed :=
      ⟨formed.cause, formed.limit, formed.count⟩
    exact balance_records (coherent.begin moment) rfl began performed
  · simp only [not_exists] at balances
    obtain ⟨sample, estimate, config⟩ := perform_records balances performed
    exact recorded.kept sample estimate config

omit [FloatRounding F] [ControlStrategy S F] [InertialSensing τ] in
/-- The first sample of the recorder is true of the first estimate of the supervisor. -/
theorem construct_recorded {fullScale : DutyCycle} {decay : Decay} {strategies : List S}
    {moment : Moment F τ} {balanceConfig : BalanceControlImpl.Config F}
    {safetyConfig : SafetySupervisorImpl.Config F} {start : Firmware F S τ}
    (constructed : construct fullScale decay strategies moment balanceConfig safetyConfig =
      some start) : start.Recorded := by
  obtain ⟨control, -, supervised⟩ := Option.bind_eq_some_iff.mp constructed
  obtain ⟨supervisor, supervises, rfl⟩ := Option.map_eq_some_iff.mp supervised
  have unfed : supervisor.latest = AttitudeEstimationImpl.noEstimate := by
    unfold SafetySupervisorImpl.construct at supervises
    split at supervises
    · obtain rfl := Option.some.inj supervises
      rfl
    · cases supervises
  refine ⟨?_, ?_, ?_, ?_, ?_⟩
  · exact (congrArg Estimate.pitch unfed).symm
  · exact (congrArg Estimate.pitchRate unfed).symm
  · exact iff_of_false (fun cause => cause rfl) nofun
  · exact nofun
  · exact fun _ => ⟨rfl, rfl⟩

end Firmware
namespace Firmware
variable {F S τ : Type} [FloatArithmetic F]

/-- A firmware is recorded like one that it is alike to. -/
theorem Recorded.alike {first second : Firmware F S τ} (recorded : second.Recorded)
    (alike : first.Alike second) : first.Recorded := by
  have same := alike first.moment
  refine recorded.kept ?_ ?_ ?_
  · exact congrArg (fun firmware => firmware.recorder.latest) same
  · exact congrArg (fun firmware => firmware.supervisor.latest) same
  · exact congrArg (fun firmware => firmware.supervisor.config) same

end Firmware

section Telemetry
variable {F σ : Type} [SafetySupervisor σ] [OperatedControl σ F] [TelemetrySource σ F] [FloatBits F]
  [FloatImage F]

open RobotControlService

omit [OperatedControl σ F] [FloatBits F] [TelemetrySource σ F] [FloatImage F] in
/-- Publishing the mode leaves the telemetry, its unit of transfer and the peers alone. -/
theorem publishMode_telemetry (service : RobotControlService F σ) :
    service.publishMode.telemetryValue = service.telemetryValue ∧
      service.publishMode.fits telemetrySize = service.fits telemetrySize ∧
      service.publishMode.peers = service.peers := by
  obtain ⟨mode, publishedMode, published⟩ := publishMode_effect service
  rw [published]
  exact ⟨rfl, rfl, rfl⟩

omit [OperatedControl σ F] [FloatBits F] in
/-- A tick hands the frame of the latest sample over where the last one is out and this one fits. -/
theorem tick_hands (service : RobotControlService F σ)
    (free : service.telemetryValue.inFlight = false) (fit : service.fits telemetrySize = true) :
    ∃ after, service.tick = some after ∧ after.peers = service.peers ∧
      after.telemetryValue.outstanding = service.telemetryValue.outstanding ++
        [⟨service.telemetryValue.handed, frame (TelemetrySource.latest service.peers)⟩] := by
  obtain ⟨same, size, peers⟩ := publishMode_telemetry service
  have freed : service.publishMode.telemetryValue.inFlight = false := by rw [same, free]
  obtain ⟨buffer, framed, published⟩ := publishTelemetry_frame freed (size.trans fit)
  refine ⟨_, published, peers, ?_⟩
  have whole : buffer.toList.take telemetrySize = frame (TelemetrySource.latest service.peers) := by
    rw [List.take_of_length_le (by rw [Vector.length_toList]), framed, peers]
  simp only [Channel.hand, Channel.front, whole, same]

/-- An update of the telemetry that an event adds is the frame of the latest sample, on a tick. -/
theorem perform_telemetry {service after : RobotControlService F σ} {event : Event}
    (performed : service.perform event = some after) {update : Update UInt8}
    (handed : update ∈ after.telemetryValue.outstanding)
    (fresh : update ∉ service.telemetryValue.outstanding) :
    event = .tick ∧ update.bytes = frame (TelemetrySource.latest after.peers) := by
  cases perform_performed performed with
  | connected =>
      rw [(publishMode_telemetry _).1] at handed
      exact absurd handed fresh
  | commanded command =>
      obtain ⟨peers, calls, lastOutcome, commanded⟩ := service.commanded_effect command
      rw [(publishMode_telemetry _).1, commanded] at handed
      exact absurd handed fresh
  | unsampled =>
      rw [(publishMode_telemetry _).1] at handed
      exact absurd handed fresh
  | disconnected | attMtuChanged | moved | uncommanded | untuned | tuned => exact absurd handed fresh
  | sampled ticking free fit buffer =>
      obtain ⟨after, ticked, peers, outstanding⟩ := tick_hands service free fit
      obtain ⟨-, answered⟩ := Option.ite_none_right_eq_some.mp performed
      obtain rfl := Option.some.inj (ticked.symm.trans answered)
      rw [outstanding] at handed
      rw [peers]
      rcases List.mem_append.mp handed with old | new
      · exact absurd old fresh
      · rw [List.mem_singleton.mp new]
        exact ⟨rfl, rfl⟩
  | completed group serial completed =>
      cases group with
      | mode | tuning =>
          obtain ⟨_, -, rfl⟩ := Option.map_eq_some_iff.mp completed
          exact absurd handed fresh
      | telemetry =>
          obtain ⟨channel, own, rfl⟩ := Option.map_eq_some_iff.mp completed
          unfold Channel.complete at own
          obtain ⟨-, same⟩ := Option.ite_none_right_eq_some.mp own
          obtain rfl := Option.some.inj same
          exact absurd (List.mem_filter.mp handed).1 fresh

omit [TelemetrySource σ F] [FloatBits F] [FloatImage F] in
/-- The stack notifies the link of a new state without an update of the telemetry. -/
theorem stateChanged_telemetry (link : BleLink F σ)
    (newState : GapPeripheralState) :
    (link.stateChanged newState).service.telemetryValue.outstanding =
      link.service.telemetryValue.outstanding := by
  cases newState with
  | connected => exact congrArg Channel.outstanding (publishMode_telemetry _).1
  | advertising => rfl
  | standby =>
      unfold BleLink.stateChanged
      cases link.connected <;> rfl

/-- An update of the telemetry that the link adds is the frame of the latest sample, on a tick. -/
theorem link_telemetry {link after : BleLink F σ} {event : BleLink.Event}
    (performed : link.perform event = some after) {update : Update UInt8}
    (handed : update ∈ after.service.telemetryValue.outstanding)
    (fresh : update ∉ link.service.telemetryValue.outstanding) :
    (∃ remote, event = .served .tick remote) ∧
      update.bytes = frame (TelemetrySource.latest after.service.peers) := by
  cases event with
  | stateChanged newState =>
      obtain rfl := Option.some.inj performed
      rw [stateChanged_telemetry] at handed
      exact absurd handed fresh
  | maxAttMtuSizeChanged maxAttMtuSize =>
      obtain rfl := Option.some.inj performed
      exact absurd handed fresh
  | served event remote =>
      obtain ⟨service, answered, rfl⟩ := Option.map_eq_some_iff.mp performed
      obtain ⟨rfl, framed⟩ := perform_telemetry answered handed fresh
      exact ⟨⟨remote, rfl⟩, framed⟩

end Telemetry

namespace Firmware
variable {F S τ : Type} [FloatArithmetic F] [FloatRounding F] [ControlStrategy S F]
  [InertialSensing τ]

omit [InertialSensing τ] in
/-- An outer iteration drives nothing else. -/
theorem Drives.steered {firmware : Firmware F S τ} (drives : firmware.Drives) (interval : Duration) :
    (firmware.withSupervisor (firmware.supervisor.steer interval)).Drives := by
  have kept := steer_retains firmware.control interval
  have same : (firmware.supervisor.steer interval).peers.control.applied = firmware.control.applied ∧
      (firmware.supervisor.steer interval).peers.actuation = firmware.actuation := by
    unfold SafetySupervisorImpl.steer
    split
    · exact ⟨kept.2, congrArg Hardware.actuation kept.1⟩
    · exact ⟨rfl, rfl⟩
  obtain ⟨applied, actuation⟩ := same
  have motors : (firmware.withSupervisor (firmware.supervisor.steer interval)).motors =
      firmware.motors := congrArg MotionActuationImpl.motors actuation
  refine ⟨applied.trans drives.applied, ?_, ?_, ?_⟩
  · rw [motors]
    exact drives.called
  · rw [motors, drives.left, ← actuation]
    rfl
  · rw [motors, drives.right, ← actuation]
    rfl

end Firmware

namespace Main
variable {F S C K : Type}

/-- These updates of the telemetry are on the air. -/
def onAir (main : Main F S C K) : List (Update UInt8) :=
  match main.bleEndpoint.link with
  | some link => link.service.telemetryValue.outstanding
  | none => []

variable [FloatArithmetic F] [FloatRounding F] [FloatGeometry F] [FloatPi F] [FloatBits F]
  [FloatImage F] [TextInput F] [ControlStrategy S F] [PitchFilter C F] [PitchFilter K F]
  {main next : Main F S C K} {now : TimePoint}

/-- An update that a step brings on the air is the frame of the latest sample, on a tick of the
radio. -/
theorem step_broadcasts {event : Event F} (stepped : machine.step main (now, event) = some next)
    {update : Update UInt8} (handed : update ∈ next.onAir) (fresh : update ∉ main.onAir) :
    (∃ remote, event = .radio (.served .tick remote)) ∧
      update.bytes = RobotControlService.frame next.firmware.recorder.latest := by
  cases event with
  | sample | wheels | supervise | driverFault | configured | typed =>
      have same := step_endpoint (by simp) (by simp) stepped
      unfold onAir at handed fresh
      rw [same] at handed
      exact absurd handed fresh
  | radioReady =>
      obtain rfl := Option.some.inj stepped
      cases handed
  | radio heard =>
      obtain ⟨link, linked, mapped⟩ := Option.bind_eq_some_iff.mp stepped
      obtain ⟨after, answered, rfl⟩ := Option.map_eq_some_iff.mp mapped
      have linked : main.bleEndpoint.link = some link := linked
      unfold onAir at fresh
      rw [linked] at fresh
      obtain ⟨⟨remote, rfl⟩, framed⟩ := link_telemetry answered handed fresh
      exact ⟨⟨remote, rfl⟩, framed⟩

/-- A tick of a running ticker brings a frame on the air where the last one is out and this one
fits. -/
theorem tick_broadcasts {link : BleLink F (Firmware F S (Gyroscope F))}
    (linked : main.bleEndpoint.link = some link) (ticking : link.service.ticker.isSome = true)
    (free : link.service.telemetryValue.inFlight = false)
    (fit : link.service.fits RobotControlService.telemetrySize = true) (now : TimePoint) :
    ∃ next, machine.step main (now, .radio (.served .tick trivial)) = some next ∧
      next.onAir = main.onAir ++ [⟨link.service.telemetryValue.handed,
        RobotControlService.frame next.firmware.recorder.latest⟩] := by
  let firmware := (main.begin now).firmware
  obtain ⟨service, ticked, peers, outstanding⟩ :=
    tick_hands (link.service.attend firmware) free fit
  have performed : (link.service.attend firmware).perform .tick = some service :=
    (if_pos ticking).trans ticked
  have served : (link.attend firmware).perform (.served .tick trivial) =
      some { link.attend firmware with service } := congrArg (Option.map _) performed
  refine ⟨{ (main.begin now).withFirmware service.peers with
    bleEndpoint := ⟨some { link.attend firmware with service }⟩ }, ?_, ?_⟩
  · show main.bleEndpoint.link.bind _ = _
    rw [linked, Option.bind_some]
    exact congrArg (Option.map _) served
  · unfold onAir
    rw [linked]
    have same : service.peers.recorder.latest = firmware.recorder.latest :=
      congrArg (fun peers => peers.recorder.latest) peers
    show service.telemetryValue.outstanding =
      _ ++ [⟨_, RobotControlService.frame service.peers.recorder.latest⟩]
    rw [same]
    exact outstanding

/-- The observer keeps the state in which the last balance iteration has left the application. -/
def lastIteration (iteration : Option (Main F S C K)) (main : Main F S C K)
    (event : TimePoint × Event F) (next : Main F S C K) : Option (Main F S C K) :=
  match event.2 with
  | .sample _ =>
      if main.robot.samplesSinceBalance + 1 < main.robot.samplesPerBalance then iteration
      else some next
  | _ => iteration

def iteratedMachine : Machine (Main F S C K × Option (Main F S C K)) (TimePoint × Event F) :=
  machine.observed lastIteration

/-- The last sample is that of the last balance iteration, which has driven the efforts of an armed
one; before the first iteration it is that of the start. -/
def Taken (start main : Main F S C K) : Option (Main F S C K) → Prop
  | none => main.firmware.recorder.latest = start.firmware.recorder.latest
  | some iteration => main.firmware.recorder.latest = iteration.firmware.recorder.latest ∧
      (iteration.firmware.recorder.latest.mode = .armed → iteration.firmware.Drives)

omit [FloatGeometry F] [FloatPi F] [FloatBits F] [FloatImage F] [TextInput F] [ControlStrategy S F]
  [PitchFilter C F] [PitchFilter K F] in
/-- A state with the same sample was taken alike. -/
theorem Taken.kept {start : Main F S C K} {iteration : Option (Main F S C K)}
    (taken : start.Taken main iteration)
    (sample : next.firmware.recorder.latest = main.firmware.recorder.latest) :
    start.Taken next iteration := by
  cases iteration with
  | none => exact sample.trans taken
  | some iteration => exact ⟨sample.trans taken.1, taken.2⟩

omit [FloatGeometry F] [FloatPi F] [FloatBits F] [FloatImage F] [TextInput F] [PitchFilter C F]
  [PitchFilter K F] in
/-- The balance iteration of a sample drives the efforts of an armed one. -/
theorem balanced_drives {caller : Option (Operation F)} (coherent : main.firmware.Coherent caller)
    (moment : Moment F (Gyroscope F)) (estimate : Estimate F) (interval : Duration)
    (armed : (balanced (main.firmware.begin moment) estimate interval).recorder.latest.mode =
      .armed) : (balanced (main.firmware.begin moment) estimate interval).Drives :=
  Firmware.balance_drives (coherent.begin moment) rfl rfl armed

/-- Every step keeps what the observer has of the last sample. -/
theorem taken_kept {start : Main F S C K} {iteration : Option (Main F S C K)}
    {caller : Option (Operation F)} {event : TimePoint × Event F}
    (coherent : main.firmware.Coherent caller) (taken : start.Taken main iteration)
    (stepped : machine.step main event = some next) :
    start.Taken next (lastIteration iteration main event next) := by
  obtain ⟨now, event⟩ := event
  by_cases sampled : ∃ sample, event = .sample sample
  · obtain ⟨sample, rfl⟩ := sampled
    simp only [lastIteration]
    cases sample_runs stepped with
    | rested moment same kept early =>
        rw [if_pos early]
        exact taken.kept (congrArg (fun firmware => firmware.recorder.latest) same)
    | balanced moment estimate interval same kept due =>
        rw [if_neg due]
        refine ⟨rfl, ?_⟩
        rw [same]
        exact balanced_drives coherent moment estimate interval
    | steered moment estimate interval sampledAt same outer due =>
        rw [if_neg due]
        refine ⟨rfl, ?_⟩
        rw [same]
        intro armed
        have drives := balanced_drives coherent moment estimate interval armed
        exact drives.steered _
  · rw [not_exists] at sampled
    obtain ⟨operation, asked, performed⟩ := perform_performs sampled stepped
    have same : next.firmware.recorder.latest = main.firmware.recorder.latest := by
      cases operation with
      | none =>
          obtain same := Option.some.inj performed
          rw [← same]
          rfl
      | some operation =>
          refine (Firmware.perform_records ?_ performed).1
          rintro estimate interval rfl
          exact asked _ rfl
    cases event with
    | sample sample => exact absurd rfl (sampled sample)
    | wheels | supervise | driverFault | configured | typed | radioReady | radio =>
        exact taken.kept same

/-- In every run the observer knows where the last sample comes from. -/
theorem reachable_taken {start : Main F S C K} {iteration : Option (Main F S C K)}
    (initially : start.firmware.Coherent none)
    (reached : iteratedMachine.Reachable (start, none) (main, iteration)) :
    machine.Reachable start main ∧ start.Taken main iteration := by
  let known (pair : Main F S C K × Option (Main F S C K)) : Prop :=
    machine.Reachable start pair.1 ∧ start.Taken pair.1 pair.2
  have kept : ∀ pair event next, known pair → iteratedMachine.step pair event = some next →
      known next := by
    rintro ⟨main, iteration⟩ event ⟨next, last⟩ ⟨reached, taken⟩ both
    obtain ⟨stepped, rfl⟩ := observed_step.mp both
    obtain ⟨caller, coherent⟩ := reachable_coherent initially reached
    exact ⟨reached.trans (.single stepped), taken_kept coherent taken stepped⟩
  exact reached.invariant kept (⟨.refl _ start, rfl⟩ : known (start, none))

/-- The telemetry of a run from here is true, and it keeps coming. -/
structure BroadcastsTruth (start : Main F S C K) : Prop where
  told : ∀ main iteration now event next last update,
    iteratedMachine.Reachable (start, none) (main, iteration) →
    iteratedMachine.step (main, iteration) (now, event) = some (next, last) →
    update ∈ next.onAir → update ∉ main.onAir →
    (∃ remote, event = .radio (.served .tick remote)) ∧
      update.bytes = RobotControlService.frame next.firmware.recorder.latest ∧
      start.Taken next last ∧ next.firmware.Recorded ∧
      (BitCast F →
        RobotControlService.decodeFrame update.bytes = some next.firmware.recorder.latest)
  timely : ∀ main now link, machine.Reachable start main → main.bleEndpoint.link = some link →
    link.service.ticker.isSome = true → link.service.telemetryValue.inFlight = false →
    link.service.fits RobotControlService.telemetrySize = true →
    ∃ next, machine.step main (now, .radio (.served .tick trivial)) = some next ∧
      next.onAir = main.onAir ++ [⟨link.service.telemetryValue.handed,
        RobotControlService.frame next.firmware.recorder.latest⟩]

/-- Every update of the telemetry that a client gets is the frame of the last balance iteration, which
tells a cause exactly with a fault, an armed drive only on a sound estimate with the efforts it has
just driven, and otherwise no effort; and a tick that can bring one does. -/
theorem telemetry_is_true {fullScale : DutyCycle} {decay : Decay}
    {sensingConfig : InertialSensingImpl.Config F} {estimationConfig : AttitudeEstimationImpl.Config F}
    {complementary : C} {kalman : K} {strategies : List S}
    {odometryConfig : WheelOdometryImpl.Config F} {balanceConfig : BalanceControlImpl.Config F}
    {safetyConfig : SafetySupervisorImpl.Config F} {identityAddress : MacAddress} {now : TimePoint}
    {start : Main F S C K}
    (constructed : construct fullScale decay sensingConfig estimationConfig complementary kalman
      strategies odometryConfig balanceConfig safetyConfig identityAddress now = some start) :
    start.BroadcastsTruth := by
  obtain ⟨moment, built⟩ := construct_wires constructed
  obtain ⟨coherent, formed, -⟩ := Firmware.construct_starts built
  constructor
  · intro main iteration now event next last update observed watched handed fresh
    obtain ⟨stepped, -⟩ := observed_step.mp watched
    obtain ⟨reached, -⟩ := reachable_taken coherent observed
    obtain ⟨-, taken⟩ := reachable_taken coherent (observed.trans (.single watched))
    obtain ⟨ticks, framed⟩ := step_broadcasts stepped handed fresh
    obtain ⟨firmware, follows, alike⟩ := firmware_simulates.reachable
      (.refl start.firmware) (reached.trans (.single stepped))
    have recorded := (follows.invariant Firmware.recorded_kept
      ⟨⟨none, coherent⟩, formed, Firmware.construct_recorded built⟩).2.2
    refine ⟨ticks, framed, taken, recorded.alike alike, ?_⟩
    intro cast
    rw [framed]
    exact RobotControlService.decodeFrame_frame _
  · intro main now link reached linked ticking free fit
    exact tick_broadcasts linked ticking free fit now

section Bench
open Bench

/-- The powered application broadcasts the truth. -/
theorem powered_telemetry_is_true : ∃ start, powered = some start ∧ start.BroadcastsTruth := by
  obtain ⟨start, constructed⟩ := powered_starts
  exact ⟨start, constructed, telemetry_is_true constructed⟩

end Bench
end Main
end InvertedPendulum.Application
