import InvertedPendulum.Application.ControlRequests
import InvertedPendulum.Balance.Stopping

namespace InvertedPendulum.Application
open Platform Motion Odometry Estimation Sensing Control Balance Safety Telemetry Link Cli Reactive
  Machine BalanceControlImpl

namespace Main
variable {F S C K : Type} [Field F] [LinearOrder F] [IsStrictOrderedRing F] [FloatRounding F]
  [FloatGeometry F] [FloatPi F] [FloatBits F] [FloatImage F] [TextInput F] [ControlStrategy S F]
  [PitchFilter C F] [PitchFilter K F]
  {config : BalanceControlImpl.Config F} {lost : Setpoints F} {start main next final : Main F S C K}
  {now : TimePoint} {event : Event F}

/-- Every step keeps the setpoints within the limits of the configuration. -/
theorem limited_kept (nonnegative : config.NonNegative) (main : Main F S C K)
    (event : TimePoint × Event F) (next : Main F S C K)
    (limited : main.balanceControl.Limited config config.maximumVelocity config.maximumYawRate)
    (stepped : machine.step main event = some next) :
    next.balanceControl.Limited config config.maximumVelocity config.maximumYawRate := by
  obtain ⟨requests, -, obeys⟩ := step_obeys stepped
  refine Obeys.kept (fun control =>
    control.Limited config config.maximumVelocity config.maximumYawRate) ?_ ?_ limited obeys
  · intro control peers kept
    exact kept.framed (attend_command control peers)
  · intro control request accepted after _ kept performed
    exact perform_limited nonnegative kept (fun _ _ => ⟨le_refl _, le_refl _⟩) performed

/-- The command of motion is cancelled, and the setpoints keep to what the outer iterations since some
time have left of theirs at that time. -/
structure Stopping (config : BalanceControlImpl.Config F) (lost : Setpoints F) (since : TimePoint)
    (main : Main F S C K) (control : BalanceControlImpl F S (Hardware F)) : Prop where
  cancelled : control.cancelled = true
  limited : ∃ steered, main.robot.previousOuter = some steered ∧ control.Limited config
    (remaining |lost.velocity| config.velocityDeceleration (steered - since))
    (remaining |lost.yawRate| config.yawDeceleration (steered - since))

omit [FloatGeometry F] [FloatPi F] [FloatBits F] [FloatImage F] [TextInput F] [PitchFilter C F]
  [PitchFilter K F] in
/-- Requests that command no motion keep the control stopping. -/
theorem Stopping.obeys (nonnegative : config.NonNegative) {since : TimePoint}
    {control after : BalanceControlImpl F S (Hardware F)} (stopping : Stopping config lost since main control)
    {requests : List (Balance.Request F)}
    (silent : ∀ commanded, Balance.Request.move commanded ∉ requests)
    (obeys : Obeys control requests after) : Stopping config lost since main after := by
  refine Obeys.kept (Stopping config lost since main) ?_ ?_ stopping obeys
  · rintro control peers ⟨cancelled, steered, last, limited⟩
    exact ⟨cancelled, steered, last, limited.framed (attend_command control peers)⟩
  · rintro control request accepted after member ⟨cancelled, steered, last, limited⟩ performed
    have quiet : ∀ commanded, request ≠ .move commanded := by
      rintro commanded rfl
      exact silent commanded member
    refine ⟨perform_cancelled cancelled quiet performed, steered, last, ?_⟩
    exact perform_limited nonnegative limited (fun commanded moves => absurd moves (quiet commanded))
      performed

omit [FloatRounding F] [FloatGeometry F] [FloatPi F] [FloatBits F] [FloatImage F] [TextInput F]
  [PitchFilter C F] [PitchFilter K F] in
/-- A sample that runs an outer iteration keeps the control stopping over its interval. -/
theorem Stopping.steered (nonnegative : config.NonNegative) {since : TimePoint}
    {control : BalanceControlImpl F S (Hardware F)} (stopping : Stopping config lost since main control)
    (engaged : control.engaged = true) {sampledAt : TimePoint}
    (taken : next.robot.previousOuter = some sampledAt) :
    Stopping config lost since next (control.steer (main.robot.outerInterval sampledAt)) := by
  obtain ⟨cancelled, steered, last, limited⟩ := stopping
  have covered : main.robot.outerInterval sampledAt = sampledAt - steered := by
    unfold ControlLoopImpl.outerInterval
    rw [last]
    rfl
  have summed : steered - since + (sampledAt - steered) = sampledAt - since := sub_add_sub_cancel' _ _ _
  have decayed := limited.decayed nonnegative cancelled engaged (sampledAt - steered)
  rw [summed] at decayed
  rw [covered]
  exact ⟨(steer_cancelled control _).trans cancelled, sampledAt, taken, decayed⟩

omit [FloatRounding F] [FloatGeometry F] [FloatPi F] [FloatBits F] [FloatImage F] [TextInput F]
  [ControlStrategy S F] [PitchFilter C F] [PitchFilter K F] [IsStrictOrderedRing F] in
/-- A step without an outer iteration takes nothing of the limits. -/
theorem Stopping.paced {since : TimePoint} {control : BalanceControlImpl F S (Hardware F)}
    (stopping : Stopping config lost since main control)
    (kept : next.robot.previousOuter = main.robot.previousOuter) :
    Stopping config lost since next control := by
  obtain ⟨cancelled, steered, last, limited⟩ := stopping
  exact ⟨cancelled, steered, kept.trans last, limited⟩

/-- A step that commands no motion keeps the control stopping, where the control is engaged with the
mode. -/
theorem Stopping.kept (nonnegative : config.NonNegative) {since : TimePoint}
    (stopping : Stopping config lost since main main.balanceControl) (silent : ¬ event.Commands)
    (stepped : machine.step main (now, event) = some next)
    (engaged : next.balanceControl.engaged = true ↔ next.supervisor.mode = .armed)
    (limited : next.balanceControl.Limited config config.maximumVelocity config.maximumYawRate) :
    Stopping config lost since next next.balanceControl := by
  by_cases sampled : ∃ sample, event = .sample sample
  · obtain ⟨sample, rfl⟩ := sampled
    have chained {firmware : Firmware F S (Gyroscope F)} (same : next.firmware = firmware) :
        next.balanceControl = firmware.control := congrArg Firmware.control same
    have balances (moment : Moment F (Gyroscope F)) (estimate : Estimate F) (interval : Duration) :
        Stopping config lost since main
          (balanced (main.firmware.begin moment) estimate interval).control := by
      have performed : (main.firmware.begin moment).perform (.balance estimate interval) =
          some (balanced (main.firmware.begin moment) estimate interval) := rfl
      obtain ⟨requests, makes, obeys⟩ := Firmware.perform_obeys performed
      refine stopping.obeys nonnegative ?_ ((Obeys.attended _).trans obeys)
      intro commanded member
      rcases makes _ member with moves | moves <;> cases moves
    cases sample_runs stepped with
    | rested moment same kept =>
        rw [chained same]
        exact (stopping.obeys nonnegative (by simp) (.attended _)).paced kept
    | balanced moment estimate interval same kept =>
        rw [chained same]
        exact (balances moment estimate interval).paced kept
    | steered moment estimate interval sampledAt same taken =>
        let middle := balanced (main.firmware.begin moment) estimate interval
        have after : Stopping config lost since main middle.control := balances moment estimate interval
        have same : next.firmware = middle.withSupervisor
          (middle.supervisor.steer (main.robot.outerInterval sampledAt)) := same
        by_cases armed : middle.supervisor.mode = .armed
        · have steers : middle.supervisor.steer (main.robot.outerInterval sampledAt) =
              middle.supervisor.calling (.steer (main.robot.outerInterval sampledAt))
                (OuterStage.steer middle.supervisor.peers (main.robot.outerInterval sampledAt)) :=
            if_pos armed
          rw [steers] at same
          have control : next.balanceControl =
              middle.control.steer (main.robot.outerInterval sampledAt) := chained same
          have mode : next.supervisor.mode = middle.supervisor.mode :=
            congrArg (fun firmware => firmware.supervisor.mode) same
          have flying := engaged.mpr (mode.trans armed)
          rw [control, steer_engaged] at flying
          rw [control]
          exact after.steered nonnegative flying taken
        · -- without an armed drive there are no setpoints
          have rests : middle.supervisor.steer (main.robot.outerInterval sampledAt) =
              middle.supervisor := if_neg armed
          rw [rests] at same
          have control : next.balanceControl = middle.control := chained same
          have mode : next.supervisor.mode = middle.supervisor.mode :=
            congrArg (fun firmware => firmware.supervisor.mode) same
          have disengaged : next.balanceControl.engaged = false := by
            by_contra flying
            rw [Bool.not_eq_false] at flying
            exact armed (mode.symm.trans (engaged.mp flying))
          refine ⟨?_, sampledAt, taken, .resting limited.configured (limited.idle disengaged)
            (remaining_nonneg _ _ _) (remaining_nonneg _ _ _)⟩
          rw [control]
          exact after.cancelled
  · rw [not_exists] at sampled
    obtain ⟨requests, makes, obeys⟩ := step_obeys stepped
    have quiet : ∀ commanded, Balance.Request.move commanded ∉ requests :=
      fun commanded member => silent (makes _ member)
    have kept := congrArg (fun robot : Robot F S C K => robot.previousOuter)
      (other_loops sampled stepped).2
    exact (stopping.obeys nonnegative quiet obeys).paced kept

omit [IsStrictOrderedRing F] in
/-- The link cancels the command of motion when it is lost. -/
theorem lost_link_cancels {link : BleLink F (Firmware F S (Gyroscope F))}
    (linked : main.bleEndpoint.link = some link) (connected : link.connected = true)
    (lost : machine.step main (now, .radio (.stateChanged .standby)) = some next) :
    next.balanceControl.cancelled = true := by
  obtain ⟨same, attached, mapped⟩ := Option.bind_eq_some_iff.mp lost
  have attached : main.bleEndpoint.link = some same := attached
  obtain rfl := Option.some.inj (linked.symm.trans attached)
  obtain ⟨after, performed, rfl⟩ := Option.map_eq_some_iff.mp mapped
  obtain rfl := Option.some.inj performed
  have attending : (link.attend (main.begin now).firmware).connected = true := connected
  show ((link.attend (main.begin now).firmware).stateChanged
    .standby).service.peers.control.cancelled = true
  simp only [BleLink.stateChanged, attending]
  rfl

section Construction
variable {fullScale : DutyCycle} {decay : Decay} {sensingConfig : InertialSensingImpl.Config F}
  {estimationConfig : AttitudeEstimationImpl.Config F} {complementary : C} {kalman : K}
  {strategies : List S} {odometryConfig : WheelOdometryImpl.Config F}
  {balanceConfig : BalanceControlImpl.Config F} {safetyConfig : SafetySupervisorImpl.Config F}
  {identityAddress : MacAddress}

/-- In every reachable state the setpoints keep within the limits of the configuration. -/
theorem reachable_limited
    (constructed : construct fullScale decay sensingConfig estimationConfig complementary kalman
      strategies odometryConfig balanceConfig safetyConfig identityAddress now = some start)
    (nonnegative : balanceConfig.NonNegative) (reached : machine.Reachable start main) :
    main.balanceControl.Limited balanceConfig balanceConfig.maximumVelocity
      balanceConfig.maximumYawRate := by
  obtain ⟨moment, built⟩ := construct_wires constructed
  refine reached.invariant (limited_kept nonnegative) ?_
  obtain ⟨control, controlled, supervised⟩ := Option.bind_eq_some_iff.mp built
  obtain ⟨supervisor, supervises, wired⟩ := Option.map_eq_some_iff.mp supervised
  have same : start.balanceControl = supervisor.peers.control := congrArg Firmware.control wired.symm
  rw [same]
  unfold BalanceControlImpl.construct at controlled
  unfold SafetySupervisorImpl.construct at supervises
  split at controlled
  · obtain rfl := Option.some.inj controlled
    split at supervises
    · obtain rfl := Option.some.inj supervises
      exact .resting rfl rfl nonnegative.velocity nonnegative.yawRate
    · cases supervises
  · cases controlled

/-- From a lost link on, until the next command of motion, the outer iterations take the setpoints to
zero at the configured decelerations, by the time stamps of the sensor and whatever else happens. -/
theorem lost_link_stops
    (constructed : construct fullScale decay sensingConfig estimationConfig complementary kalman
      strategies odometryConfig balanceConfig safetyConfig identityAddress now = some start)
    (nonnegative : balanceConfig.NonNegative) (reached : machine.Reachable start main)
    {link : BleLink F (Firmware F S (Gyroscope F))} (linked : main.bleEndpoint.link = some link)
    (connected : link.connected = true) {lostAt : TimePoint}
    (lost : machine.step main (lostAt, .radio (.stateChanged .standby)) = some next)
    {since : TimePoint} (last : next.robot.previousOuter = some since)
    {events : List (TimePoint × Event F)} (silent : ∀ event ∈ events, ¬ event.2.Commands)
    (ran : machine.run next events = some final) :
    ∃ steered, final.robot.previousOuter = some steered ∧
      |final.balanceControl.setpoints.velocity| ≤
        remaining |next.balanceControl.setpoints.velocity| balanceConfig.velocityDeceleration
          (steered - since) ∧
      |final.balanceControl.setpoints.yawRate| ≤
        remaining |next.balanceControl.setpoints.yawRate| balanceConfig.yawDeceleration
          (steered - since) := by
  obtain ⟨moment, built⟩ := construct_wires constructed
  have initially := (Firmware.construct_starts built).1
  have reachedNext : machine.Reachable start next := reached.trans (.single lost)
  have limited := reachable_limited constructed nonnegative reachedNext
  let setpoints := next.balanceControl.setpoints
  have stopping : Stopping balanceConfig setpoints since next next.balanceControl := by
    refine ⟨lost_link_cancels linked connected lost, since, last, limited.configured, ?_, ?_,
      limited.idle⟩
    · simp [remaining, seconds, setpoints]
    · simp [remaining, seconds, setpoints]
  have quiet : machine.Along (fun _ event => ¬ event.2.Commands) next events := by
    refine along_iff_prefix.mpr ?_
    rintro front event back rfl state -
    exact silent event (by simp)
  have kept : ∀ (state : Main F S C K) (event : TimePoint × Event F) after,
      (machine.Reachable start state ∧
        Stopping balanceConfig setpoints since state state.balanceControl) →
      ¬ event.2.Commands → machine.step state event = some after →
      (machine.Reachable start after ∧
        Stopping balanceConfig setpoints since after after.balanceControl) := by
    rintro state event after ⟨before, stops⟩ silent stepped
    have onward : machine.Reachable start after := before.trans (.single stepped)
    obtain ⟨caller, coherent⟩ := reachable_coherent initially onward
    exact ⟨onward, stops.kept nonnegative silent stepped coherent.engaged
      (reachable_limited constructed nonnegative onward)⟩
  obtain ⟨-, -, steered, taken, within⟩ :=
    run_invariant_along kept ⟨reachedNext, stopping⟩ quiet ran
  exact ⟨steered, taken, within.velocity, within.yawRate⟩

end Construction

section Bench
open Bench

/-- The exact application calibrates and converges within a few samples. -/
def exact : Option (Main ℚ (HostedStrategy (GainRow ℚ) (VelocityPid ℚ) ℚ) (AccelerometerFilter ℚ)
    (AccelerometerFilter ℚ)) :=
  construct 1000 .slow ⟨milliseconds 1, milliseconds 4, 1, 3⟩
    ⟨.complementary, milliseconds 12, milliseconds 10, 1⟩ ⟨0⟩ ⟨0⟩ (hosted .default .default) .default
    .default .default (Vector.replicate 6 0) 0

/-- The robot stands upright and still. -/
def still (count : Nat) : TimePoint × Event ℚ :=
  (milliseconds count,
    .sample ⟨⟨0, 0, 0⟩, ⟨0, 0, -standardGravity⟩, milliseconds count, true⟩)

/-- The client commands motion of an armed robot over its link. -/
def commanded : List (TimePoint × Event ℚ) :=
  [(0, .configured true), still 1, (milliseconds 3, .supervise)] ++ (List.range' 4 4).map still ++
    [(milliseconds 7, .supervise), (milliseconds 7, .radioReady),
      (milliseconds 7, .radio (.stateChanged .connected))] ++
    (List.range' 8 36).map still ++
    [(milliseconds 43, .typed .arm ""),
      (milliseconds 43, .radio (.served (.motionWritten [0, 0, 0, 0x3F, 0, 0, 0, 0]) trivial))] ++
    (List.range' 44 20).map still

/-- A moving robot has slowed down as promised a tenth of a second after its link is lost. -/
theorem lost_link_stops_moving : ∃ start main next final, exact = some start ∧
    machine.run start commanded = some main ∧
    machine.step main (milliseconds 64, .radio (.stateChanged .standby)) = some next ∧
    next.balanceControl.setpoints.velocity = 1 / 2 ∧
    machine.run next ((List.range' 64 100).map still) = some final ∧
    |final.balanceControl.setpoints.velocity| ≤
      remaining (|1 / 2| : ℚ) (1 / 2) (milliseconds 100) := by
  have evaluated : ((exact.bind fun start => machine.run start commanded).any fun main =>
      (main.bleEndpoint.link.any fun link => link.connected) &&
        (machine.step main (milliseconds 64, .radio (.stateChanged .standby))).any fun next =>
          (next.balanceControl.setpoints.velocity = 1 / 2 ∧
            next.robot.previousOuter = some (milliseconds 62)) &&
          (machine.run next ((List.range' 64 100).map still)).any fun final =>
            final.robot.previousOuter = some (milliseconds 162)) = true := by
    decide +kernel
  obtain ⟨main, reached, ends⟩ := (Option.any_eq_true _ _).mp evaluated
  obtain ⟨start, constructed, reached⟩ := Option.bind_eq_some_iff.mp reached
  obtain ⟨linked, ends⟩ := Bool.and_eq_true_iff.mp ends
  obtain ⟨link, linked, connected⟩ := (Option.any_eq_true _ _).mp linked
  obtain ⟨next, lost, ends⟩ := (Option.any_eq_true _ _).mp ends
  obtain ⟨moving, ends⟩ := Bool.and_eq_true_iff.mp ends
  obtain ⟨moving, last⟩ := of_decide_eq_true moving
  obtain ⟨final, ran, ends⟩ := (Option.any_eq_true _ _).mp ends
  have nonnegative : (BalanceControlImpl.Config.default : BalanceControlImpl.Config ℚ).NonNegative := by
    constructor <;> decide +kernel
  have silent : ∀ event ∈ (List.range' 64 100).map still, ¬ event.2.Commands := by
    intro event member
    obtain ⟨count, -, rfl⟩ := List.mem_map.mp member
    exact not_false
  obtain ⟨steered, taken, within, -⟩ := lost_link_stops constructed nonnegative ⟨_, reached⟩ linked
    connected lost last silent ran
  rw [of_decide_eq_true ends] at taken
  obtain rfl := Option.some.inj taken
  have half : (BalanceControlImpl.Config.default : BalanceControlImpl.Config ℚ).velocityDeceleration =
      1 / 2 := by decide +kernel
  have elapsed : milliseconds 162 - milliseconds 62 = milliseconds 100 := by decide
  rw [moving, half, elapsed] at within
  exact ⟨start, main, next, final, constructed, reached, lost, moving, ran, within⟩

end Bench
end Main
end InvertedPendulum.Application
