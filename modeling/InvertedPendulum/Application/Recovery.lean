import InvertedPendulum.Application.HeldCalibration
import InvertedPendulum.Application.LostLink
import InvertedPendulum.Estimation.LeastSquaresPitch

namespace InvertedPendulum.Application
open Platform Motion Odometry Estimation Sensing Control Balance Safety Telemetry Link Cli Reactive
  Machine AttitudeEstimationImpl InertialSensingImpl Main

namespace Stand
variable {F : Type} [Field F] [LinearOrder F] [FloatGeometry F]

def calibratedAt (stand : Stand F) (now : TimePoint) : TimePoint :=
  stand.time now (stand.filling + 1)

/-- The sensor and the supervisor take up the held robot. -/
def opening (stand : Stand F) (now : TimePoint) : List (TimePoint × Event F) :=
  [(now, .sample (stand.sample now)), (now, .supervise)]

/-- The operator brings the supervisor to a new calibration. -/
def calibrate (now : TimePoint) : List (TimePoint × Event F) :=
  [(now, .typed .disarm ""), (now, .supervise), (now, .typed .clearFault ""),
    (now, .typed .calibrate "")]

/-- The supervisor polls the calibration and the driver, and the operator clears a fault. -/
def settle (now : TimePoint) : List (TimePoint × Event F) :=
  [(now, .supervise), (now, .supervise), (now, .typed .clearFault "")]

/-- The operator holds the robot and calibrates it until the estimation has converged. -/
def holding (stand : Stand F) (now : TimePoint) : List (TimePoint × Event F) :=
  calibrate now ++ stand.samples now (stand.filling + 1) ++ settle (stand.calibratedAt now) ++
    stand.samples (stand.calibratedAt now) stand.converging

/-- The operator arms the robot after two more samples, one of which the loop balances. -/
def arming (stand : Stand F) (now : TimePoint) : List (TimePoint × Event F) :=
  [stand.sampled (stand.calibratedAt now) stand.converging,
    stand.sampled (stand.calibratedAt now) (stand.converging + 1),
    (stand.time (stand.calibratedAt now) (stand.converging + 2), .typed .arm "")]

def recovery (stand : Stand F) (now : TimePoint) : List (TimePoint × Event F) :=
  stand.opening now ++ stand.holding now ++ stand.arming now

/-- These are the times of some events. -/
def times (events : List (TimePoint × Event F)) : List TimePoint := events.map Prod.fst

/-- The samples come in order, up to the last period. -/
theorem samples_inOrder (stand : Stand F) (since : TimePoint) (count : Nat) :
    Spaced (0 ≤ ·) since (times (stand.samples since count)) ∧
      lastTime since (times (stand.samples since count)) = stand.time since count := by
  induction count with
  | zero => exact ⟨Spaced.nil, (stand.time_zero since).symm⟩
  | succ count ih =>
      obtain ⟨ordered, latest⟩ := ih
      have more : times (stand.samples since (count + 1)) =
          times (stand.samples since count) ++ [stand.time since (count + 1)] := by
        simp [times, samples, sampled, List.range_succ]
      rw [more, spaced_snoc, lastTime_snoc, latest, stand.time_succ, add_sub_cancel_left]
      exact ⟨⟨ordered, stand.accepted.period.le⟩, rfl⟩

/-- The recovery takes its events in order. -/
theorem recovery_inOrder (stand : Stand F) {since now : TimePoint} (later : since ≤ now) :
    Spaced (0 ≤ ·) since (times (stand.recovery now)) := by
  obtain ⟨calibrates, calibrated⟩ := stand.samples_inOrder now (stand.filling + 1)
  obtain ⟨converges, converged⟩ :=
    stand.samples_inOrder (stand.calibratedAt now) (stand.converging + 2)
  have blocks : times (stand.recovery now) = [now, now, now, now, now, now] ++
      times (stand.samples now (stand.filling + 1)) ++
      [stand.calibratedAt now, stand.calibratedAt now, stand.calibratedAt now] ++
      times (stand.samples (stand.calibratedAt now) (stand.converging + 2)) ++
      [stand.time (stand.calibratedAt now) (stand.converging + 2)] := by
    simp [times, recovery, opening, holding, arming, calibrate, settle, samples, List.range_succ]
  have settled : lastTime now (times (stand.samples now (stand.filling + 1))) =
    stand.calibratedAt now := calibrated
  rw [blocks, spaced_append, spaced_append, spaced_append, spaced_append]
  simp only [lastTime_append, lastTime_cons, lastTime_nil, settled, converged, spaced_cons, sub_self,
    le_refl, Spaced.nil, and_true]
  exact ⟨⟨sub_nonneg.mpr later, calibrates⟩, converges⟩

end Stand

namespace Main
variable {F S C K : Type} [Field F] [LinearOrder F] [IsStrictOrderedRing F] [FloatRounding F]
  [FloatGeometry F] [FloatPi F] [FloatBits F] [FloatImage F] [TextInput F] [ControlStrategy S F]
  [PitchFilter C F] [PitchFilter K F] {blends : HoldsPitch C F} {filters : HoldsPitch K F}
  {stand : Stand F} {start main next : Main F S C K} {now since : TimePoint} {count : Nat}
  {readies readied : Main F S C K → Prop} {request : Safety.Request F}

section Settling

/-- The calibration is complete, and the supervisor ready for the next request. -/
structure Settles (blends : HoldsPitch C F) (filters : HoldsPitch K F) (stand : Stand F)
    (start : Main F S C K) (since : TimePoint) (readies : Main F S C K → Prop)
    (main : Main F S C K) : Prop where
  calibrated : Calibrated blends filters stand start since main
  ready : readies main

omit [IsStrictOrderedRing F] in
/-- The calibration stays complete where the sensing and the estimation stay as they are. -/
theorem Calibrated.kept (calibrated : Calibrated blends filters stand start since main)
    (holds : Holds blends filters stand start since next)
    (sensing : next.inertialSensing.sensing = main.inertialSensing.sensing)
    (estimation : next.attitudeEstimation = main.attitudeEstimation) :
    Calibrated blends filters stand start since next := by
  refine ⟨holds, ?_, ?_, ?_⟩
  · rw [sensing]
    exact calibrated.calibrated
  · rw [sensing]
    exact calibrated.bias
  · rw [estimation]
    exact calibrated.running

omit [IsStrictOrderedRing F] in
theorem Settles.stable (endures : Endures readies) :
    machine.Stable Incident (Settles blends filters stand start since readies) := by
  intro main event next settles incident stepped
  obtain ⟨held, sensing, estimation, drift⟩ :=
    settles.calibrated.holds.drifts (endures.tested main settles.ready) incident stepped
  exact ⟨settles.calibrated.kept held sensing estimation,
    endures.kept main next event.1 settles.ready drift⟩

omit [IsStrictOrderedRing F] in
/-- The next request of the script is answered. -/
theorem Settles.requested (settles : Settles blends filters stand start since readies main)
    {event : Event F} (requested : event.request? = some request)
    (passes : Passes request readies readied) :
    ∃ next, machine.step main (since, event) = some next ∧
      Settles blends filters stand start since readied next := by
  obtain ⟨next, stepped, held, step⟩ := settles.calibrated.holds.requested requested since
  obtain ⟨ready, sensing⟩ := passes main next since settles.ready step
  exact ⟨next, stepped, settles.calibrated.kept held sensing step.estimation, ready⟩

/-- The modes while the supervisor may still wait for a complete calibration. -/
def waiting : List Mode := [.calibrating, .fault, .idle]

omit [IsStrictOrderedRing F] in
/-- The supervisor waits no longer for a complete calibration. -/
theorem Settles.idles (settles : Settles blends filters stand start since (Among waiting) main) :
    ∃ next, machine.step main (since, .supervise) = some next ∧
      Settles blends filters stand start since (Among [.fault, .idle]) next := by
  obtain ⟨calibrated, ready⟩ := settles
  by_cases calibrating : main.supervisor.mode = .calibrating
  · obtain ⟨next, stepped, held, step⟩ := calibrated.holds.requested
      (rfl : (Event.supervise : Event F).request? = some .supervise) since
    have mode : (main.begin since).supervisor.mode = .calibrating := calibrating
    have complete : InertialSensing.calibration (main.begin since).supervisor.peers = .calibrated :=
      calibrated.calibrated
    have idles : next.supervisor = { (main.begin since).supervisor with mode := .idle } := by
      rw [step.performed]
      simp only [SafetySupervisorImpl.perform, SafetySupervisorImpl.supervise, mode,
        SafetySupervisorImpl.superviseCalibration, complete, if_true]
    refine ⟨next, stepped, calibrated.kept held ?_ step.estimation, ?_⟩
    · exact congrArg (fun supervisor => supervisor.peers.sensing.sensing) idles
    · simp [Among, idles]
  · have settled : Among [.fault, .idle] main := (List.mem_cons.mp ready).resolve_left calibrating
    obtain ⟨next, stepped, calibrated, polled⟩ := Settles.requested ⟨calibrated, settled⟩
      (rfl : (Event.supervise : Event F).request? = some .supervise) supervise_passes
    refine ⟨next, stepped, calibrated, ?_⟩
    rcases polled with fault | ⟨idle, -⟩
    · simp [Among, fault]
    · simp [Among, idle]

end Settling

section Converging

/-- The estimation has converged for so many samples, while the supervisor is idle. -/
structure Converging (blends : HoldsPitch C F) (filters : HoldsPitch K F) (stand : Stand F)
    (start : Main F S C K) (since : TimePoint) (count : Nat) (main : Main F S C K) : Prop where
  settles : Settles blends filters stand start (stand.time since count) Cleared main
  begun : main.attitudeEstimation.convergenceStarted ≤ since

omit [IsStrictOrderedRing F] in
theorem Converging.stable :
    machine.Stable Incident (Converging blends filters stand start since count) := by
  intro main event next converging incident stepped
  obtain ⟨⟨calibrated, cleared⟩, begun⟩ := converging
  obtain ⟨held, sensing, estimation, drift⟩ :=
    calibrated.holds.drifts (cleared_endures.tested main cleared) incident stepped
  refine ⟨⟨calibrated.kept held sensing estimation, cleared_endures.kept main next event.1 cleared
    drift⟩, ?_⟩
  rw [estimation]
  exact begun

omit [IsStrictOrderedRing F] in
/-- The estimation starts to converge. -/
theorem Settles.converges (settles : Settles blends filters stand start since Cleared main) :
    Converging blends filters stand start since 0 main := by
  obtain ⟨calibrated, cleared⟩ := settles
  exact ⟨⟨(stand.time_zero since).symm ▸ calibrated, cleared⟩,
    calibrated.holds.steady.begun calibrated.running⟩

/-- The supervisor has received a valid estimate since its last tick. -/
structure Delivered (stand : Stand F) (main : Main F S C K) : Prop where
  valid : main.supervisor.latest.valid = true
  pitch : main.supervisor.latest.pitch = stand.pitch
  serviced : main.supervisor.serviced = true

omit [IsStrictOrderedRing F] [FloatRounding F] [FloatPi F] [FloatBits F] [FloatImage F]
  [TextInput F] [ControlStrategy S F] in
/-- A balance iteration is due at every second sample. -/
theorem Serves.early_iff (serves : Serves blends filters stand main) :
    main.robot.samplesSinceBalance + 1 < main.robot.samplesPerBalance ↔
      main.robot.samplesSinceBalance = 0 := by
  rw [serves.ratio]
  rcases serves.counter with zero | one
  · rw [zero]
    decide
  · rw [one]
    decide

/-- A sample of a converging estimation delivers an estimate where a balance iteration is due. -/
structure Delivers (stand : Stand F) (main next : Main F S C K) : Prop where
  early : main.robot.samplesSinceBalance = 0 → next.robot.samplesSinceBalance = 1 ∧
    (Delivered stand main → Delivered stand next)
  due : main.robot.samplesSinceBalance ≠ 0 → Delivered stand next

/-- Each sample brings the estimation nearer to its convergence. -/
theorem Converging.sampled (converging : Converging blends filters stand start since count main)
    (serves : Serves blends filters stand main) :
    ∃ next, machine.step main (stand.sampled since count) = some next ∧
      Converging blends filters stand start since (count + 1) next ∧
      (stand.converging ≤ count → Delivers stand main next) := by
  obtain ⟨⟨⟨holds, calibrated, bias, running⟩, idle, healthy⟩, begun⟩ := converging
  have settled : main.inertialSensing.sensing.calibration ≠ .calibrating := by simp [calibrated]
  obtain ⟨answered, sees⟩ := settled_sees stand.rate stand.acceleration
    settled (stand.time since count + stand.sensing.samplePeriod)
  obtain ⟨next, stepped, held, sensed, step⟩ := holds.sampled serves answered sees
    fun _ => congrArg InertialAxes.y bias
  have calibration : next.inertialSensing.sensing.calibration = .calibrated := by
    rw [sensed]
    exact calibrated
  have same : next.inertialSensing.sensing.bias = stand.rate := by
    rw [sensed]
    exact bias
  obtain ⟨runs, pitch, goesOn⟩ := step.runs calibration
  obtain ⟨started, valid⟩ := goesOn running
  rw [← stand.time_succ] at stepped held valid
  have cleared : next.Cleared :=
    ⟨iterates_disarmed step.upkeep.iterates idle (by decide),
      step.upkeep.iterates.fault.trans healthy⟩
  refine ⟨next, stepped, ⟨⟨⟨held, calibration, same, runs⟩, cleared⟩, started.trans_le begun⟩, ?_⟩
  intro enough
  have converged : next.attitudeEstimation.latest.valid = true := by
    refine valid.mpr ?_
    have spans : ((stand.converging + 1 : Nat) : Int) * stand.sensing.samplePeriod ≤
        ((count + 1 : Nat) : Int) * stand.sensing.samplePeriod :=
      mul_le_mul_of_nonneg_right (Int.ofNat_le.mpr (Nat.succ_le_succ enough))
        stand.accepted.period.le
    calc stand.estimation.convergenceInterval
        ≤ ((count + 1 : Nat) : Int) * stand.sensing.samplePeriod :=
          stand.converging_spans.trans spans
      _ = stand.time since (count + 1) - since := (add_sub_cancel_left _ _).symm
      _ ≤ stand.time since (count + 1) - main.attitudeEstimation.convergenceStarted :=
          sub_le_sub_left begun _
  constructor
  · intro zero
    have early := serves.early_iff.mpr zero
    have served := (step.upkeep.served.resolve_right fun served => served.1 early).2
    rcases step.step.delivered with ⟨-, counter, latest⟩ | ⟨due, -⟩
    · refine ⟨counter.trans (congrArg (· + 1) zero), ?_⟩
      intro before
      exact ⟨latest ▸ before.valid, latest ▸ before.pitch, served.trans before.serviced⟩
    · exact absurd early due
  · intro counted
    have due := mt serves.early_iff.mp counted
    rcases step.step.delivered with ⟨early, -⟩ | ⟨-, -, latest, -⟩
    · exact absurd early due
    · refine ⟨?_, ?_, ?_⟩
      · rw [latest]
        exact converged
      · rw [latest]
        exact pitch
      · exact (step.upkeep.served.resolve_left fun served => due served.1).2

/-- A converged robot with an estimate is armed. -/
theorem Converging.arms (converging : Converging blends filters stand start since count main)
    (delivered : Delivered stand main) (serves : Serves blends filters stand main) :
    ∃ next, machine.step main (stand.time since count, .typed .arm "") = some next ∧
      next.supervisor.mode = .armed := by
  obtain ⟨⟨calibrated, idle, healthy⟩, -⟩ := converging
  obtain ⟨next, stepped, -, step⟩ := calibrated.holds.requested
    (rfl : (Event.typed .arm "" : Event F).request? = some .arm) (stand.time since count)
  have within : |main.supervisor.latest.pitch| ≤ main.supervisor.config.armWindow := by
    rw [delivered.pitch, serves.safety]
    exact stand.upright
  have upright : fabs main.supervisor.latest.pitch ≤ main.supervisor.config.armWindow := by
    rw [fabs_eq_abs]
    exact within
  have armable : (main.begin (stand.time since count)).supervisor.Armable := by
    refine ⟨idle, delivered.valid, decide_eq_true_iff.mpr upright, ?_, ?_⟩
    · exact Bool.or_eq_true_iff.mpr (.inl delivered.serviced)
    · exact decide_eq_true_iff.mpr ⟨calibrated.holds.ready.1, healthy⟩
  have performed := step.performed
  rw [SafetySupervisorImpl.perform, armable.arm_eq] at performed
  exact ⟨next, stepped, congrArg SafetySupervisorImpl.mode performed⟩

end Converging

section Scripts
variable (serving : ∀ main : Main F S C K, machine.Reachable start main →
  Serves blends filters stand main)

include serving

omit [IsStrictOrderedRing F] in
/-- The sensor and the supervisor take up a rested robot that is held. -/
theorem opens (reached : machine.Reachable start main) (ready : main.firmware.Answered .ready)
    (rested : main.Rested now) : ∃ next, machine.run main (stand.opening now) = some next ∧
      Prepares blends filters stand start now (Among [.armed, .fault, .idle]) next := by
  obtain ⟨held, sampled, holds, settled⟩ := rested.held reached ready (serving main reached)
  obtain ⟨next, supervised, prepares⟩ := holds.supervised (serving held holds.reached) settled
  refine ⟨next, ?_, prepares⟩
  exact run_cons.mpr ⟨held, sampled, run_cons.mpr ⟨next, supervised, rfl⟩⟩

omit serving [IsStrictOrderedRing F] in
/-- The operator brings the supervisor to a new calibration. -/
theorem calibrate_leads (now : TimePoint) : machine.Leads Incident
    (Prepares blends filters stand start now (Among [.armed, .fault, .idle]))
    (Stand.calibrate now) (Filling blends filters stand start now 0) := by
  have modes : Endures (Among [.armed, .fault, .idle] : Main F S C K → Prop) :=
    among_endures (by decide) (by decide) (by decide)
  have disarmed : Endures (Among [.fault, .idle] : Main F S C K → Prop) :=
    among_endures (by decide) (by decide) (by decide)
  have disarms (main : Main F S C K)
      (prepares : Prepares blends filters stand start now (Among [.armed, .fault, .idle]) main) :
      ∃ next, machine.step main (now, .typed .disarm "") = some next ∧
        Prepares blends filters stand start now (Among [.fault, .idle]) next :=
    prepares.requested rfl disarm_passes
  have polls (main : Main F S C K)
      (prepares : Prepares blends filters stand start now (Among [.fault, .idle]) main) :
      ∃ next, machine.step main (now, .supervise) = some next ∧
        Prepares blends filters stand start now Polled next :=
    prepares.requested rfl supervise_passes
  have clears (main : Main F S C K)
      (prepares : Prepares blends filters stand start now Polled main) :
      ∃ next, machine.step main (now, .typed .clearFault "") = some next ∧
        Prepares blends filters stand start now Cleared next :=
    prepares.requested rfl clearFault_passes
  have calibrates : machine.Leads Incident (Prepares blends filters stand start now Cleared)
      [(now, .typed .calibrate "")] (Filling blends filters stand start now 0) :=
    .cons (Prepares.stable cleared_endures) (fun _ => Prepares.calibrate) (.nil Filling.stable)
  exact .cons (Prepares.stable modes) disarms (.cons (Prepares.stable disarmed) polls
    (.cons (Prepares.stable polled_endures) clears calibrates))

/-- The samples of the held robot complete the calibration. -/
theorem filling_leads (now : TimePoint) : machine.Leads Incident
    (Filling blends filters stand start now 0) (stand.samples now (stand.filling + 1))
    (Settles blends filters stand start (stand.calibratedAt now) (Among waiting)) := by
  have modes : Endures (Among waiting : Main F S C K → Prop) :=
    among_endures (by decide) (by decide) (by decide)
  unfold Stand.samples
  rw [List.range_succ, List.map_append]
  refine .append (.stages (Filling blends filters stand start now) (fun _ => Filling.stable) ?_)
    (.cons Filling.stable ?_ (.nil (Settles.stable modes)))
  · intro index before main filling
    exact filling.goesOn (serving main filling.holds.reached) before
  · intro main filling
    obtain ⟨next, stepped, calibrating, calibrated⟩ :=
      filling.completes (serving main filling.holds.reached)
    exact ⟨next, stepped, calibrated, by simp [Among, waiting, calibrating]⟩

omit serving [IsStrictOrderedRing F] in
/-- The polls and the operator leave an idle supervisor without a fault. -/
theorem settle_leads (since : TimePoint) : machine.Leads Incident
    (Settles blends filters stand start since (Among waiting)) (Stand.settle since)
    (Converging blends filters stand start since 0) := by
  have modes : Endures (Among waiting : Main F S C K → Prop) :=
    among_endures (by decide) (by decide) (by decide)
  have settled : Endures (Among [.fault, .idle] : Main F S C K → Prop) :=
    among_endures (by decide) (by decide) (by decide)
  have idles (main : Main F S C K)
      (settles : Settles blends filters stand start since (Among waiting) main) :
      ∃ next, machine.step main (since, .supervise) = some next ∧
        Settles blends filters stand start since (Among [.fault, .idle]) next := settles.idles
  have polls (main : Main F S C K)
      (settles : Settles blends filters stand start since (Among [.fault, .idle]) main) :
      ∃ next, machine.step main (since, .supervise) = some next ∧
        Settles blends filters stand start since Polled next :=
    settles.requested rfl supervise_passes
  have clears (main : Main F S C K)
      (settles : Settles blends filters stand start since Polled main) :
      ∃ next, machine.step main (since, .typed .clearFault "") = some next ∧
        Converging blends filters stand start since 0 next := by
    obtain ⟨next, stepped, cleared⟩ := settles.requested
      (rfl : (Event.typed .clearFault "" : Event F).request? = some .clearFault) clearFault_passes
    exact ⟨next, stepped, cleared.converges⟩
  exact .cons (Settles.stable modes) idles (.cons (Settles.stable settled) polls
    (.cons (Settles.stable polled_endures) clears (.nil Converging.stable)))

/-- The samples of the held robot let the estimation converge. -/
theorem converging_leads (since : TimePoint) (count : Nat) : machine.Leads Incident
    (Converging blends filters stand start since 0) (stand.samples since count)
    (Converging blends filters stand start since count) := by
  refine .stages (Converging blends filters stand start since) (fun _ => Converging.stable) ?_
  intro index _ main converging
  obtain ⟨next, stepped, converges, -⟩ :=
    converging.sampled (serving main converging.settles.calibrated.holds.reached)
  exact ⟨next, stepped, converges⟩

/-- Whatever happens in the meantime, the held robot converges. -/
theorem holding_leads (now : TimePoint) : machine.Leads Incident
    (Prepares blends filters stand start now (Among [.armed, .fault, .idle])) (stand.holding now)
    (Converging blends filters stand start (stand.calibratedAt now) stand.converging) :=
  .append (.append (.append (calibrate_leads now) (filling_leads serving now)) (settle_leads _))
    (converging_leads serving _ _)

/-- The operator arms a robot that was held for long enough. -/
theorem Converging.armed (converging : Converging blends filters stand start
      (stand.calibratedAt now) stand.converging main) :
    ∃ final, machine.run main (stand.arming now) = some final ∧ final.supervisor.mode = .armed := by
  have serve {state : Main F S C K} {count : Nat} (converging : Converging blends filters stand start
      (stand.calibratedAt now) count state) : Serves blends filters stand state :=
    serving state converging.settles.calibrated.holds.reached
  obtain ⟨middle, first, converges, delivers⟩ := converging.sampled (serve converging)
  obtain ⟨next, second, converged, redelivers⟩ := converges.sampled (serve converges)
  have delivers := delivers le_rfl
  have redelivers := redelivers (Nat.le_succ _)
  have delivered : Delivered stand next := by
    by_cases zero : middle.robot.samplesSinceBalance = 0
    · refine (redelivers.early zero).2 (delivers.due ?_)
      intro early
      rw [(delivers.early early).1] at zero
      cases zero
    · exact redelivers.due zero
  obtain ⟨final, third, armed⟩ := converged.arms delivered (serve converged)
  refine ⟨final, ?_, armed⟩
  exact run_cons.mpr ⟨middle, first, run_cons.mpr ⟨next, second, run_cons.mpr ⟨final, third, rfl⟩⟩⟩

end Scripts

section Construction
variable {fullScale : DutyCycle} {decay : Decay} {complementary : C} {kalman : K}
  {strategies : List S} {odometryConfig : WheelOdometryImpl.Config F}
  {balanceConfig : BalanceControlImpl.Config F} {identityAddress : MacAddress} {powered : TimePoint}

omit [IsStrictOrderedRing F] in
/-- The driver awaits its configuration until it answers. -/
theorem reachable_awaits
    (constructed : construct fullScale decay stand.sensing stand.estimation complementary kalman
      strategies odometryConfig balanceConfig stand.safety identityAddress powered = some start)
    (reached : machine.Reachable start main) : main.firmware.Awaits := by
  obtain ⟨moment, built⟩ := construct_wires constructed
  exact firmware_invariant Firmware.awaits_kept (fun _ _ => Iff.rfl)
    (Firmware.construct_awaits built) reached

omit [IsStrictOrderedRing F] in
/-- Every reachable state is served under the configurations of the construction. -/
theorem reachable_serves
    (constructed : construct fullScale decay stand.sensing stand.estimation complementary kalman
      strategies odometryConfig balanceConfig stand.safety identityAddress powered = some start)
    (proper : blends.proper complementary ∧ filters.proper kalman)
    (reached : machine.Reachable start main) : Serves blends filters stand main := by
  obtain ⟨moment, built⟩ := construct_wires constructed
  have wired := (construct_heard constructed).1
  obtain ⟨events, ran⟩ := id reached
  obtain ⟨hearing, listened⟩ := (observed_run (⟨[], []⟩ : Hearing F)).mp ran
  have heard : start.Heard main hearing := run_heard constructed listened
  have supervised := firmware_invariant (Firmware.supervised_kept stand.safety) (by
    intro firmware moment
    constructor
    · rintro ⟨formed, config⟩
      exact ⟨⟨formed.cause, formed.limit, formed.count⟩, config⟩
    · rintro ⟨formed, config⟩
      exact ⟨⟨formed.cause, formed.limit, formed.count⟩, config⟩)
    (Firmware.construct_starts built).2 reached
  refine ⟨heard.ratio, ?_,
    reached.invariant (waits_kept stand.sensing) (construct_waits constructed),
    (heard.converging wired).2, ?_, supervised.2⟩
  · exact heard.counter.imp And.left And.left
  · rw [heard.estimation, wired]
    have initially : Proper blends filters
        (AttitudeEstimationImpl.construct stand.estimation complementary kalman) := proper
    exact initially.after _

omit [IsStrictOrderedRing F] in
/-- A driver that is still configuring may answer that it is ready. -/
theorem configures (awaits : main.firmware.Awaits)
    (configuring : main.motionActuation.state = .configuring) (now : TimePoint) :
    ∃ next, machine.step main (now, .configured true) = some next ∧
      next.firmware.Answered .ready := by
  have outstanding : (main.begin now).firmware.configurationOutstanding = true :=
    awaits.mp configuring
  show ∃ next, ((main.begin now).firmware.perform (.configured true)).map _ = some next ∧ _
  rw [Firmware.perform, if_pos outstanding]
  exact ⟨_, rfl, rfl, rfl⟩

/-- From every state the operator can arm the robot again, unless its driver has failed. -/
structure Recoverable (stand : Stand F) (start : Main F S C K) : Prop where
  recovers : ∀ main now, machine.Reachable start main → main.motionActuation.state = .ready →
    main.Rested now → ∃ held, machine.run main (stand.opening now) = some held ∧
      machine.Prevails Incident (fun converged => ∃ final,
        machine.run converged (stand.arming now) = some final ∧ final.supervisor.mode = .armed)
        (stand.holding now) held
  exactly : ∀ main since, machine.Reachable start main →
    ((∃ events final, Spaced (0 ≤ ·) since (Stand.times events) ∧
        machine.run main events = some final ∧ final.supervisor.mode = .armed) ↔
      main.motionActuation.state ≠ .failed)

omit [IsStrictOrderedRing F] in
/-- Where nothing disturbs it, a recovery that prevails is one run. -/
theorem recovery_runs {held : Main F S C K} (opened : machine.run main (stand.opening now) = some held)
    (prevails : machine.Prevails Incident (fun converged => ∃ final,
      machine.run converged (stand.arming now) = some final ∧ final.supervisor.mode = .armed)
      (stand.holding now) held) :
    ∃ final, machine.run main (stand.recovery now) = some final ∧
      final.supervisor.mode = .armed := by
  obtain ⟨converged, ran, final, armed, mode⟩ := prevails.run
  exact ⟨final, run_append.mpr ⟨converged, run_append.mpr ⟨held, opened, ran⟩, armed⟩, mode⟩

/-- Filters that hold a pitch make the robot recoverable. -/
theorem construct_recoverable (blends : HoldsPitch C F) (filters : HoldsPitch K F)
    (constructed : construct fullScale decay stand.sensing stand.estimation complementary kalman
      strategies odometryConfig balanceConfig stand.safety identityAddress powered = some start)
    (proper : blends.proper complementary ∧ filters.proper kalman) : Recoverable stand start := by
  have serving (main : Main F S C K) (reached : machine.Reachable start main) :
      Serves blends filters stand main := reachable_serves constructed proper reached
  have recovers (main : Main F S C K) (now : TimePoint) (reached : machine.Reachable start main)
      (ready : main.motionActuation.state = .ready) (rested : main.Rested now) :
      ∃ held, machine.run main (stand.opening now) = some held ∧
        machine.Prevails Incident (fun converged => ∃ final,
          machine.run converged (stand.arming now) = some final ∧ final.supervisor.mode = .armed)
          (stand.holding now) held := by
    have answered := (reachable_awaits constructed reached).answered ready (by decide)
    obtain ⟨held, opened, prepares⟩ := opens serving reached answered rested
    refine ⟨held, opened, ?_⟩
    exact (holding_leads serving now held prepares).weaken fun _ => Converging.armed serving
  refine ⟨recovers, fun main since reached => ⟨?_, ?_⟩⟩
  · rintro ⟨events, final, -, ran, armed⟩ failed
    have answered := (reachable_awaits constructed reached).answered failed (by decide)
    have still := (answer_lasts answered ⟨events, ran⟩).1
    obtain ⟨moment, built⟩ := construct_wires constructed
    obtain ⟨caller, coherent⟩ := reachable_coherent (Firmware.construct_starts built).1
      (reached.trans ⟨events, ran⟩)
    exact absurd ((coherent.ready armed).symm.trans still) (by decide)
  · intro working
    cases state : main.motionActuation.state with
    | failed => exact absurd state working
    | ready =>
        obtain ⟨now, later, rested⟩ := main.rests since
        obtain ⟨held, opened, prevails⟩ := recovers main now reached state rested
        obtain ⟨final, ran, armed⟩ := recovery_runs opened prevails
        exact ⟨_, final, stand.recovery_inOrder later, ran, armed⟩
    | configuring =>
        obtain ⟨next, stepped, answered⟩ :=
          configures (reachable_awaits constructed reached) state since
        obtain ⟨now, later, rested⟩ := next.rests since
        obtain ⟨held, opened, prevails⟩ :=
          recovers next now (reached.trans (.single stepped)) answered.1 rested
        obtain ⟨final, ran, armed⟩ := recovery_runs opened prevails
        refine ⟨(since, .configured true) :: stand.recovery now, final, ?_,
          run_cons.mpr ⟨next, stepped, ran⟩, armed⟩
        exact spaced_cons.mpr ⟨(sub_self since).ge, stand.recovery_inOrder later⟩

end Construction

section Documented
variable {B M : Type} [ComplementaryFilter B F] [KalmanFilter M F] {alpha state : B → F}
  {view : M → DocumentedKalmanFilter F} {fullScale : DutyCycle} {decay : Decay}
  {complementary : ComplementaryPitchFilter B F} {kalman : KalmanPitchFilter M F}
  {strategies : List S} {odometryConfig : WheelOdometryImpl.Config F}
  {balanceConfig : BalanceControlImpl.Config F} {identityAddress : MacAddress} {powered : TimePoint}
  {start : Main F S (ComplementaryPitchFilter B F) (KalmanPitchFilter M F)}

/-- With the documented filters a robot that can be held upright and still can be armed from every
state that the sensor, the timers, the driver, the terminal and the radio bring it to, unless the
driver has failed its configuration. -/
theorem application_recoverable (blends : BlendsAsDocumented alpha state)
    (filters : FiltersAsDocumented view) (crossover : 0 < complementary.crossoverSeconds)
    (constructed : construct fullScale decay stand.sensing stand.estimation complementary kalman
      strategies odometryConfig balanceConfig stand.safety identityAddress powered = some start) :
    Recoverable stand start :=
  construct_recoverable (ComplementaryPitchFilter.holdsPitch blends)
    (KalmanPitchFilter.holdsPitch filters) constructed ⟨crossover, trivial⟩

end Documented

section Bench
open Bench

/-- The robot is held upright and still under the configurations of `Main.cpp`. -/
def upheld : Stand ℚ where
  sensing := .default
  estimation := .default
  safety := .default
  rate := ⟨0, 0, 0⟩
  acceleration := ⟨0, 0, -standardGravity⟩
  accepted := ⟨by decide, by decide, by decide +kernel, by decide⟩
  still := ⟨by decide +kernel, by decide +kernel, by decide +kernel⟩
  few := by decide
  timely := by decide
  upright := by decide +kernel

/-- The application of `Main.cpp` with the documented filters, right after it is powered. -/
def documented : Option (Main ℚ (HostedStrategy (GainRow ℚ) (VelocityPid ℚ) ℚ)
    (ComplementaryPitchFilter WeighingFilter ℚ)
    (KalmanPitchFilter (DocumentedKalmanFilter ℚ) ℚ)) :=
  construct 1000 .slow upheld.sensing upheld.estimation (.construct .default) (.construct .default)
    (hosted .default .default) .default .default upheld.safety (Vector.replicate 6 0) 0

/-- The application of `Main.cpp` is recoverable. -/
theorem documented_application_recoverable : ∃ start, documented = some start ∧
    Recoverable upheld start := by
  have constructs : documented.isSome = true := by decide +kernel
  obtain ⟨start, constructed⟩ := Option.isSome_iff_exists.mp constructs
  refine ⟨start, constructed, ?_⟩
  have crossover : (0 : ℚ) < (ComplementaryPitchFilter.construct .default :
      ComplementaryPitchFilter WeighingFilter ℚ).crossoverSeconds := by decide +kernel
  exact application_recoverable weighing_blends documented_as_documented crossover
    constructed

end Bench
end Main
end InvertedPendulum.Application
