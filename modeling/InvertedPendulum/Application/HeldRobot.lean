import InvertedPendulum.Application.Upkeep
import InvertedPendulum.Estimation.HoldingStill

namespace InvertedPendulum.Application
open Platform Motion Odometry Estimation Sensing Control Balance Safety Telemetry Link Cli Reactive
  Machine AttitudeEstimationImpl InertialSensingImpl

/-- A robot is held upright and still, under configurations that fit its samples. -/
structure Stand (F : Type) [Field F] [LinearOrder F] [FloatGeometry F] where
  sensing : InertialSensingImpl.Config F
  estimation : AttitudeEstimationImpl.Config F
  safety : SafetySupervisorImpl.Config F
  rate : InertialAxes F
  acceleration : InertialAxes F
  accepted : sensing.Accepted
  still : Within sensing (held rate acceleration 0)
  few : sensing.calibrationWindow ≤ (2 ^ 32 - 1) * sensing.samplePeriod
  timely : sensing.samplePeriod ≤ estimation.maximumInterval
  upright : |accelerometerPitch acceleration| ≤ safety.armWindow

namespace Stand
variable {F : Type} [Field F] [LinearOrder F] [FloatGeometry F]

def pitch (stand : Stand F) : F := accelerometerPitch stand.acceleration

/-- This is the time of a sample that comes so many periods later. -/
def time (stand : Stand F) (since : TimePoint) (count : Nat) : TimePoint :=
  since + count * stand.sensing.samplePeriod

theorem time_zero (stand : Stand F) (since : TimePoint) : stand.time since 0 = since := by
  simp [time]

theorem time_succ (stand : Stand F) (since : TimePoint) (count : Nat) :
    stand.time since (count + 1) = stand.time since count + stand.sensing.samplePeriod := by
  unfold time
  push_cast
  ring

/-- So many samples of a calibration go before the one that completes it. -/
def filling (stand : Stand F) : Nat :=
  ((stand.sensing.calibrationWindow - 1) / stand.sensing.samplePeriod).toNat

/-- The estimation converges with the sample that comes after so many. -/
def converging (stand : Stand F) : Nat :=
  (stand.estimation.convergenceInterval / stand.sensing.samplePeriod).toNat

theorem filling_iff (stand : Stand F) {count : Nat} :
    count ≤ stand.filling ↔ count * stand.sensing.samplePeriod < stand.sensing.calibrationWindow := by
  have quotient : 0 ≤ (stand.sensing.calibrationWindow - 1) / stand.sensing.samplePeriod :=
    Int.ediv_nonneg (Int.sub_nonneg_of_le stand.accepted.window) stand.accepted.period.le
  unfold filling
  rw [Int.le_toNat quotient, Int.le_ediv_iff_mul_le stand.accepted.period, Int.le_sub_one_iff]

/-- The samples of a calibration do not wrap its count. -/
theorem filling_few (stand : Stand F) {count : Nat} (before : count ≤ stand.filling) :
    count + 1 < 2 ^ 32 := by
  have early := (stand.filling_iff.mp before).trans_le stand.few
  have below : (count : Int) < 2 ^ 32 - 1 := lt_of_mul_lt_mul_right early stand.accepted.period.le
  omega

theorem converging_spans (stand : Stand F) :
    stand.estimation.convergenceInterval ≤
      ((stand.converging + 1 : Nat) : Int) * stand.sensing.samplePeriod := by
  have positive := stand.accepted.period
  have quotient : stand.estimation.convergenceInterval / stand.sensing.samplePeriod + 1 ≤
      ((stand.converging + 1 : Nat) : Int) := by
    unfold converging
    push_cast
    exact Int.add_le_add_right (Int.self_le_toNat _) 1
  calc stand.estimation.convergenceInterval
      ≤ (stand.estimation.convergenceInterval / stand.sensing.samplePeriod + 1) *
          stand.sensing.samplePeriod := (Int.lt_ediv_add_one_mul_self _ positive).le
    _ ≤ ((stand.converging + 1 : Nat) : Int) * stand.sensing.samplePeriod :=
        mul_le_mul_of_nonneg_right quotient positive.le

def sample (stand : Stand F) (sampledAt : TimePoint) : InertialSample F :=
  held stand.rate stand.acceleration sampledAt

end Stand

namespace Main
variable {F S C K : Type} [Field F] [LinearOrder F] [IsStrictOrderedRing F] [FloatRounding F]
  [FloatGeometry F] [FloatPi F] [FloatBits F] [FloatImage F] [TextInput F] [ControlStrategy S F]
  [PitchFilter C F] [PitchFilter K F] {blends : HoldsPitch C F} {filters : HoldsPitch K F}
  {stand : Stand F} {start main next : Main F S C K} {now time : TimePoint}

/-- These facts hold of every reachable state. -/
structure Serves (blends : HoldsPitch C F) (filters : HoldsPitch K F) (stand : Stand F)
    (main : Main F S C K) : Prop where
  ratio : main.robot.samplesPerBalance = 2
  counter : main.robot.samplesSinceBalance = 0 ∨ main.robot.samplesSinceBalance = 1
  waits : main.Waits stand.sensing
  estimation : main.attitudeEstimation.config = stand.estimation
  proper : Proper blends filters main.attitudeEstimation
  safety : main.supervisor.config = stand.safety

/-- The driver is ready, and the last sample has just come from the held robot. -/
structure Holds (blends : HoldsPitch C F) (filters : HoldsPitch K F) (stand : Stand F)
    (start : Main F S C K) (time : TimePoint) (main : Main F S C K) : Prop where
  reached : machine.Reachable start main
  ready : main.firmware.Answered .ready
  sees : Sees stand.rate stand.acceleration time main.inertialSensing.sensing
  steady : Steady blends filters main.attitudeEstimation stand.pitch time

/-- The timer and the operator make these requests of the supervisor. -/
def Event.request? : Event F → Option (Safety.Request F)
  | .supervise => some .supervise
  | .typed .arm _ => some .arm
  | .typed .disarm _ => some .disarm
  | .typed .clearFault _ => some .clearFault
  | .typed .calibrate _ => some .calibrate
  | _ => none

/-- A request reaches the supervisor alone. -/
structure RequestStep (main next : Main F S C K) (now : TimePoint) (request : Safety.Request F) :
    Prop where
  performed : next.supervisor = (main.begin now).supervisor.perform request
  estimation : next.attitudeEstimation = main.attitudeEstimation

omit [IsStrictOrderedRing F] [FloatGeometry F] [FloatPi F] [FloatBits F] [FloatImage F]
  [TextInput F] [PitchFilter C F] [PitchFilter K F] in
theorem RequestStep.outcome {request : Safety.Request F} (step : main.RequestStep next now request) :
    (main.begin now).supervisor.Outcome request next.supervisor := by
  rw [step.performed]
  exact (main.begin now).supervisor.perform_outcome request

omit [IsStrictOrderedRing F] in
theorem machine_requests {event : Event F} {request : Safety.Request F}
    (requested : event.request? = some request) (main : Main F S C K) (now : TimePoint) :
    ∃ next, machine.step main (now, event) = some next ∧ main.RequestStep next now request := by
  refine ⟨(main.begin now).withFirmware ((main.begin now).firmware.withSupervisor
    ((main.begin now).supervisor.perform request)), ?_, rfl, rfl⟩
  cases event with
  | supervise =>
      obtain rfl := Option.some.inj requested
      rfl
  | typed command params =>
      cases command with
      | arm | disarm | clearFault | calibrate =>
          obtain rfl := Option.some.inj requested
          rfl
      | _ => cases requested
  | _ => cases requested

omit [IsStrictOrderedRing F] in
/-- The sample is answered where the calibration answers it. -/
theorem machine_answers {sample : InertialSample F} {sensing : InertialSensingImpl F}
    (answered : main.inertialSensing.sensing.onSample sample = some sensing) (now : TimePoint) :
    ∃ next, machine.step main (now, .sample sample) = some next ∧
      next.inertialSensing.sensing = sensing := by
  have answers : ∃ next, machine.step main (now, .sample sample) = some next := by
    show ∃ next, ((main.inertialSensing.sensing.onSample sample).map _).map _ = some next
    rw [answered]
    exact ⟨_, rfl⟩
  obtain ⟨next, stepped⟩ := answers
  have taken := (sample_upkeep stepped).sensing
  rw [answered] at taken
  exact ⟨next, stepped, (Option.some.inj taken).symm⟩

omit [IsStrictOrderedRing F] in
/-- A step goes on from a reachable state with a ready driver. -/
theorem onward (reached : machine.Reachable start main) (ready : main.firmware.Answered .ready)
    {event : TimePoint × Event F} (stepped : machine.step main event = some next) :
    machine.Reachable start next ∧ next.firmware.Answered .ready :=
  ⟨reached.trans (.single stepped), answer_lasts ready (.single stepped)⟩

omit [IsStrictOrderedRing F] in
/-- No request moves a held robot. -/
theorem Holds.requested (holds : Holds blends filters stand start time main) {event : Event F}
    {request : Safety.Request F} (requested : event.request? = some request) (now : TimePoint) :
    ∃ next, machine.step main (now, event) = some next ∧
      Holds blends filters stand start time next ∧ main.RequestStep next now request := by
  obtain ⟨next, stepped, step⟩ := machine_requests requested main now
  obtain ⟨reached, ready⟩ := onward holds.reached holds.ready stepped
  refine ⟨next, stepped, ⟨reached, ready, ?_, ?_⟩, step⟩
  · rcases request_senses step.outcome with ⟨same, -⟩ | started
    · rw [same]
      exact holds.sees
    · rw [started]
      exact ⟨holds.sees.sampled, holds.sees.last⟩
  · rw [step.estimation]
    exact holds.steady

/-- The sensor and the estimation have rested for so long that the next sample starts both anew. -/
structure Rested (now : TimePoint) (main : Main F S C K) : Prop where
  sensing : main.inertialSensing.sensing.gapSince main.inertialSensing.sensing.origin now = true
  estimation : main.attitudeEstimation.config.maximumInterval <
    now - main.attitudeEstimation.previousSample

omit [Field F] [LinearOrder F] [IsStrictOrderedRing F] [FloatRounding F] [FloatGeometry F]
  [FloatPi F] [FloatBits F] [FloatImage F] [TextInput F] [ControlStrategy S F] [PitchFilter C F]
  [PitchFilter K F] in
/-- Every robot has rested at some later time. -/
theorem rests (main : Main F S C K) (since : TimePoint) :
    ∃ now, since ≤ now ∧ main.Rested now := by
  let stale := main.inertialSensing.sensing.origin +
    main.inertialSensing.sensing.config.stalePeriods.toNat *
      main.inertialSensing.sensing.config.samplePeriod
  let late := main.attitudeEstimation.previousSample + main.attitudeEstimation.config.maximumInterval
  let latest := max since (max stale late)
  have rested : stale ≤ latest ∧ late ≤ latest :=
    ⟨(le_max_left stale late).trans (le_max_right since _),
      (le_max_right stale late).trans (le_max_right since _)⟩
  refine ⟨latest + 1, (le_max_left since _).trans (Int.le_add_one le_rfl), ?_, ?_⟩
  · exact decide_eq_true_iff.mpr (lt_sub_iff_add_lt'.mpr (Int.lt_add_one_of_le rested.1))
  · exact lt_sub_iff_add_lt'.mpr (Int.lt_add_one_of_le rested.2)

omit [IsStrictOrderedRing F] in
/-- After a rest the first sample of the held robot ends every calibration. -/
theorem Rested.held (rested : main.Rested now) (reached : machine.Reachable start main)
    (ready : main.firmware.Answered .ready) (serves : Serves blends filters stand main) :
    ∃ next, machine.step main (now, .sample (stand.sample now)) = some next ∧
      Holds blends filters stand start now next ∧
      next.inertialSensing.sensing.calibration ≠ .calibrating := by
  obtain ⟨sensing, answered, sees, settled⟩ := rested_sees stand.rate
    stand.acceleration rested.sensing
  obtain ⟨next, stepped, rfl⟩ := machine_answers answered now
  obtain ⟨onward, still⟩ := onward reached ready stepped
  refine ⟨next, stepped, ⟨onward, still, sees, ?_⟩, settled⟩
  have configured := (serves.waits.sampled (sample_upkeep stepped)).config
  have accepted : next.inertialSensing.sensing.config.Accepted := by
    rw [configured]
    exact stand.accepted
  obtain ⟨acceleration, sampledAt, -, -⟩ := sees.latest accepted
  rw [(machine_sample stepped).estimation]
  have late : main.attitudeEstimation.config.maximumInterval <
      (next.inertialSensing.sensing.latest now).sampledAt -
        main.attitudeEstimation.previousSample := by
    rw [sampledAt]
    exact rested.estimation
  have steady := serves.proper.steady (congrArg accelerometerPitch acceleration)
    fun valid => ⟨valid, .inr (.inr late)⟩
  rw [sampledAt] at steady
  exact steady

/-- A sample of a held robot goes on with the estimation where the gyroscope is calibrated. -/
structure HeldStep (stand : Stand F) (main next : Main F S C K) (sampledAt : TimePoint) : Prop where
  upkeep : main.SampleUpkeep next (stand.sample sampledAt)
  step : main.SampleStep next sampledAt
  runs : next.inertialSensing.sensing.calibration = .calibrated →
    next.attitudeEstimation.running = true ∧ next.attitudeEstimation.latest.pitch = stand.pitch ∧
      (main.attitudeEstimation.running = true →
        next.attitudeEstimation.convergenceStarted = main.attitudeEstimation.convergenceStarted ∧
        (next.attitudeEstimation.latest.valid = true ↔ stand.estimation.convergenceInterval ≤
          sampledAt - main.attitudeEstimation.convergenceStarted))

/-- The next sample of a held robot leaves it held, where a calibration has taken the rate. -/
theorem Holds.sampled (holds : Holds blends filters stand start time main)
    (serves : Serves blends filters stand main) {sensing : InertialSensingImpl F}
    (answered : main.inertialSensing.sensing.onSample
      (stand.sample (time + stand.sensing.samplePeriod)) = some sensing)
    (sees : Sees stand.rate stand.acceleration (time + stand.sensing.samplePeriod) sensing)
    (unbiased : sensing.calibration = .calibrated → sensing.bias.y = stand.rate.y) :
    ∃ next, machine.step main (time + stand.sensing.samplePeriod,
        .sample (stand.sample (time + stand.sensing.samplePeriod))) = some next ∧
      Holds blends filters stand start (time + stand.sensing.samplePeriod) next ∧
      next.inertialSensing.sensing = sensing ∧
      HeldStep stand main next (time + stand.sensing.samplePeriod) := by
  obtain ⟨next, stepped, rfl⟩ := machine_answers answered (time + stand.sensing.samplePeriod)
  obtain ⟨reached, ready⟩ := onward holds.reached holds.ready stepped
  have step := machine_sample stepped
  have upkeep := sample_upkeep stepped
  have accepted : next.inertialSensing.sensing.config.Accepted := by
    rw [(serves.waits.sampled upkeep).config]
    exact stand.accepted
  obtain ⟨acceleration, sampledAt, rate, valid⟩ := sees.latest accepted
  have still : (next.inertialSensing.sensing.latest
      (time + stand.sensing.samplePeriod)).valid = true → pitchRateAboutBodyY
        (next.inertialSensing.sensing.latest (time + stand.sensing.samplePeriod)).angularRate =
          0 := by
    intro measured
    unfold pitchRateAboutBodyY
    rw [rate, unbiased (valid.mp measured), sub_self, neg_zero]
  have elapsed : (next.inertialSensing.sensing.latest
      (time + stand.sensing.samplePeriod)).sampledAt - time = stand.sensing.samplePeriod := by
    rw [sampledAt, add_sub_cancel_left]
  have timely : stand.sensing.samplePeriod ≤ main.attitudeEstimation.config.maximumInterval := by
    rw [serves.estimation]
    exact stand.timely
  obtain ⟨steady, runs⟩ := holds.steady.update (congrArg accelerometerPitch acceleration) still
    (elapsed.symm ▸ stand.accepted.period) (elapsed.symm ▸ timely)
  rw [← step.estimation, sampledAt] at steady
  refine ⟨next, stepped, ⟨reached, ready, sees, steady⟩, rfl, upkeep, step, ?_⟩
  intro calibrated
  rw [← step.estimation, ← update_latest, ← step.estimation, sampledAt, serves.estimation] at runs
  obtain ⟨pitch, running, goesOn⟩ := runs (valid.mpr calibrated)
  exact ⟨running, pitch, goesOn⟩

end Main
end InvertedPendulum.Application
