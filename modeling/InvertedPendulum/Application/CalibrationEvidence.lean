import InvertedPendulum.Application.Bench
import InvertedPendulum.Application.Operations
import InvertedPendulum.Application.Robot
import InvertedPendulum.Safety.Liveness

namespace InvertedPendulum.Application
open Platform Motion Odometry Estimation Sensing Control Balance Safety Telemetry Reactive Machine

section Supervision
variable {F S τ : Type} [FloatArithmetic F] [FloatRounding F] [ControlStrategy S F]
  [InertialSensing τ] {before after : SafetySupervisorImpl F (Plant F S τ)}

/-- The operation that has just ended has started a calibration. -/
def startedCalibration {σ : Type} (supervisor : SafetySupervisorImpl F σ) : Bool :=
  supervisor.calls.any fun call => call.2 matches .startCalibration

omit [FloatArithmetic F] [FloatRounding F] [ControlStrategy S F] [InertialSensing τ] in
/-- A started calibration is one of the calls of the operation. -/
theorem startedCalibration_iff {σ : Type} {supervisor : SafetySupervisorImpl F σ} :
    startedCalibration supervisor = true ↔ ∃ mode, (mode, .startCalibration) ∈ supervisor.calls := by
  unfold startedCalibration
  rw [List.any_eq_true]
  constructor
  · intro given
    obtain ⟨⟨mode, call⟩, member, matched⟩ := given
    cases call <;> first | exact ⟨mode, member⟩ | cases matched
  · intro given
    obtain ⟨mode, member⟩ := given
    exact ⟨_, member, rfl⟩

/-- A request leaves the sensing alone or starts a calibration. -/
inductive SensingStep (before after : SafetySupervisorImpl F (Plant F S τ)) : Prop where
  | kept (sensing : after.peers.sensing = before.peers.sensing)
      (uncalled : ∀ mode, (mode, .startCalibration) ∉ after.calls)
      (waiting : before.mode = .calibrating →
        InertialSensing.calibration before.peers.sensing = .calibrating → after.mode = .calibrating)
  | started (sensing : after.peers.sensing = InertialSensing.startCalibration before.peers.sensing)
      (called : ∃ mode, (mode, .startCalibration) ∈ after.calls) (mode : after.mode = .calibrating)

/-- Entering a fault leaves the sensing alone, where no calibration is waited for. -/
theorem SensingStep.faulted {middle : SafetySupervisorImpl F (Plant F S τ)}
    (cause : Safety.FaultCause) (sensing : middle.peers.sensing = before.peers.sensing)
    (quiet : middle.calls = [])
    (settled : before.mode = .calibrating →
      InertialSensing.calibration before.peers.sensing ≠ .calibrating) :
    SensingStep before (middle.enterFault cause) := by
  refine .kept ?_ ?_ ?_
  · unfold SafetySupervisorImpl.enterFault
    split <;> exact sensing
  · intro mode called
    unfold SafetySupervisorImpl.enterFault at called
    split at called <;>
      simp [SafetySupervisorImpl.leaveArmed_eq, SafetySupervisorImpl.disable, quiet] at called
  · intro calibrating running
    exact absurd running (settled calibrating)

/-- Every row of the table leaves the sensing alone or starts a calibration. -/
theorem sensingStep_outcome {request : Safety.Request F} (outcome : before.Outcome request after)
    (quiet : before.calls = []) : SensingStep before after := by
  cases outcome with
  | fed | notSteered | selfTestPending | calibrationPending | latched | notArmed | notDisarmed
  | notCleared | notRecalibrated =>
      exact .kept rfl (by simp [quiet]) fun calibrating _ => calibrating
  | counted live => exact .kept rfl (by simp [quiet]) fun calibrating _ => calibrating
  | invalid estimate _ armed | fell estimate _ armed | failed estimate _ armed | stalled armed =>
      exact .faulted _ rfl quiet (by simp [armed])
  | selfTestOverdue init => exact .faulted _ rfl quiet (by simp [init])
  | calibrationFailed calibrating failed =>
      refine .faulted _ rfl quiet fun _ => ?_
      have failed : InertialSensing.calibration before.peers.sensing = .failed := failed
      simp [failed]
  | polled live => exact .faulted _ rfl quiet (by rcases live with idle | armed <;> simp [*])
  | balanced _ _ armed | steered _ armed =>
      exact .kept rfl (by simp [quiet]) fun calibrating _ => calibrating
  | armed armable => exact .kept rfl (by simp [quiet]) (by simp [armable.idle])
  | disarmed armed =>
      exact .kept rfl (by simp [quiet, SafetySupervisorImpl.leaveArmed_eq]) (by simp [armed])
  | cleared fault => exact .kept rfl (by simp [quiet]) (by simp [fault])
  | calibrated calibrating succeeded =>
      refine .kept rfl (by simp [quiet]) fun _ running => ?_
      have succeeded : InertialSensing.calibration before.peers.sensing = .calibrated := succeeded
      rw [running] at succeeded
      cases succeeded
  | selfTestPassed init | recalibrated idle =>
      refine .started rfl ⟨before.mode, ?_⟩ rfl
      simp [SafetySupervisorImpl.startCalibration, quiet]

/-- An iteration of the loop arms nothing, starts no calibration and interrupts none. -/
structure Continues (before after : SafetySupervisorImpl F (Plant F S τ)) : Prop where
  sensing : after.peers.sensing = before.peers.sensing
  armed : after.mode = .armed → before.mode = .armed
  calibrating : before.mode = .calibrating → after.mode = .calibrating

omit [FloatArithmetic F] [FloatRounding F] [ControlStrategy S F] [InertialSensing τ] in
/-- One iteration after another continues. -/
theorem Continues.trans {first second third : SafetySupervisorImpl F (Plant F S τ)}
    (before : Continues first second) (after : Continues second third) : Continues first third :=
  ⟨after.sensing.trans before.sensing, before.armed ∘ after.armed,
    after.calibrating ∘ before.calibrating⟩

omit [InertialSensing τ] in
/-- Entering a fault leaves the sensing alone. -/
theorem enterFault_sensing (supervisor : SafetySupervisorImpl F (Plant F S τ))
    (cause : Safety.FaultCause) :
    (supervisor.enterFault cause).peers.sensing = supervisor.peers.sensing := by
  unfold SafetySupervisorImpl.enterFault
  split <;> rfl

/-- A balance iteration continues, and leaves its estimate with the supervisor. -/
theorem balance_continues (supervisor : SafetySupervisorImpl F (Plant F S τ))
    (estimate : Estimate F) (interval : Duration) :
    Continues supervisor (supervisor.balance estimate interval) ∧
      (supervisor.balance estimate interval).latest = estimate := by
  have outcome := supervisor.balance_outcome estimate interval
  refine ⟨?_, outcome.latest⟩
  generalize supervisor.balance estimate interval = after at outcome
  cases outcome with
  | fed | balanced => exact ⟨rfl, id, id⟩
  | invalid _ _ armed | fell _ _ armed | failed _ _ armed =>
      exact ⟨enterFault_sensing _ _, by simp, by simp [armed]⟩

/-- An outer iteration continues, and leaves the estimate alone. -/
theorem steer_continues (supervisor : SafetySupervisorImpl F (Plant F S τ)) (interval : Duration) :
    Continues supervisor (supervisor.steer interval) ∧
      (supervisor.steer interval).latest = supervisor.latest := by
  have outcome := supervisor.perform_outcome (.steer interval)
  refine ⟨?_, outcome.latest⟩
  change supervisor.Outcome _ (supervisor.steer interval) at outcome
  generalize supervisor.steer interval = after at outcome
  cases outcome <;> exact ⟨rfl, id, id⟩

end Supervision

namespace Robot
variable {F S C K : Type} [FloatArithmetic F] [FloatRounding F] [ControlStrategy S F]
  [FloatGeometry F] [PitchFilter C F] [PitchFilter K F]

def supervisor (robot : Robot F S C K) : SafetySupervisorImpl F (Plant F S (Gyroscope F)) :=
  robot.firmware.supervisor

/-- A sample goes through the calibration; where a balance iteration is due, its estimate is valid
only if the calibration is complete. -/
structure SampleStep (robot next : Robot F S C K) (sample : InertialSample F) : Prop where
  sensing : robot.sensing.onSample sample = some next.sensing
  ratio : next.samplesPerBalance = robot.samplesPerBalance
  armed : next.supervisor.mode = .armed → robot.supervisor.mode = .armed
  calibrating : robot.supervisor.mode = .calibrating → next.supervisor.mode = .calibrating
  delivered : robot.samplesSinceBalance + 1 < robot.samplesPerBalance ∧
      next.samplesSinceBalance = robot.samplesSinceBalance + 1 ∧
      next.supervisor.latest = robot.supervisor.latest ∨
    ¬ robot.samplesSinceBalance + 1 < robot.samplesPerBalance ∧ next.samplesSinceBalance = 0 ∧
      (next.supervisor.latest.valid = true → next.sensing.calibration = .calibrated)

/-- The machine takes a sample in this way. -/
theorem machine_sample {robot next : Robot F S C K} {arrival : TimePoint × ChassisMotion F}
    {sample : InertialSample F} (stepped : machine.step robot (arrival, .sample sample) = some next) :
    robot.SampleStep next sample := by
  obtain ⟨sensing, sampled, taken⟩ := Option.map_eq_some_iff.mp stepped
  obtain ⟨iteration, ratio⟩ := ControlLoopImpl.onMeasurement_iteration
    ((robot.begin arrival.1 arrival.2).withSensing sensing) (sensing.latest arrival.1)
  rw [taken] at iteration ratio
  have supervised : ∀ {peers}, next.peers = peers → next.supervisor = peers.firmware.supervisor :=
    fun same => congrArg (fun pipeline : Pipeline F S C K => pipeline.firmware.supervisor) same
  have continued : Continues ((robot.begin arrival.1 arrival.2).withSensing sensing).supervisor
        next.supervisor ∧
      (robot.samplesSinceBalance + 1 < robot.samplesPerBalance ∧
          next.samplesSinceBalance = robot.samplesSinceBalance + 1 ∧
          next.supervisor.latest = robot.supervisor.latest ∨
        ¬ robot.samplesSinceBalance + 1 < robot.samplesPerBalance ∧ next.samplesSinceBalance = 0 ∧
          next.supervisor.latest = (robot.peers.estimation.update (sensing.latest arrival.1)).1) := by
    cases iteration with
    | sampled early counter peers =>
        rw [supervised peers]
        exact ⟨⟨rfl, id, id⟩, .inl ⟨early, counter, rfl⟩⟩
    | balanced interval due counter peers =>
        rw [supervised peers]
        obtain ⟨balanced, latest⟩ := balance_continues
          ((robot.begin arrival.1 arrival.2).withSensing sensing).supervisor
          (robot.peers.estimation.update (sensing.latest arrival.1)).1 interval
        exact ⟨balanced, .inr ⟨due, counter, latest⟩⟩
    | steered interval outer due counter peers =>
        rw [supervised peers]
        obtain ⟨balanced, latest⟩ := balance_continues
          ((robot.begin arrival.1 arrival.2).withSensing sensing).supervisor
          (robot.peers.estimation.update (sensing.latest arrival.1)).1 interval
        obtain ⟨steered, same⟩ := steer_continues
          (((robot.begin arrival.1 arrival.2).withSensing sensing).supervisor.balance
            (robot.peers.estimation.update (sensing.latest arrival.1)).1 interval) outer
        exact ⟨balanced.trans steered, .inr ⟨due, counter, same.trans latest⟩⟩
  obtain ⟨continues, delivered⟩ := continued
  have same : next.sensing = sensing := congrArg Gyroscope.sensing continues.sensing
  refine ⟨by rw [same]; exact sampled, ratio, continues.armed, continues.calibrating, ?_⟩
  refine delivered.imp_right fun ⟨due, counter, latest⟩ => ⟨due, counter, fun valid => ?_⟩
  rw [latest] at valid
  rw [same]
  exact InertialSensingImpl.latest_valid (AttitudeEstimationImpl.update_valid valid)

/-- An operation from outside leaves the estimate alone; it leaves the sensing alone or starts a
calibration, and it arms only by the command. -/
structure OperationStep (robot next : Robot F S C K) (arrival : TimePoint × ChassisMotion F)
    (operation : Operation F) : Prop where
  ratio : next.samplesPerBalance = robot.samplesPerBalance
  counter : next.samplesSinceBalance = robot.samplesSinceBalance
  latest : next.supervisor.latest = robot.supervisor.latest
  sensing : SensingStep (robot.begin arrival.1 arrival.2).supervisor next.supervisor
  armed : next.supervisor.mode = .armed → robot.supervisor.mode = .armed ∨
    operation = .arm ∧ (robot.begin arrival.1 arrival.2).supervisor.Armable

/-- The machine performs an operation from outside in this way. -/
theorem machine_operation {robot next : Robot F S C K} {arrival : TimePoint × ChassisMotion F}
    {operation : Operation F} {external : operation.External}
    (stepped : machine.step robot (arrival, .operation operation external) = some next) :
    robot.OperationStep next arrival operation := by
  obtain ⟨firmware, performed, rfl⟩ := Option.map_eq_some_iff.mp stepped
  cases Firmware.perform_performs performed with
  | requested _ request _ requested supervisor =>
      have outcome := (robot.begin arrival.1 arrival.2).supervisor.perform_outcome request
      have supervisor : firmware.supervisor =
          (robot.begin arrival.1 arrival.2).supervisor.perform request := supervisor
      rw [← supervisor] at outcome
      refine ⟨rfl, rfl, ?_, sensingStep_outcome outcome rfl, ?_⟩
      · apply outcome.latest.trans
        cases operation <;> cases requested <;> first | rfl | cases external
      · intro armed
        rcases outcome.armedAfter armed with ⟨rfl, armable⟩ | ⟨still, -⟩
        · right
          cases operation <;> cases requested
          exact ⟨rfl, armable⟩
        · exact .inl still
  | prepared | tristate | brake | driverFault | configured =>
      refine ⟨rfl, rfl, rfl, .kept rfl ?_ fun calibrating _ => calibrating, .inl⟩
      intro mode called
      cases called

/-- The observer lists the samples since the last calibration was started, the newest first. -/
def watchedMachine : Machine (Robot F S C K × Option (List (InertialSample F)))
    ((TimePoint × ChassisMotion F) × Signal F) :=
  machine.observed fun samples _ event next =>
    match event.2 with
    | .sample sample => samples.map (sample :: ·)
    | .operation _ _ =>
        if startedCalibration next.supervisor then some [] else samples

/-- The drive is armed only on a calibrated gyroscope. -/
def ArmedCalibrated (robot : Robot F S C K) : Prop :=
  robot.supervisor.mode = .armed → robot.sensing.calibration = .calibrated

/-- The robot agrees with the samples that its observer has seen, and a valid estimate outlives the
start of a calibration until the loop runs again. -/
structure Traced (robot : Robot F S C K) (samples : Option (List (InertialSample F))) : Prop where
  ratio : robot.samplesPerBalance = 2
  counter : robot.samplesSinceBalance = 0 ∨ robot.samplesSinceBalance = 1
  never : samples = none → robot.sensing.calibration = .uncalibrated
  started : samples.isSome → robot.sensing.calibration ≠ .uncalibrated
  fresh : samples = some [] →
    robot.sensing.calibration = .calibrating ∧ robot.sensing.biasSamples = 0
  first : ∀ sample, samples = some [sample] →
    (robot.sensing.calibration = .failed ↔ robot.sensing.FailsFirst sample)
  waiting : robot.sensing.calibration = .calibrating → robot.supervisor.mode = .calibrating
  evidence : robot.supervisor.latest.valid = true → robot.sensing.calibration = .calibrated ∨
    samples = some [] ∨ robot.samplesSinceBalance = 1 ∧ ∃ sample, samples = some [sample]

/-- An arm command meets a failed sample when the supervisor would accept it, one sample has come
since the calibration was started, and that sample was invalid, moving or late. -/
def MeetsFailedSample (pair : Robot F S C K × Option (List (InertialSample F)))
    (event : (TimePoint × ChassisMotion F) × Signal F) : Prop :=
  (∃ external, event.2 = .operation .arm external) ∧
    (pair.1.begin event.1.1 event.1.2).supervisor.Armable ∧
    ∃ sample, pair.2 = some [sample] ∧ pair.1.sensing.FailsFirst sample

section Traces
variable {robot next : Robot F S C K} {samples : Option (List (InertialSample F))}

omit [FloatRounding F] [ControlStrategy S F] [FloatGeometry F] [PitchFilter C F] [PitchFilter K F] in
/-- A sample keeps the robot in agreement with its observer. -/
theorem Traced.sampled (traced : robot.Traced samples) {sample : InertialSample F}
    (step : robot.SampleStep next sample) : next.Traced (samples.map (sample :: ·)) where
  ratio := step.ratio.trans traced.ratio
  counter := by
    rcases step.delivered with ⟨early, counter, -⟩ | ⟨-, counter, -⟩
    · rw [traced.ratio] at early
      rcases traced.counter with zero | one
      · right
        rw [counter, zero]
        rfl
      · rw [one] at early
        exact absurd early (by decide)
    · exact .inl counter
  never unstarted := by
    have uncalibrated := traced.never (Option.map_eq_none_iff.mp unstarted)
    have settled : robot.sensing.calibration ≠ .calibrating := by simp [uncalibrated]
    exact (InertialSensingImpl.onSample_settled settled step.sensing).trans uncalibrated
  started some := by
    rw [Option.isSome_map] at some
    exact InertialSensingImpl.onSample_started (traced.started some) step.sensing
  fresh empty := by
    obtain ⟨list, -, impossible⟩ := Option.map_eq_some_iff.mp empty
    cases impossible
  first only single := by
    obtain ⟨list, fresh, same⟩ := Option.map_eq_some_iff.mp single
    obtain ⟨rfl, rfl⟩ := List.cons.inj same
    obtain ⟨running, empty⟩ := traced.fresh fresh
    rw [InertialSensingImpl.onSample_first running empty step.sensing]
    exact (InertialSensingImpl.onSample_fails step.sensing sample).symm
  waiting running := by
    refine step.calibrating (traced.waiting ?_)
    by_contra settled
    have same := InertialSensingImpl.onSample_settled settled step.sensing
    exact settled (same.symm.trans running)
  evidence valid := by
    rcases step.delivered with ⟨early, counter, latest⟩ | ⟨-, -, calibrated⟩
    · rw [latest] at valid
      rcases traced.evidence valid with calibrated | fresh | ⟨one, -⟩
      · left
        have settled : robot.sensing.calibration ≠ .calibrating := by simp [calibrated]
        exact (InertialSensingImpl.onSample_settled settled step.sensing).trans calibrated
      · right
        right
        rcases traced.counter with zero | one
        · refine ⟨?_, sample, by rw [fresh]; rfl⟩
          rw [counter, zero]
          rfl
        · rw [traced.ratio, one] at early
          exact absurd early (by decide)
      · rw [traced.ratio, one] at early
        exact absurd early (by decide)
    · exact .inl (calibrated valid)

omit [ControlStrategy S F] [FloatGeometry F] [PitchFilter C F] [PitchFilter K F] in
/-- An operation that leaves the sensing alone keeps the robot in agreement with its observer. -/
theorem Traced.kept (traced : robot.Traced samples) {arrival : TimePoint × ChassisMotion F}
    {operation : Operation F} (step : robot.OperationStep next arrival operation)
    (sensing : next.sensing = robot.sensing)
    (waiting : robot.supervisor.mode = .calibrating → robot.sensing.calibration = .calibrating →
      next.supervisor.mode = .calibrating) : next.Traced samples := by
  obtain ⟨ratio, counter, latest, -, -⟩ := step
  refine ⟨ratio.trans traced.ratio, ?_, ?_, ?_, ?_, ?_, ?_, ?_⟩
  · rw [counter]
    exact traced.counter
  · rw [sensing]
    exact traced.never
  · rw [sensing]
    exact traced.started
  · rw [sensing]
    exact traced.fresh
  · rw [sensing]
    exact traced.first
  · rw [sensing]
    exact fun running => waiting (traced.waiting running) running
  · rw [latest, sensing, counter]
    exact traced.evidence

omit [ControlStrategy S F] [FloatGeometry F] [PitchFilter C F] [PitchFilter K F] in
/-- An operation that starts a calibration begins a new list of samples. -/
theorem Traced.restarted (traced : robot.Traced samples) {arrival : TimePoint × ChassisMotion F}
    {operation : Operation F} (step : robot.OperationStep next arrival operation)
    (sensing : next.sensing = robot.sensing.startCalibration arrival.1)
    (mode : next.supervisor.mode = .calibrating) : next.Traced (some []) := by
  obtain ⟨ratio, counter, latest, -, -⟩ := step
  refine ⟨ratio.trans traced.ratio, ?_, by simp, ?_, ?_, by simp, fun _ => mode, ?_⟩
  · rw [counter]
    exact traced.counter
  · simp [sensing, InertialSensingImpl.startCalibration]
  · simp [sensing, InertialSensingImpl.startCalibration]
  · intro _
    exact .inr (.inl rfl)

/-- A step keeps the robot in agreement with its observer. -/
theorem traced_kept (pair : Robot F S C K × Option (List (InertialSample F)))
    (event : (TimePoint × ChassisMotion F) × Signal F)
    (after : Robot F S C K × Option (List (InertialSample F))) (traced : pair.1.Traced pair.2)
    (stepped : watchedMachine.step pair event = some after) : after.1.Traced after.2 := by
  obtain ⟨robot, samples⟩ := pair
  obtain ⟨next, later⟩ := after
  obtain ⟨arrival, signal⟩ := event
  obtain ⟨moved, rfl⟩ := observed_step.mp stepped
  cases signal with
  | sample sample => exact traced.sampled (machine_sample moved)
  | operation operation external =>
      have step := machine_operation moved
      cases step.sensing with
      | kept sensing uncalled waiting =>
          have quiet : ¬ startedCalibration next.supervisor = true := by
            rw [startedCalibration_iff]
            intro given
            obtain ⟨mode, called⟩ := given
            exact uncalled mode called
          have same : next.sensing = robot.sensing := (congrArg Gyroscope.sensing sensing).trans rfl
          simp only [quiet]
          exact traced.kept step same waiting
      | started sensing called mode =>
          have noted : startedCalibration next.supervisor = true := startedCalibration_iff.mpr called
          have restarted : next.sensing = robot.sensing.startCalibration arrival.1 :=
            congrArg Gyroscope.sensing sensing
          simp only [noted, if_true]
          exact traced.restarted step restarted mode

/-- Where a failed sample is not met, an armed drive stays on a calibrated gyroscope. -/
theorem armedCalibrated_kept (traced : robot.Traced samples) (calibrated : robot.ArmedCalibrated)
    {event : (TimePoint × ChassisMotion F) × Signal F}
    (unmet : ¬ MeetsFailedSample (robot, samples) event)
    (stepped : machine.step robot event = some next) : next.ArmedCalibrated := by
  obtain ⟨arrival, signal⟩ := event
  intro armed
  cases signal with
  | sample sample =>
      have step := machine_sample stepped
      have before := calibrated (step.armed armed)
      have settled : robot.sensing.calibration ≠ .calibrating := by simp [before]
      exact (InertialSensingImpl.onSample_settled settled step.sensing).trans before
  | operation operation external =>
      have step := machine_operation stepped
      cases step.sensing with
      | started sensing called mode =>
          rw [mode] at armed
          cases armed
      | kept sensing uncalled waiting =>
          have same : next.sensing = robot.sensing := (congrArg Gyroscope.sensing sensing).trans rfl
          rw [same]
          rcases step.armed armed with still | ⟨rfl, armable⟩
          · exact calibrated still
          · have idle : robot.supervisor.mode = .idle := armable.idle
            have unfinished : robot.sensing.calibration ≠ .calibrating := by
              intro running
              rw [traced.waiting running] at idle
              cases idle
            rcases traced.evidence armable.valid with complete | fresh | ⟨-, sample, single⟩
            · exact complete
            · exact absurd (traced.fresh fresh).1 unfinished
            · have started := traced.started (by simp [single])
              have unfailed : robot.sensing.calibration ≠ .failed := by
                intro failed
                exact unmet ⟨⟨external, rfl⟩, armable, sample, single,
                  (traced.first sample single).mp failed⟩
              cases state : robot.sensing.calibration with
              | calibrated => rfl
              | uncalibrated => exact absurd state started
              | calibrating => exact absurd state unfinished
              | failed => exact absurd state unfailed

/-- An arm command that meets a failed sample arms the drive on a failed calibration. -/
theorem MeetsFailedSample.armed (traced : robot.Traced samples)
    {event : (TimePoint × ChassisMotion F) × Signal F}
    (met : MeetsFailedSample (robot, samples) event) :
    ∃ next, machine.step robot event = some next ∧ next.supervisor.mode = .armed ∧
      next.sensing.calibration = .failed := by
  obtain ⟨arrival, signal⟩ := event
  obtain ⟨⟨external, arm⟩, armable, sample, single, fails⟩ := met
  have arm : signal = .operation .arm external := arm
  subst arm
  have failed : robot.sensing.calibration = .failed := (traced.first sample single).mpr fails
  have armable : (robot.begin arrival.1 arrival.2).supervisor.Armable := armable
  refine ⟨_, rfl, ?_, ?_⟩
  · exact congrArg SafetySupervisorImpl.mode armable.arm_eq
  · have same := congrArg (fun supervisor => supervisor.peers.sensing.sensing) armable.arm_eq
    exact (congrArg InertialSensingImpl.calibration same).trans failed

omit [FloatRounding F] [ControlStrategy S F] [FloatGeometry F] [PitchFilter C F] [PitchFilter K F] in
/-- The constructed robot is disarmed, and no calibration has been started. -/
theorem construct_traced {fullScale : DutyCycle} {decay : Decay}
    {sensingConfig : InertialSensingImpl.Config F}
    {estimationConfig : AttitudeEstimationImpl.Config F} {complementary : C} {kalman : K}
    {strategies : List S} {balanceConfig : BalanceControlImpl.Config F}
    {safetyConfig : SafetySupervisorImpl.Config F} {now : TimePoint} {chassis : ChassisMotion F}
    {start : Robot F S C K}
    (constructed : construct fullScale decay sensingConfig estimationConfig complementary kalman
      strategies balanceConfig safetyConfig now chassis = some start) :
    start.Traced none ∧ start.ArmedCalibrated := by
  obtain ⟨sensing, sensed, composed⟩ := Option.bind_eq_some_iff.mp constructed
  obtain ⟨firmware, wired, looped⟩ := Option.bind_eq_some_iff.mp composed
  obtain ⟨control, -, supervised⟩ := Option.bind_eq_some_iff.mp wired
  obtain ⟨supervisor, supervises, rfl⟩ := Option.map_eq_some_iff.mp supervised
  obtain rfl := Option.some.inj looped
  have uncalibrated : sensing.calibration = .uncalibrated := by
    unfold InertialSensingImpl.construct at sensed
    split at sensed
    · obtain rfl := Option.some.inj sensed
      rfl
    · cases sensed
  unfold SafetySupervisorImpl.construct at supervises
  split at supervises
  · obtain rfl := Option.some.inj supervises
    refine ⟨⟨rfl, .inl rfl, fun _ => uncalibrated, ?_, ?_, ?_, ?_, ?_⟩, ?_⟩
    · intro started
      cases started
    · intro fresh
      cases fresh
    · intro sample single
      cases single
    · intro running
      have running : sensing.calibration = .calibrating := running
      rw [uncalibrated] at running
      cases running
    · intro valid
      cases valid
    · intro armed
      cases armed
  · cases supervises

/-- A step keeps an armed drive on a calibrated gyroscope. -/
def KeepsCalibrated (robot : Robot F S C K) (event : (TimePoint × ChassisMotion F) × Signal F) :
    Prop :=
  ∀ next, machine.step robot event = some next → next.ArmedCalibrated

/-- The drive is armed on a calibrated gyroscope in every state of a run exactly when no arm command
of the run meets a failed sample. -/
theorem armed_calibrated_iff_failed_sample_unmet {fullScale : DutyCycle} {decay : Decay}
    {sensingConfig : InertialSensingImpl.Config F}
    {estimationConfig : AttitudeEstimationImpl.Config F} {complementary : C} {kalman : K}
    {strategies : List S} {balanceConfig : BalanceControlImpl.Config F}
    {safetyConfig : SafetySupervisorImpl.Config F} {now : TimePoint} {chassis : ChassisMotion F}
    {start : Robot F S C K}
    (constructed : construct fullScale decay sensingConfig estimationConfig complementary kalman
      strategies balanceConfig safetyConfig now chassis = some start)
    (events : List ((TimePoint × ChassisMotion F) × Signal F)) :
    machine.Along KeepsCalibrated start events ↔
      watchedMachine.Along (fun pair event => ¬ MeetsFailedSample pair event) (start, none)
        events := by
  have initially : start.Traced none ∧ start.ArmedCalibrated := construct_traced constructed
  have observed : watchedMachine.Along (fun pair event => KeepsCalibrated pair.1 event)
      (start, none) events ↔ machine.Along KeepsCalibrated start events := observed_along none
  apply observed.symm.trans
  refine along_congr (fun pair => pair.1.Traced pair.2 ∧ pair.1.ArmedCalibrated) ?_ ?_ initially events
  · rintro ⟨robot, samples⟩ event ⟨next, later⟩ ⟨traced, calibrated⟩ unmet stepped
    refine ⟨traced_kept _ _ _ traced stepped, ?_⟩
    exact armedCalibrated_kept traced calibrated unmet (observed_step.mp stepped).1
  · rintro ⟨robot, samples⟩ event ⟨traced, calibrated⟩
    constructor
    · intro keeps met
      obtain ⟨next, stepped, armed, failed⟩ := met.armed traced
      rw [keeps next stepped armed] at failed
      cases failed
    · intro unmet next stepped
      exact armedCalibrated_kept traced calibrated unmet stepped

end Traces

section Bench
open Bench

/-- The robot of `Main.cpp` has every configuration at its default. -/
def main : Option (Robot ℚ (HostedStrategy (GainRow ℚ) (VelocityPid ℚ) ℚ) (AccelerometerFilter ℚ)
    (AccelerometerFilter ℚ)) :=
  construct 1000 .slow .default .default ⟨0⟩ ⟨0⟩ (hosted .default .default) .default .default 0
    ⟨0, 0⟩

/-- The robot stands upright on still wheels. -/
def upright (count : Nat) (angularRate : ℚ) : (TimePoint × ChassisMotion ℚ) × Signal ℚ :=
  ((milliseconds count, ⟨0, 0⟩),
    .sample ⟨⟨0, angularRate, 0⟩, ⟨0, 0, -standardGravity⟩, milliseconds count, true⟩)

/-- A calibration completes, the estimate converges, and of the next calibration the first sample,
on which no balance iteration is due, is moving. -/
def movedRecalibration : List ((TimePoint × ChassisMotion ℚ) × Signal ℚ) :=
  let still (index : Nat) := upright (3 * index) 0
  let pressed (count : Nat) (operation : Operation ℚ) (external : operation.External) :=
    ((milliseconds count, (⟨0, 0⟩ : ChassisMotion ℚ)), Signal.operation operation external)
  [pressed 0 (.configured true) trivial, still 1, pressed 3 .supervise trivial] ++
    (List.range' 2 334).map still ++ [pressed 1005 .supervise trivial] ++
    (List.range' 336 167).map still ++
    [pressed 1506 .calibrate trivial, upright 1509 1, pressed 1509 .supervise trivial,
      pressed 1509 .clearFault trivial, pressed 1509 .arm trivial]

/-- The robot is armed on a gyroscope whose calibration has failed. -/
theorem armed_on_failed_calibration : ∃ start, main = some start ∧
    ∃ final, machine.run start movedRecalibration = some final ∧ final.supervisor.mode = .armed ∧
      final.sensing.calibration = .failed := by
  have evaluated : ((main.bind fun start => machine.run start movedRecalibration).any fun final =>
      final.supervisor.mode = .armed ∧ final.sensing.calibration = .failed) = true := by
    decide +kernel
  obtain ⟨final, ran, ends⟩ := (Option.any_eq_true _ _).mp evaluated
  obtain ⟨start, constructed, ran⟩ := Option.bind_eq_some_iff.mp ran
  exact ⟨start, constructed, final, ran, of_decide_eq_true ends⟩

/-- Both sides of the condition agree on this run, where each of them fails. -/
theorem armed_calibrated_iff_failed_sample_unmet_moved : ∃ start, main = some start ∧
    (machine.Along KeepsCalibrated start movedRecalibration ↔
      watchedMachine.Along (fun pair event => ¬ MeetsFailedSample pair event) (start, none)
        movedRecalibration) := by
  obtain ⟨start, constructed⟩ := Option.isSome_iff_exists.mp (by decide +kernel : main.isSome = true)
  exact ⟨start, constructed, armed_calibrated_iff_failed_sample_unmet constructed movedRecalibration⟩

end Bench
end Robot
end InvertedPendulum.Application
