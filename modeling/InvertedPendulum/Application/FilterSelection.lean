import InvertedPendulum.Application.MainRefinement
import InvertedPendulum.Estimation.Convergence

namespace InvertedPendulum.Application
open Platform Motion Odometry Estimation Sensing Control Balance Safety Telemetry Link Cli Reactive
  Machine AttitudeEstimationImpl

section Estimations
variable {F C K : Type} [FloatArithmetic F] [FloatGeometry F] [PitchFilter C F] [PitchFilter K F]
  {estimation : AttitudeEstimationImpl F C K} {calls : List (Call F)}

omit [FloatArithmetic F] [FloatGeometry F] [PitchFilter C F] [PitchFilter K F] in
/-- A converging estimation has earned its valid estimate. -/
theorem converging_earned (converging : estimation.Converging calls)
    (valid : estimation.latest.valid = true) : ∃ front first rest,
      calls = front ++ (first :: rest).map .update ∧ Earned estimation.config first rest := by
  obtain ⟨running, spans⟩ := converging.valid valid
  obtain ⟨front, first, rest, split, since⟩ := converging.running running
  rw [since.begun, since.previous] at spans
  exact ⟨front, first, rest, split, since.consecutive, spans⟩

/-- These are the measurements among the calls. -/
def updates (calls : List (Call F)) : List (Call F) := calls.filter (· matches .update _)

omit [FloatArithmetic F] [FloatGeometry F] in
@[simp] theorem updates_append (front back : List (Call F)) :
    updates (front ++ back) = updates front ++ updates back := List.filter_append ..

omit [FloatArithmetic F] [FloatGeometry F] in
/-- The measurements that end the calls are among those after the last selection. -/
theorem updates_since {front since : List (Call F)} {measurements : List (Measurement F)}
    {filter : Filter} (split : calls ++ since = front ++ measurements.map .update)
    (selected : .select filter ∈ since) : measurements.length ≤ (updates since).length := by
  obtain ⟨before, behind, rfl⟩ := List.append_of_mem selected
  have counted : updates (measurements.map Call.update) = measurements.map .update := by
    refine List.filter_eq_self.mpr ?_
    intro call member
    obtain ⟨measurement, -, rfl⟩ := List.mem_map.mp member
    rfl
  have split : (calls ++ before ++ [.select filter]) ++ behind =
      front ++ measurements.map .update := by simpa using split
  rcases List.append_eq_append_iff.mp split with ⟨between, -, rfl⟩ | ⟨between, overlap, same⟩
  · have shorter : (updates (measurements.map Call.update)).length ≤
        (updates (before ++ .select filter :: (between ++ measurements.map .update))).length := by
      simp [updates]
      omega
    rw [counted, List.length_map] at shorter
    exact shorter
  · -- the measurements cannot reach back over the selection
    cases between using List.reverseRecOn with
    | nil =>
        rw [List.nil_append] at same
        have shorter : (updates (measurements.map Call.update)).length ≤
            (updates (before ++ .select filter :: behind)).length := by
          rw [same]
          simp [updates]
        rw [counted, List.length_map] at shorter
        exact shorter
    | append_singleton between call =>
        rw [← List.append_assoc] at overlap
        obtain ⟨-, last⟩ := List.append_inj' overlap rfl
        obtain rfl := (List.cons.inj last).1
        have member : Call.select filter ∈ measurements.map Call.update := by
          rw [same]
          simp
        obtain ⟨measurement, -, impossible⟩ := List.mem_map.mp member
        cases impossible

/-- The first measurement after a selection cannot be fused, and the second cannot span the
convergence interval. -/
theorem selected_invalid {since : List (Call F)} {measurement : Measurement F} {filter : Filter}
    (converging : estimation.Converging (calls ++ since))
    (short : estimation.config.maximumInterval < estimation.config.convergenceInterval)
    (selected : .select filter ∈ since) (few : (updates since).length ≤ 1) :
    (estimation.update measurement).1.valid = false := by
  cases estimation.update_updated measurement with
  | stopped _ _ cause => exact cause.1
  | restarted _ _ _ _ cause => exact cause.1
  | fused fuses _ _ _ valid _ =>
      obtain ⟨front, first, rest, split, run⟩ := converging.running fuses.running
      have counted := (updates_since split selected).trans few
      obtain rfl : rest = [] := List.length_eq_zero_iff.mp (by simpa using counted)
      have timely := fuses.timely
      rw [run.previous, times, List.map_nil, lastTime_nil] at timely
      rw [Bool.eq_false_iff, Ne, valid, run.begun, not_le]
      exact timely.trans_lt short

end Estimations

namespace Main
variable {F S C K : Type} [FloatArithmetic F] [FloatRounding F] [FloatGeometry F] [FloatPi F]
  [FloatBits F] [FloatImage F] [TextInput F] [ControlStrategy S F] [PitchFilter C F]
  [PitchFilter K F]

/-- A sample updates the estimate; a balance iteration hands it to the supervisor, which latches an
invalid one while it is armed. -/
structure SampleStep (main next : Main F S C K) (now : TimePoint) : Prop where
  estimation : next.attitudeEstimation =
    (main.attitudeEstimation.update (next.inertialSensing.sensing.latest now)).2
  ratio : next.robot.samplesPerBalance = main.robot.samplesPerBalance
  armed : next.supervisor.mode = .armed → main.supervisor.mode = .armed
  delivered : main.robot.samplesSinceBalance + 1 < main.robot.samplesPerBalance ∧
      next.robot.samplesSinceBalance = main.robot.samplesSinceBalance + 1 ∧
      next.supervisor.latest = main.supervisor.latest ∨
    ¬ main.robot.samplesSinceBalance + 1 < main.robot.samplesPerBalance ∧
      next.robot.samplesSinceBalance = 0 ∧
      next.supervisor.latest = next.attitudeEstimation.latest ∧
      (main.supervisor.mode = .armed → next.supervisor.latest.valid = false →
        next.supervisor.mode = .fault ∧ next.supervisor.cause = .estimateInvalid)

omit [FloatGeometry F] [FloatPi F] [FloatBits F] [FloatImage F] [TextInput F] [PitchFilter C F]
  [PitchFilter K F] in
/-- An armed supervisor latches an invalid estimate. -/
theorem balance_latches {supervisor : SafetySupervisorImpl F (Plant F S (Gyroscope F))}
    {estimate : Estimate F} (armed : supervisor.mode = .armed) (invalid : estimate.valid = false)
    (interval : Duration) :
    (supervisor.balance estimate interval).mode = .fault ∧
      (supervisor.balance estimate interval).cause = .estimateInvalid := by
  have outcome := supervisor.balance_outcome estimate interval
  generalize supervisor.balance estimate interval = after at outcome
  cases outcome with
  | fed _ _ disarmed => exact absurd armed disarmed
  | invalid => simp
  | fell _ _ _ valid | failed _ _ _ valid | balanced _ _ _ valid =>
      rw [invalid] at valid
      cases valid

omit [FloatGeometry F] [FloatPi F] [FloatBits F] [FloatImage F] [TextInput F] [PitchFilter C F]
  [PitchFilter K F] in
/-- A latched supervisor is not steered. -/
theorem steer_latched {supervisor : SafetySupervisorImpl F (Plant F S (Gyroscope F))}
    (latched : supervisor.mode = .fault) (interval : Duration) :
    supervisor.steer interval = supervisor := by
  unfold SafetySupervisorImpl.steer
  rw [if_neg (by simp [latched])]

/-- The machine takes a sample in this way. -/
theorem machine_sample {main next : Main F S C K} {now : TimePoint} {sample : InertialSample F}
    (stepped : machine.step main (now, .sample sample) = some next) : main.SampleStep next now := by
  obtain ⟨robot, performed, rfl⟩ := Option.map_eq_some_iff.mp stepped
  obtain ⟨sensing, -, taken⟩ := Option.map_eq_some_iff.mp performed
  let sampled : Robot F S C K := (main.begin now).robot.withSensing sensing
  obtain ⟨iteration, ratio⟩ := ControlLoopImpl.onMeasurement_iteration sampled (sensing.latest now)
  rw [taken] at iteration ratio
  let estimated := main.attitudeEstimation.update (sensing.latest now)
  have sensed {peers : Pipeline F S C K} (same : robot.peers = peers)
      (kept : peers.firmware.supervisor.peers.sensing.sensing = sensing)
      (updated : peers.estimation = estimated.2) :
      ({ main.begin now with robot } : Main F S C K).attitudeEstimation =
        (main.attitudeEstimation.update
          (({ main.begin now with robot } : Main F S C K).inertialSensing.sensing.latest now)).2 := by
    change robot.peers.estimation = (main.attitudeEstimation.update
      (robot.peers.firmware.supervisor.peers.sensing.sensing.latest now)).2
    rw [same, kept]
    exact updated
  have supervised {peers : Pipeline F S C K} (same : robot.peers = peers) :
      ({ main.begin now with robot } : Main F S C K).supervisor = peers.firmware.supervisor :=
    congrArg (fun pipeline : Pipeline F S C K => pipeline.firmware.supervisor) same
  have stored {peers : Pipeline F S C K} (same : robot.peers = peers)
      (updated : peers.estimation = estimated.2) : robot.peers.estimation.latest = estimated.1 := by
    rw [same, updated]
    exact update_latest
  cases iteration with
  | sampled early counter peers =>
      refine ⟨sensed peers rfl rfl, ratio, ?_, ?_⟩
      · rw [supervised peers]
        exact id
      · rw [supervised peers]
        exact .inl ⟨early, counter, rfl⟩
  | balanced interval due counter peers =>
      obtain ⟨balanced, latest⟩ := balance_continues sampled.supervisor estimated.1 interval
      have same := supervised peers
      refine ⟨sensed peers (congrArg Gyroscope.sensing balanced.sensing) rfl, ratio, ?_, ?_⟩
      · rw [same]
        exact balanced.armed
      · refine .inr ⟨due, counter, ?_, ?_⟩
        · rw [same]
          exact latest.trans (stored peers rfl).symm
        · rw [same]
          intro armed invalid
          have invalid : estimated.1.valid = false := by
            rw [← latest]
            exact invalid
          have armed : sampled.supervisor.mode = .armed := armed
          have latched := balance_latches armed invalid interval
          exact latched
  | steered interval outer due counter peers =>
      obtain ⟨balanced, latest⟩ := balance_continues sampled.supervisor estimated.1 interval
      obtain ⟨steered, kept⟩ :=
        steer_continues (sampled.supervisor.balance estimated.1 interval) outer
      have same := supervised peers
      refine ⟨sensed peers (congrArg Gyroscope.sensing (balanced.trans steered).sensing) rfl, ratio,
        ?_, ?_⟩
      · rw [same]
        exact (balanced.trans steered).armed
      · refine .inr ⟨due, counter, ?_, ?_⟩
        · rw [same]
          exact (kept.trans latest).trans (stored peers rfl).symm
        · rw [same]
          intro armed invalid
          have invalid : estimated.1.valid = false := by
            rw [← latest, ← kept]
            exact invalid
          have armed : sampled.supervisor.mode = .armed := armed
          have latched := balance_latches armed invalid interval
          have still := steer_latched latched.1 outer
          rw [← still] at latched
          exact latched

/-- Any other event leaves the delivered estimate alone; it arms only on a valid one, and it reaches
the estimation only by a selection. -/
structure OtherStep (main next : Main F S C K) (event : Event F) : Prop where
  estimation : next.attitudeEstimation =
    event.filter.elim main.attitudeEstimation main.attitudeEstimation.select
  ratio : next.robot.samplesPerBalance = main.robot.samplesPerBalance
  counter : next.robot.samplesSinceBalance = main.robot.samplesSinceBalance
  latest : next.supervisor.latest = main.supervisor.latest
  armed : next.supervisor.mode = .armed →
    main.supervisor.mode = .armed ∨ main.supervisor.latest.valid = true

/-- The machine takes every other event in this way. -/
theorem machine_other {main next : Main F S C K} {now : TimePoint} {event : Event F}
    (unsampled : ∀ sample, event ≠ .sample sample)
    (stepped : machine.step main (now, event) = some next) : main.OtherStep next event := by
  obtain ⟨operation, asked, performed⟩ := perform_performs unsampled stepped
  have supervised : next.supervisor.latest = main.supervisor.latest ∧
      (next.supervisor.mode = .armed →
        main.supervisor.mode = .armed ∨ main.supervisor.latest.valid = true) := by
    cases operation with
    | none =>
        have same : (main.begin now).supervisor = next.supervisor :=
          congrArg Firmware.supervisor (Option.some.inj performed)
        rw [← same]
        exact ⟨rfl, .inl⟩
    | some operation =>
        have operated : Robot.machine.step main.robot
            ((now, main.wheelOdometry.chassis), .operation operation (asked operation rfl).external) =
            some ((main.begin now).robot.withFirmware next.firmware) :=
          Option.map_eq_some_iff.mpr ⟨next.firmware, performed, rfl⟩
        have step := Robot.machine_operation operated
        refine ⟨step.latest, fun armed => ?_⟩
        rcases step.armed armed with still | ⟨-, armable⟩
        · exact .inl still
        · exact .inr armable.valid
  obtain ⟨latest, armed⟩ := supervised
  obtain ⟨estimation, loop⟩ := other_loops unsampled stepped
  have ratio := congrArg (fun robot : Robot F S C K => robot.samplesPerBalance) loop
  have counter := congrArg (fun robot : Robot F S C K => robot.samplesSinceBalance) loop
  exact ⟨estimation, ratio, counter, latest, armed⟩

/-- The observer has heard the calls up to the estimate that the supervisor has, and those since. -/
structure Hearing (F : Type) where
  calls : List (Call F)
  since : List (Call F)

/-- A balance iteration delivers the estimate, with all that was heard before it. -/
def hear (hearing : Hearing F) (_ : Main F S C K) (event : TimePoint × Event F)
    (next : Main F S C K) : Hearing F :=
  match event.2 with
  | .sample _ =>
      let since := hearing.since ++ [.update (next.inertialSensing.sensing.latest event.1)]
      if next.robot.samplesSinceBalance = 0 then ⟨hearing.calls ++ since, []⟩
      else { hearing with since }
  | other => { hearing with since := hearing.since ++ (other.filter.map .select).toList }

def heardMachine : Machine (Main F S C K × Hearing F) (TimePoint × Event F) :=
  machine.observed hear

/-- The estimation is what the calls have made of it, and the supervisor has the estimate of the last
balance iteration. -/
structure Heard (start main : Main F S C K) (hearing : Hearing F) : Prop where
  estimation :
    main.attitudeEstimation = start.attitudeEstimation.after (hearing.calls ++ hearing.since)
  ratio : main.robot.samplesPerBalance = 2
  counter : main.robot.samplesSinceBalance = 0 ∧ updates hearing.since = [] ∨
    main.robot.samplesSinceBalance = 1 ∧ (updates hearing.since).length = 1
  latest : main.supervisor.latest.valid = true →
    (start.attitudeEstimation.after hearing.calls).latest.valid = true
  armed : main.supervisor.mode = .armed → main.supervisor.latest.valid = true

omit [FloatRounding F] [FloatPi F] [FloatBits F] [FloatImage F] [TextInput F] [ControlStrategy S F] in
/-- A sample keeps the observer in agreement. -/
theorem Heard.sampled {start main next : Main F S C K} {hearing : Hearing F}
    (heard : start.Heard main hearing) {now : TimePoint} (sample : InertialSample F)
    (step : main.SampleStep next now) :
    start.Heard next (hear hearing main (now, .sample sample) next) := by
  have told : next.attitudeEstimation = start.attitudeEstimation.after (hearing.calls ++
      (hearing.since ++ [.update (next.inertialSensing.sensing.latest now)])) := by
    rw [← List.append_assoc, after_snoc, ← heard.estimation]
    exact step.estimation
  have ratio := step.ratio.trans heard.ratio
  rcases step.delivered with ⟨early, counter, latest⟩ | ⟨-, counter, latest, latched⟩
  · have waited : main.robot.samplesSinceBalance = 0 ∧ updates hearing.since = [] := by
      refine heard.counter.resolve_right ?_
      rintro ⟨one, -⟩
      rw [heard.ratio, one] at early
      exact absurd early (by decide)
    have counter : next.robot.samplesSinceBalance = 1 := by
      rw [counter, waited.1]
      rfl
    have listened : hear hearing main (now, .sample sample) next = { hearing with
        since := hearing.since ++ [.update (next.inertialSensing.sensing.latest now)] } :=
      if_neg (by simp [counter])
    rw [listened]
    refine ⟨told, ratio, .inr ⟨counter, ?_⟩, ?_, ?_⟩
    · rw [updates_append, waited.2]
      rfl
    · rw [latest]
      exact heard.latest
    · rw [latest]
      exact fun armed => heard.armed (step.armed armed)
  · have listened : hear hearing main (now, .sample sample) next = ⟨hearing.calls ++
        (hearing.since ++ [.update (next.inertialSensing.sensing.latest now)]), []⟩ :=
      if_pos counter
    rw [listened]
    refine ⟨by rw [List.append_nil]; exact told, ratio, .inl ⟨counter, rfl⟩, ?_, ?_⟩
    · rw [latest, told]
      exact id
    · intro armed
      by_contra invalid
      have fault := latched (step.armed armed) (Bool.eq_false_iff.mpr invalid)
      rw [fault.1] at armed
      cases armed

omit [FloatRounding F] [FloatPi F] [FloatBits F] [FloatImage F] [TextInput F] [ControlStrategy S F] in
/-- Any other event keeps the observer in agreement. -/
theorem Heard.other {start main next : Main F S C K} {hearing : Hearing F}
    (heard : start.Heard main hearing) {event : Event F} (step : main.OtherStep next event) :
    start.Heard next
      { hearing with since := hearing.since ++ (event.filter.map .select).toList } := by
  have quiet : updates (hearing.since ++ (event.filter.map .select).toList) =
      updates hearing.since := by
    cases event.filter with
    | none => exact congrArg updates (List.append_nil _)
    | some filter => simp [updates]
  refine ⟨?_, step.ratio.trans heard.ratio, ?_, ?_, ?_⟩
  · show next.attitudeEstimation = start.attitudeEstimation.after
      (hearing.calls ++ (hearing.since ++ (event.filter.map Call.select).toList))
    rw [step.estimation, ← List.append_assoc, after_append, ← heard.estimation]
    cases event.filter <;> rfl
  · rw [step.counter, quiet]
    exact heard.counter
  · rw [step.latest]
    exact heard.latest
  · rw [step.latest]
    intro armed
    exact (step.armed armed).elim heard.armed id

/-- Every step keeps the observer in agreement. -/
theorem heard_kept (start : Main F S C K) (pair : Main F S C K × Hearing F)
    (event : TimePoint × Event F) (after : Main F S C K × Hearing F)
    (heard : start.Heard pair.1 pair.2) (stepped : heardMachine.step pair event = some after) :
    start.Heard after.1 after.2 := by
  obtain ⟨main, hearing⟩ := pair
  obtain ⟨next, later⟩ := after
  obtain ⟨now, event⟩ := event
  obtain ⟨taken, rfl⟩ := observed_step.mp stepped
  have heard : start.Heard main hearing := heard
  cases event with
  | sample sample =>
      have step : main.SampleStep next now := machine_sample taken
      exact heard.sampled sample step
  | wheels | supervise | driverFault | configured | typed | radioReady | radio =>
      have step := machine_other (by simp) taken
      exact heard.other step

/-- These are the samples among the events. -/
def samples (events : List (TimePoint × Event F)) : Nat :=
  events.countP fun event => event.2 matches .sample _

/-- A selection is on its way until the second sample of the divider, and what has been delivered
after it stays invalid until the fourth. -/
inductive Ending (main : Main F S C K) (hearing : Hearing F) (count : Nat) : Prop where
  | pending (few : count < 2) (counter : main.robot.samplesSinceBalance.toNat = count)
      (filter : Filter) (selected : .select filter ∈ hearing.since)
  | delivered (due : 2 ≤ count) (few : count < 4)
      (counter : main.robot.samplesSinceBalance.toNat = count - 2)
      (invalid : main.supervisor.latest.valid = false)

section Endings
variable {start main next : Main F S C K} {hearing : Hearing F} {count : Nat}

omit [FloatRounding F] [FloatPi F] [FloatBits F] [FloatImage F] [TextInput F] [ControlStrategy S F] in
/-- The divider is due at its second sample. -/
theorem Heard.early_iff (heard : start.Heard main hearing) :
    main.robot.samplesSinceBalance + 1 < main.robot.samplesPerBalance ↔
      main.robot.samplesSinceBalance.toNat = 0 := by
  rw [heard.ratio]
  rcases heard.counter with ⟨counter, -⟩ | ⟨counter, -⟩ <;> rw [counter] <;> decide

omit [FloatRounding F] [FloatPi F] [FloatBits F] [FloatImage F] [TextInput F] [ControlStrategy S F] in
/-- A balance iteration after a selection delivers an invalid estimate. -/
theorem Heard.selected_invalid (heard : start.Heard main hearing)
    (converging : main.attitudeEstimation.Converging (hearing.calls ++ hearing.since))
    (short : main.attitudeEstimation.config.maximumInterval <
      main.attitudeEstimation.config.convergenceInterval)
    {filter : Filter} (selected : .select filter ∈ hearing.since) {now : TimePoint}
    (step : main.SampleStep next now) : next.attitudeEstimation.latest.valid = false := by
  have few : (updates hearing.since).length ≤ 1 := by
    rcases heard.counter with ⟨-, none⟩ | ⟨-, one⟩
    · simp [none]
    · exact one.le
  rw [step.estimation, update_latest]
  exact Application.selected_invalid converging short selected few

omit [FloatRounding F] [FloatPi F] [FloatBits F] [FloatImage F] [TextInput F] [ControlStrategy S F] in
/-- A sample brings the end of the drive one sample nearer. -/
theorem Ending.sampled (ending : Ending main hearing count) (heard : start.Heard main hearing)
    (converging : main.attitudeEstimation.Converging (hearing.calls ++ hearing.since))
    (short : main.attitudeEstimation.config.maximumInterval <
      main.attitudeEstimation.config.convergenceInterval)
    (few : count + 1 < 4) {now : TimePoint} (sample : InertialSample F)
    (step : main.SampleStep next now) :
    Ending next (hear hearing main (now, .sample sample) next) (count + 1) := by
  have early := heard.early_iff
  have next_one (zero : main.robot.samplesSinceBalance.toNat = 0)
      (counter : next.robot.samplesSinceBalance = main.robot.samplesSinceBalance + 1) :
      next.robot.samplesSinceBalance = 1 := by
    rw [counter, UInt32.toNat_inj.mp (zero.trans UInt32.toNat_zero.symm)]
    rfl
  cases ending with
  | pending few counter filter selected =>
      rcases step.delivered with ⟨soon, next_counter, -⟩ | ⟨due, next_counter, latest, -⟩
      · have zero := early.mp soon
        have one := next_one zero next_counter
        refine .pending (by omega) ?_ filter ?_
        · rw [one, ← counter, zero]
          rfl
        · have listened : hear hearing main (now, .sample sample) next = { hearing with
              since := hearing.since ++ [.update (next.inertialSensing.sensing.latest now)] } :=
            if_neg (by simp [one])
          rw [listened]
          exact List.mem_append_left _ selected
      · have nonzero := mt early.mpr due
        refine .delivered (by omega) (by omega) ?_ ?_
        · rw [next_counter]
          show 0 = count + 1 - 2
          omega
        · rw [latest]
          exact heard.selected_invalid converging short selected step
  | delivered due _ counter invalid =>
      have zero : main.robot.samplesSinceBalance.toNat = 0 := by omega
      rcases step.delivered with ⟨-, next_counter, latest⟩ | ⟨late, -⟩
      · refine .delivered (by omega) few ?_ ?_
        · rw [next_one zero next_counter]
          show 1 = count + 1 - 2
          omega
        · rw [latest]
          exact invalid
      · exact absurd (early.mpr zero) late

omit [FloatArithmetic F] [FloatRounding F] [FloatGeometry F] [FloatPi F] [FloatBits F]
  [FloatImage F] [TextInput F] [ControlStrategy S F] [PitchFilter C F] [PitchFilter K F] in
/-- Any other event does not hold the end of the drive off. -/
theorem Ending.other (ending : Ending main hearing count) {event : Event F}
    (step : main.OtherStep next event) : Ending next
      { hearing with since := hearing.since ++ (event.filter.map .select).toList } count := by
  cases ending with
  | pending few counter filter selected =>
      refine .pending few ?_ filter (List.mem_append_left _ selected)
      rw [step.counter]
      exact counter
  | delivered due few counter invalid =>
      refine .delivered due few ?_ ?_
      · rw [step.counter]
        exact counter
      · rw [step.latest]
        exact invalid

omit [FloatRounding F] [FloatPi F] [FloatBits F] [FloatImage F] [TextInput F] [ControlStrategy S F] in
/-- The calls of the estimation since its construction leave it converging. -/
theorem Heard.converging (heard : start.Heard main hearing)
    {estimationConfig : AttitudeEstimationImpl.Config F} {complementary : C} {kalman : K}
    (wired : start.attitudeEstimation =
      AttitudeEstimationImpl.construct estimationConfig complementary kalman) :
    main.attitudeEstimation.Converging (hearing.calls ++ hearing.since) ∧
      main.attitudeEstimation.config = estimationConfig := by
  rw [heard.estimation, wired]
  exact ⟨construct_converging _ _ _ _, after_config _⟩

/-- Every step of a run brings the end of the drive nearer where it samples. -/
theorem run_ending {estimationConfig : AttitudeEstimationImpl.Config F} {complementary : C}
    {kalman : K} (wired : start.attitudeEstimation =
      AttitudeEstimationImpl.construct estimationConfig complementary kalman)
    (short : estimationConfig.maximumInterval < estimationConfig.convergenceInterval)
    {events : List (TimePoint × Event F)} {final : Main F S C K × Hearing F}
    (heard : start.Heard main hearing) (ending : Ending main hearing count)
    (few : count + samples events < 4)
    (ran : heardMachine.run (main, hearing) events = some final) :
    start.Heard final.1 final.2 ∧ Ending final.1 final.2 (count + samples events) := by
  induction events generalizing main hearing count with
  | nil =>
      obtain rfl := Option.some.inj ran
      exact ⟨heard, ending⟩
  | cons event rest ih =>
      obtain ⟨⟨next, later⟩, stepped, ran⟩ := run_cons.mp ran
      have heardNext : start.Heard next later := heard_kept start _ event _ heard stepped
      obtain ⟨now, event⟩ := event
      obtain ⟨taken, rfl⟩ := observed_step.mp stepped
      cases event with
      | sample sample =>
          have counted : samples ((now, Event.sample sample) :: rest) = samples rest + 1 :=
            List.countP_cons_of_pos rfl
          rw [counted] at few ⊢
          obtain ⟨converging, configured⟩ := heard.converging wired
          rw [← configured] at short
          have step : main.SampleStep next now := machine_sample taken
          have ended := ending.sampled heard converging short (by omega) sample step
          have after := ih heardNext ended (by omega) ran
          rwa [Nat.add_right_comm] at after
      | wheels | supervise | driverFault | configured | typed | radioReady | radio =>
          rw [samples, List.countP_cons_of_neg (by simp)] at few ⊢
          have ended := ending.other (machine_other (by simp) taken)
          exact ih heardNext ended few ran

end Endings
section Construction
variable {fullScale : DutyCycle} {decay : Decay} {sensingConfig : InertialSensingImpl.Config F}
  {estimationConfig : AttitudeEstimationImpl.Config F} {complementary : C} {kalman : K}
  {strategies : List S} {odometryConfig : WheelOdometryImpl.Config F}
  {balanceConfig : BalanceControlImpl.Config F} {safetyConfig : SafetySupervisorImpl.Config F}
  {identityAddress : MacAddress} {now : TimePoint} {start : Main F S C K}

omit [FloatRounding F] [FloatPi F] [FloatBits F] [FloatImage F] [TextInput F] [ControlStrategy S F] in
/-- The observer of the constructed robot has heard nothing. -/
theorem construct_heard
    (constructed : construct fullScale decay sensingConfig estimationConfig complementary kalman
      strategies odometryConfig balanceConfig safetyConfig identityAddress now = some start) :
    start.attitudeEstimation =
        AttitudeEstimationImpl.construct estimationConfig complementary kalman ∧
      start.Heard start ⟨[], []⟩ := by
  obtain ⟨wheelOdometry, -, mapped⟩ := Option.bind_eq_some_iff.mp constructed
  obtain ⟨robot, wired, rfl⟩ := Option.map_eq_some_iff.mp mapped
  obtain ⟨sensing, -, composed⟩ := Option.bind_eq_some_iff.mp wired
  obtain ⟨firmware, built, looped⟩ := Option.bind_eq_some_iff.mp composed
  obtain ⟨control, -, supervised⟩ := Option.bind_eq_some_iff.mp built
  obtain ⟨supervisor, supervises, rfl⟩ := Option.map_eq_some_iff.mp supervised
  obtain rfl := Option.some.inj looped
  unfold SafetySupervisorImpl.construct at supervises
  split at supervises
  · obtain rfl := Option.some.inj supervises
    refine ⟨rfl, rfl, rfl, .inl ⟨rfl, rfl⟩, ?_, ?_⟩
    · intro valid
      cases valid
    · intro armed
      cases armed
  · cases supervises

/-- In every run the observer is in agreement. -/
theorem run_heard
    (constructed : construct fullScale decay sensingConfig estimationConfig complementary kalman
      strategies odometryConfig balanceConfig safetyConfig identityAddress now = some start)
    {events : List (TimePoint × Event F)} {main : Main F S C K} {hearing : Hearing F}
    (ran : heardMachine.run (start, ⟨[], []⟩) events = some (main, hearing)) :
    start.Heard main hearing :=
  run_invariant (heard_kept start) (construct_heard constructed).2 ran

/-- In every run the estimate that an armed drive rests on has been earned since the last selection
of a filter before it. -/
theorem armed_estimate_earned
    (constructed : construct fullScale decay sensingConfig estimationConfig complementary kalman
      strategies odometryConfig balanceConfig safetyConfig identityAddress now = some start)
    {events : List (TimePoint × Event F)} {main : Main F S C K} {hearing : Hearing F}
    (ran : heardMachine.run (start, ⟨[], []⟩) events = some (main, hearing))
    (armed : main.supervisor.mode = .armed) : ∃ front first rest,
      hearing.calls = front ++ (first :: rest).map .update ∧ Earned estimationConfig first rest := by
  have heard := run_heard constructed ran
  have wired := (construct_heard constructed).1
  have valid := heard.latest (heard.armed armed)
  rw [wired] at valid
  have earned := converging_earned
    (construct_converging estimationConfig complementary kalman hearing.calls) valid
  rw [after_config] at earned
  exact earned

section Bench
open Bench

/-- This robot calibrates and converges within a few samples. -/
def quick : Option Hosted :=
  construct 1000 .slow ⟨milliseconds 1, milliseconds 4, 1, 3⟩
    ⟨.complementary, milliseconds 12, milliseconds 10, 1⟩ ⟨0⟩ ⟨0⟩ (hosted .default .default) .default
    .default .default (Vector.replicate 6 0) 0

/-- The robot stands upright and still. -/
def upright (count : Nat) : TimePoint × Event Extended :=
  (milliseconds count,
    .sample ⟨⟨0, 0, 0⟩, ⟨0, 0, -standardGravity⟩, milliseconds count, true⟩)

/-- The calibration completes, the estimate converges and the drive is armed. -/
def quickArming : List (TimePoint × Event Extended) :=
  [(0, .configured true), upright 1, (milliseconds 3, .supervise)] ++ (List.range' 4 4).map upright ++
    [(milliseconds 7, .supervise)] ++ (List.range' 8 16).map upright ++
    [(milliseconds 23, .typed .arm "")]

/-- The upright robot is armed on an estimate that it has earned. -/
theorem upright_estimate_earned : ∃ start main : Hosted, quick = some start ∧
    ∃ hearing, heardMachine.run (start, ⟨[], []⟩) quickArming = some (main, hearing) ∧
      main.supervisor.mode = .armed ∧ ∃ front first rest,
        hearing.calls = front ++ (first :: rest).map .update ∧
          Earned ⟨.complementary, milliseconds 12, milliseconds 10, (1 : Extended)⟩ first rest := by
  have evaluated : ((quick.bind fun start => heardMachine.run (start, ⟨[], []⟩) quickArming).any
      fun pair => pair.1.supervisor.mode = .armed) = true := by
    decide +kernel
  obtain ⟨⟨main, hearing⟩, ran, armed⟩ := (Option.any_eq_true _ _).mp evaluated
  obtain ⟨start, constructed, ran⟩ := Option.bind_eq_some_iff.mp ran
  have armed := of_decide_eq_true armed
  exact ⟨start, main, constructed, hearing, ran, armed, armed_estimate_earned constructed ran armed⟩

end Bench

/-- When a filter is selected, the second sample of the divider from then on ends the drive: an armed
supervisor latches the invalid estimate, and nothing arms it before the fourth. -/
theorem selection_ends_drive
    (constructed : construct fullScale decay sensingConfig estimationConfig complementary kalman
      strategies odometryConfig balanceConfig safetyConfig identityAddress now = some start)
    (short : estimationConfig.maximumInterval < estimationConfig.convergenceInterval)
    {main selected final : Main F S C K} (reached : machine.Reachable start main)
    {params : String} {filter : Filter} (parsed : parseFilter params = some filter)
    {typedAt : TimePoint}
    (typed : machine.step main (typedAt, .typed .selectFilter params) = some selected)
    {events : List (TimePoint × Event F)} (ran : machine.run selected events = some final) :
    let count := main.robot.samplesSinceBalance.toNat + samples events
    (2 ≤ count → count < 4 → final.supervisor.mode ≠ .armed) ∧
      (count = 1 → final.supervisor.mode = .armed → ∀ sampledAt sample next,
        machine.step final (sampledAt, .sample sample) = some next →
          next.supervisor.mode = .fault ∧ next.supervisor.cause = .estimateInvalid) := by
  intro count
  have wired := (construct_heard constructed).1
  obtain ⟨before, reaches⟩ := reached
  have heardReaches : ∃ hearing, heardMachine.run (start, ⟨[], []⟩) before = some (main, hearing) :=
    (observed_run (⟨[], []⟩ : Hearing F)).mp reaches
  obtain ⟨hearing, heardReaches⟩ := heardReaches
  have heard : start.Heard main hearing := run_heard constructed heardReaches
  have step := machine_other (by simp) typed
  let told : Hearing F := { hearing with since := hearing.since ++ [.select filter] }
  have chosen : (Event.typed .selectFilter params : Event F).filter = some filter := parsed
  have heardSelected : start.Heard selected told := by
    have other := heard.other step
    rw [chosen] at other
    exact other
  have few : main.robot.samplesSinceBalance.toNat < 2 := by
    rcases heard.counter with ⟨counter, -⟩ | ⟨counter, -⟩ <;> rw [counter] <;> decide
  have ending : Ending selected told main.robot.samplesSinceBalance.toNat := by
    refine .pending few (congrArg UInt32.toNat step.counter) filter ?_
    exact List.mem_append_right _ (List.mem_singleton_self _)
  have heardRan : ∃ later, heardMachine.run (selected, told) events = some (final, later) :=
    (observed_run told).mp ran
  obtain ⟨later, heardRan⟩ := heardRan
  have ends (within : count < 4) : start.Heard final later ∧ Ending final later count :=
    run_ending wired short heardSelected ending within heardRan
  constructor
  · intro due within armed
    obtain ⟨heardFinal, ended⟩ := ends within
    cases ended with
    | pending few => exact absurd due (not_le.mpr few)
    | delivered _ _ _ invalid =>
        rw [heardFinal.armed armed] at invalid
        cases invalid
  · intro one armed sampledAt sample next stepped
    obtain ⟨heardFinal, ended⟩ := ends (by omega)
    have sampled := machine_sample stepped
    cases ended with
    | pending _ counter filter pending =>
        obtain ⟨converging, configured⟩ := heardFinal.converging wired
        rw [← configured] at short
        have invalid := heardFinal.selected_invalid converging short pending sampled
        rcases sampled.delivered with ⟨early, -⟩ | ⟨-, -, latest, latched⟩
        · have zero := heardFinal.early_iff.mp early
          omega
        · rw [← latest] at invalid
          exact latched armed invalid
    | delivered due => omega

section Bench
open Bench

/-- The upright robot is armed when the other filter is selected, and the next sample ends its
drive. -/
theorem upright_selection_ends_drive : ∃ start main selected final : Hosted, quick = some start ∧
    machine.run start quickArming = some main ∧ main.supervisor.mode = .armed ∧
    machine.step main (milliseconds 23, .typed .selectFilter "kalman") = some selected ∧
    machine.run selected [upright 24] = some final ∧ final.supervisor.mode ≠ .armed := by
  have evaluated : ((quick.bind fun start => machine.run start quickArming).any
      fun main => main.supervisor.mode = .armed ∧ main.robot.samplesSinceBalance = 1 ∧
        ((machine.step main (milliseconds 23, .typed .selectFilter "kalman")).bind fun selected =>
          machine.run selected [upright 24]).isSome) = true := by
    decide +kernel
  obtain ⟨main, reached, ends⟩ := (Option.any_eq_true _ _).mp evaluated
  obtain ⟨start, constructed, reached⟩ := Option.bind_eq_some_iff.mp reached
  obtain ⟨armed, counter, followed⟩ := of_decide_eq_true ends
  obtain ⟨final, followed⟩ := Option.isSome_iff_exists.mp followed
  obtain ⟨selected, typed, ran⟩ := Option.bind_eq_some_iff.mp followed
  have ended := (selection_ends_drive constructed (by decide) ⟨_, reached⟩ rfl typed ran).1
  rw [counter] at ended
  exact ⟨start, main, selected, final, constructed, reached, armed, typed, ran,
    ended (by decide) (by decide)⟩

end Bench

end Construction

end Main
end InvertedPendulum.Application
