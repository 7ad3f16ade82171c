import InvertedPendulum.Application.HeldRobot
import InvertedPendulum.Application.Incidents
import InvertedPendulum.Reactive.Scripts

namespace InvertedPendulum.Application
open Platform Motion Odometry Estimation Sensing Control Balance Safety Telemetry Link Cli Reactive
  Machine AttitudeEstimationImpl InertialSensingImpl

namespace Stand
variable {F : Type} [Field F] [LinearOrder F] [FloatGeometry F]

/-- Samples come one period after the other. -/
def sampled (stand : Stand F) (since : TimePoint) (index : Nat) : TimePoint × Main.Event F :=
  (stand.time since (index + 1), .sample (stand.sample (stand.time since (index + 1))))

def samples (stand : Stand F) (since : TimePoint) (count : Nat) : List (TimePoint × Main.Event F) :=
  (List.range count).map (stand.sampled since)

end Stand

namespace Main
variable {F S C K : Type} [Field F] [LinearOrder F] [IsStrictOrderedRing F] [FloatRounding F]
  [FloatGeometry F] [FloatPi F] [FloatBits F] [FloatImage F] [TextInput F] [ControlStrategy S F]
  [PitchFilter C F] [PitchFilter K F] {blends : HoldsPitch C F} {filters : HoldsPitch K F}
  {stand : Stand F} {start main next : Main F S C K} {now since time : TimePoint} {count : Nat}
  {readies readied : Main F S C K → Prop} {request : Safety.Request F}

section Readiness

/-- Incidental events disturb a script at any time. -/
def Incident (event : TimePoint × Event F) : Prop := event.2.Incidental

/-- The supervisor is in one of these modes. -/
def Among (modes : List Mode) (main : Main F S C K) : Prop := main.supervisor.mode ∈ modes

/-- The supervisor has polled the driver. -/
def Polled (main : Main F S C K) : Prop :=
  main.supervisor.mode = .fault ∨
    main.supervisor.mode = .idle ∧ main.motionActuation.fault = .none

/-- The supervisor is idle and the driver without a fault. -/
def Cleared (main : Main F S C K) : Prop :=
  main.supervisor.mode = .idle ∧ main.motionActuation.fault = .none

/-- The property comes after the self-test, and it outlasts every drift. -/
structure Endures (readies : Main F S C K → Prop) : Prop where
  tested : ∀ main, readies main → main.supervisor.mode ≠ .init
  kept : ∀ main next now, readies main →
    SupervisorDrift (main.begin now).supervisor next.supervisor → readies next

/-- A request leaves the sensing alone and brings the supervisor from one property to another. -/
def Passes (request : Safety.Request F) (readies readied : Main F S C K → Prop) : Prop :=
  ∀ main next now, readies main → main.RequestStep next now request →
    readied next ∧ next.inertialSensing.sensing = main.inertialSensing.sensing

omit [IsStrictOrderedRing F] [FloatRounding F] [FloatGeometry F] [FloatPi F] [FloatBits F]
  [FloatImage F] [TextInput F] [ControlStrategy S F] [PitchFilter C F] [PitchFilter K F] in
/-- A drift stays among modes that include the ones it leads to. -/
theorem among_endures {modes : List Mode} (tested : .init ∉ modes) (faults : .fault ∈ modes)
    (idles : .calibrating ∈ modes → .idle ∈ modes) :
    Endures (Among modes : Main F S C K → Prop) := by
  constructor
  · rintro main among init
    exact tested (init ▸ among)
  · intro main next now among drift
    unfold Among at among ⊢
    cases drift.mode with
    | kept mode => exact mode.symm ▸ among
    | settled calibrating calibrated idle =>
        have calibrating : main.supervisor.mode = .calibrating := calibrating
        exact idle.symm ▸ idles (calibrating ▸ among)
    | failed _ _ fault | fell _ fault | polled _ _ fault => exact fault.symm ▸ faults

omit [IsStrictOrderedRing F] [FloatRounding F] [FloatGeometry F] [FloatPi F] [FloatBits F]
  [FloatImage F] [TextInput F] [ControlStrategy S F] [PitchFilter C F] [PitchFilter K F] in
/-- A drift leaves an idle supervisor idle while the driver has no fault. -/
theorem cleared_endures : Endures (Cleared : Main F S C K → Prop) := by
  constructor
  · rintro main ⟨idle, -⟩ init
    exact absurd (idle.symm.trans init) (by decide)
  · rintro main next now ⟨idle, healthy⟩ drift
    have still : next.motionActuation.fault = .none := drift.fault.trans healthy
    cases drift.mode with
    | kept mode => exact ⟨mode.trans idle, still⟩
    | settled mode | failed mode | fell mode => exact absurd (idle.symm.trans mode) (by decide)
    | polled _ faulted => exact absurd healthy faulted

omit [IsStrictOrderedRing F] [FloatRounding F] [FloatGeometry F] [FloatPi F] [FloatBits F]
  [FloatImage F] [TextInput F] [ControlStrategy S F] [PitchFilter C F] [PitchFilter K F] in
/-- A latched fault outlasts every drift. -/
theorem polled_endures : Endures (Polled : Main F S C K → Prop) := by
  constructor
  · rintro main (fault | cleared)
    · rw [fault]
      decide
    · exact cleared_endures.tested main cleared
  · rintro main next now (fault | cleared) drift
    · left
      cases drift.mode with
      | kept mode => exact mode.trans fault
      | settled mode | failed mode | fell mode | polled mode =>
          exact absurd (fault.symm.trans mode) (by decide)
    · exact .inr (cleared_endures.kept main next now cleared drift)

omit [IsStrictOrderedRing F] [FloatGeometry F] [FloatPi F] [FloatBits F] [FloatImage F] [TextInput F]
  [PitchFilter C F] [PitchFilter K F] in
theorem disarm_passes :
    Passes .disarm (Among [.armed, .fault, .idle] : Main F S C K → Prop) (Among [.fault, .idle]) := by
  intro main next now among step
  have outcome := step.outcome
  generalize reached : next.supervisor = after at outcome
  have sensed := congrArg (fun supervisor => supervisor.peers.sensing.sensing) reached
  cases outcome with
  | disarmed => exact ⟨by simp [Among, reached], sensed⟩
  | notDisarmed refused =>
      refine ⟨?_, sensed⟩
      unfold Among
      rw [reached]
      exact (List.mem_cons.mp among).resolve_left refused

omit [IsStrictOrderedRing F] [FloatGeometry F] [FloatPi F] [FloatBits F] [FloatImage F] [TextInput F]
  [PitchFilter C F] [PitchFilter K F] in
/-- The supervisor polls the driver. -/
theorem supervise_passes :
    Passes .supervise (Among [.fault, .idle] : Main F S C K → Prop) Polled := by
  intro main next now among step
  have modes : main.supervisor.mode = .fault ∨ main.supervisor.mode = .idle := by
    simpa [Among] using among
  have outcome := step.outcome
  generalize reached : next.supervisor = after at outcome
  have sensed := congrArg (fun supervisor => supervisor.peers.sensing.sensing) reached
  have mode := congrArg SafetySupervisorImpl.mode reached
  have fault := congrArg (fun supervisor => supervisor.peers.actuation.fault) reached
  cases outcome with
  | selfTestPassed other | selfTestOverdue other | selfTestPending other | calibrated other
  | calibrationFailed other | calibrationPending other | stalled other =>
      have other : main.supervisor.mode = _ := other
      rw [other] at modes
      simp at modes
  | polled =>
      refine ⟨.inl mode, sensed.trans ?_⟩
      have entered := enterFault_sensing (main.begin now).supervisor .driverFault
      exact (congrArg Gyroscope.sensing entered).trans rfl
  | counted live healthy =>
      refine ⟨?_, sensed⟩
      rcases modes with latched | idle
      · exact .inl (mode.trans latched)
      · exact .inr ⟨mode.trans idle, fault.trans healthy⟩
  | latched latched => exact ⟨.inl (mode.trans latched), sensed⟩

omit [IsStrictOrderedRing F] [FloatGeometry F] [FloatPi F] [FloatBits F] [FloatImage F] [TextInput F]
  [PitchFilter C F] [PitchFilter K F] in
/-- The operator clears what the poll has found. -/
theorem clearFault_passes : Passes .clearFault (Polled : Main F S C K → Prop) Cleared := by
  intro main next now polled step
  have outcome := step.outcome
  generalize reached : next.supervisor = after at outcome
  have sensed := congrArg (fun supervisor => supervisor.peers.sensing.sensing) reached
  have mode := congrArg SafetySupervisorImpl.mode reached
  have fault := congrArg (fun supervisor => supervisor.peers.actuation.fault) reached
  cases outcome with
  | cleared => exact ⟨⟨mode, fault⟩, sensed⟩
  | notCleared refused =>
      obtain ⟨idle, healthy⟩ := polled.resolve_left refused
      exact ⟨⟨mode.trans idle, fault.trans healthy⟩, sensed⟩

omit [IsStrictOrderedRing F] in
/-- A held robot stays held while its supervisor drifts. -/
theorem Holds.drifts (holds : Holds blends filters stand start time main)
    (tested : main.supervisor.mode ≠ .init) {event : TimePoint × Event F} (incident : Incident event)
    (stepped : machine.step main event = some next) :
    Holds blends filters stand start time next ∧
      next.inertialSensing.sensing = main.inertialSensing.sensing ∧
      next.attitudeEstimation = main.attitudeEstimation ∧
      SupervisorDrift (main.begin event.1).supervisor next.supervisor := by
  have incidental : event.2.Incidental := incident
  obtain ⟨estimation, drift⟩ := incident_drifts incidental tested stepped
  obtain ⟨reached, ready⟩ := onward holds.reached holds.ready stepped
  have sensing : next.inertialSensing.sensing = main.inertialSensing.sensing :=
    (congrArg Gyroscope.sensing drift.sensing).trans rfl
  refine ⟨⟨reached, ready, ?_, ?_⟩, sensing, estimation, drift⟩
  · rw [sensing]
    exact holds.sees
  · rw [estimation]
    exact holds.steady

end Readiness

section Calibrating

/-- So many samples of the held robot are summed. -/
structure Filling (blends : HoldsPitch C F) (filters : HoldsPitch K F) (stand : Stand F)
    (start : Main F S C K) (now : TimePoint) (count : Nat) (main : Main F S C K) : Prop where
  holds : Holds blends filters stand start (stand.time now count) main
  mode : main.supervisor.mode = .calibrating
  summing : Summing stand.rate now (stand.time now count) count main.inertialSensing.sensing

/-- The robot is held and the supervisor ready for the next request, or it has already begun a
calibration. -/
structure Prepares (blends : HoldsPitch C F) (filters : HoldsPitch K F) (stand : Stand F)
    (start : Main F S C K) (now : TimePoint) (readies : Main F S C K → Prop) (main : Main F S C K) :
    Prop where
  holds : Holds blends filters stand start now main
  prepared : readies main ∨ main.supervisor.mode = .calibrating ∧
    Summing stand.rate now now 0 main.inertialSensing.sensing

omit [IsStrictOrderedRing F] in
/-- The supervisor passes its self-test on a held robot. -/
theorem Holds.passes (holds : Holds blends filters stand start now main)
    (serves : Serves blends filters stand main) :
    (main.begin now).supervisor.selfTestPassed = true := by
  have accepted : main.inertialSensing.sensing.config.Accepted := by
    rw [serves.waits.config]
    exact stand.accepted
  refine decide_eq_true_iff.mpr ⟨holds.ready.1, ?_⟩
  change main.inertialSensing.sensing.cause now = .none ∨
    main.inertialSensing.sensing.cause now = .uncalibrated
  rw [holds.sees.cause accepted]
  split
  · exact .inr rfl
  · exact .inl rfl

omit [IsStrictOrderedRing F] in
/-- The first poll after a rest waits for nothing that is over. -/
theorem Holds.supervised (holds : Holds blends filters stand start now main)
    (serves : Serves blends filters stand main)
    (settled : main.inertialSensing.sensing.calibration ≠ .calibrating) :
    ∃ next, machine.step main (now, .supervise) = some next ∧
      Prepares blends filters stand start now (Among [.armed, .fault, .idle]) next := by
  obtain ⟨next, stepped, held, step⟩ := holds.requested
    (rfl : (Event.supervise : Event F).request? = some .supervise) now
  refine ⟨next, stepped, held, ?_⟩
  have outcome := step.outcome
  generalize reached : next.supervisor = after at outcome
  cases outcome with
  | selfTestPassed =>
      right
      refine ⟨rfl, ?_⟩
      have started : next.inertialSensing.sensing =
          main.inertialSensing.sensing.startCalibration now :=
        congrArg (fun supervisor => supervisor.peers.sensing.sensing) reached
      rw [started]
      exact startCalibration_sums _ now
  | selfTestPending _ pending =>
      rw [holds.passes serves] at pending
      cases pending
  | calibrationPending calibrating unfinished unfailed =>
      have started := serves.waits.started calibrating
      have unfinished : main.inertialSensing.sensing.calibration ≠ .calibrated := unfinished
      have unfailed : main.inertialSensing.sensing.calibration ≠ .failed := unfailed
      cases state : main.inertialSensing.sensing.calibration <;> contradiction
  | calibrated | selfTestOverdue | calibrationFailed | polled | stalled =>
      exact .inl (by simp [Among, reached])
  | counted live =>
      left
      rcases live with idle | armed
      · simp [Among, reached, idle]
      · simp [Among, reached, armed]
  | latched fault => exact .inl (by simp [Among, reached, fault])

omit [IsStrictOrderedRing F] [FloatRounding F] [FloatGeometry F] [FloatPi F] [FloatBits F]
  [FloatImage F] [TextInput F] [ControlStrategy S F] [PitchFilter C F] [PitchFilter K F] in
/-- The supervisor waits for a calibration that is running. -/
theorem calibrating_drifts (calibrating : main.supervisor.mode = .calibrating)
    (running : main.inertialSensing.sensing.calibration = .calibrating)
    (drift : SupervisorDrift (main.begin now).supervisor next.supervisor) :
    next.supervisor.mode = .calibrating := by
  cases drift.mode with
  | kept mode => exact mode.trans calibrating
  | settled _ calibrated => exact absurd (running.symm.trans calibrated) (by decide)
  | failed _ failed => exact absurd (running.symm.trans failed) (by decide)
  | fell other | polled other => exact absurd (calibrating.symm.trans other) (by decide)

omit [IsStrictOrderedRing F] in
theorem Prepares.stable (endures : Endures readies) :
    machine.Stable Incident (Prepares blends filters stand start now readies) := by
  intro main event next prepares incident stepped
  obtain ⟨holds, ready | ⟨calibrating, summing⟩⟩ := prepares
  · obtain ⟨held, -, -, drift⟩ := holds.drifts (endures.tested main ready) incident stepped
    exact ⟨held, .inl (endures.kept main next event.1 ready drift)⟩
  · obtain ⟨held, sensing, -, drift⟩ := holds.drifts (by simp [calibrating]) incident stepped
    refine ⟨held, .inr ⟨calibrating_drifts calibrating summing.running drift, ?_⟩⟩
    rw [sensing]
    exact summing

omit [IsStrictOrderedRing F] in
theorem Filling.stable :
    machine.Stable Incident (Filling blends filters stand start now count) := by
  intro main event next filling incident stepped
  obtain ⟨holds, calibrating, summing⟩ := filling
  obtain ⟨held, sensing, -, drift⟩ := holds.drifts (by simp [calibrating]) incident stepped
  refine ⟨held, calibrating_drifts calibrating summing.running drift, ?_⟩
  rw [sensing]
  exact summing

omit [IsStrictOrderedRing F] [FloatGeometry F] [FloatPi F] [FloatBits F] [FloatImage F] [TextInput F]
  [PitchFilter C F] [PitchFilter K F] in
/-- While a calibration is running the supervisor refuses every request. -/
theorem calibrating_refuses {event : Event F} (requested : event.request? = some request)
    (calibrating : main.supervisor.mode = .calibrating)
    (running : main.inertialSensing.sensing.calibration = .calibrating)
    (step : main.RequestStep next now request) : next.supervisor = (main.begin now).supervisor := by
  have unfed (estimate : Estimate F) (interval : Duration) :
      event.request? ≠ some (.balance estimate interval) := by
    cases event with
    | typed command => cases command <;> nofun
    | _ => nofun
  have outcome := step.outcome
  generalize next.supervisor = after at outcome ⊢
  have refused {mode : Mode} (other : (main.begin now).supervisor.mode = mode)
      (different : mode ≠ .calibrating) : after = (main.begin now).supervisor :=
    absurd (other.symm.trans calibrating) different
  cases outcome with
  | fed estimate interval => exact absurd requested (unfed estimate interval)
  | invalid _ _ other | fell _ _ other | failed _ _ other | balanced _ _ other | steered _ other
  | selfTestPassed other | selfTestOverdue other | stalled other | disarmed other | cleared other
  | recalibrated other => exact refused other (by decide)
  | polled live | counted live => exact live.elim (refused · (by decide)) (refused · (by decide))
  | armed armable => exact refused armable.idle (by decide)
  | calibrated _ calibrated => exact absurd (running.symm.trans calibrated) (by decide)
  | calibrationFailed _ failed => exact absurd (running.symm.trans failed) (by decide)
  | _ => rfl

omit [IsStrictOrderedRing F] in
/-- The next request of the script is answered. -/
theorem Prepares.requested (prepares : Prepares blends filters stand start now readies main)
    {event : Event F} (requested : event.request? = some request)
    (passes : Passes request readies readied) :
    ∃ next, machine.step main (now, event) = some next ∧
      Prepares blends filters stand start now readied next := by
  obtain ⟨next, stepped, held, step⟩ := prepares.holds.requested requested now
  refine ⟨next, stepped, held, ?_⟩
  rcases prepares.prepared with ready | ⟨calibrating, summing⟩
  · exact .inl (passes main next now ready step).1
  · have refused := calibrating_refuses requested calibrating summing.running step
    have sensed : next.inertialSensing.sensing = main.inertialSensing.sensing :=
      congrArg (fun supervisor => supervisor.peers.sensing.sensing) refused
    rw [sensed, refused]
    exact .inr ⟨calibrating, summing⟩

omit [IsStrictOrderedRing F] in
/-- The operator starts a calibration that has not begun. -/
theorem Prepares.calibrate (prepares : Prepares blends filters stand start now Cleared main) :
    ∃ next, machine.step main (now, .typed .calibrate "") = some next ∧
      Filling blends filters stand start now 0 next := by
  have requested : (Event.typed .calibrate "" : Event F).request? = some .calibrate := rfl
  obtain ⟨next, stepped, held, step⟩ := prepares.holds.requested requested now
  refine ⟨next, stepped, ?_⟩
  have fills (mode : next.supervisor.mode = .calibrating)
      (summing : Summing stand.rate now now 0 next.inertialSensing.sensing) :
      Filling blends filters stand start now 0 next := by
    have begun := stand.time_zero now
    exact ⟨begun.symm ▸ held, mode, begun.symm ▸ summing⟩
  rcases prepares.prepared with cleared | ⟨calibrating, summing⟩
  · have performed : next.supervisor = (main.begin now).supervisor.startCalibration := by
      rw [step.performed]
      exact congrArg Prod.snd (if_neg (not_not.mpr cleared.1))
    refine fills (congrArg SafetySupervisorImpl.mode performed) ?_
    have started : next.inertialSensing.sensing =
        main.inertialSensing.sensing.startCalibration now :=
      congrArg (fun supervisor => supervisor.peers.sensing.sensing) performed
    rw [started]
    exact startCalibration_sums _ now
  · have refused := calibrating_refuses requested calibrating summing.running step
    have sensed : next.inertialSensing.sensing = main.inertialSensing.sensing :=
      congrArg (fun supervisor => supervisor.peers.sensing.sensing) refused
    exact fills ((congrArg SafetySupervisorImpl.mode refused).trans calibrating) (sensed ▸ summing)

/-- The calibration of the held robot is complete, and the estimation runs. -/
structure Calibrated (blends : HoldsPitch C F) (filters : HoldsPitch K F) (stand : Stand F)
    (start : Main F S C K) (since : TimePoint) (main : Main F S C K) : Prop where
  holds : Holds blends filters stand start since main
  calibrated : main.inertialSensing.sensing.calibration = .calibrated
  bias : main.inertialSensing.sensing.bias = stand.rate
  running : main.attitudeEstimation.running = true

omit [Field F] [LinearOrder F] [IsStrictOrderedRing F] [FloatRounding F] [FloatGeometry F]
  [FloatPi F] [FloatBits F] [FloatImage F] [TextInput F] [ControlStrategy S F] [PitchFilter C F]
  [PitchFilter K F] in
/-- An iteration leaves every other mode than armed. -/
theorem iterates_disarmed {before after : SafetySupervisorImpl F (Plant F S (Gyroscope F))}
    (iterates : Iterates before after) {mode : Mode} (same : before.mode = mode)
    (disarmed : mode ≠ .armed) : after.mode = mode := by
  rcases iterates.mode with kept | ⟨armed, -⟩
  · exact kept.trans same
  · exact absurd (same.symm.trans armed) disarmed

/-- Before the window is full the calibration goes on. -/
theorem Filling.goesOn (filling : Filling blends filters stand start now count main)
    (serves : Serves blends filters stand main) (before : count + 1 ≤ stand.filling) :
    ∃ next, machine.step main (stand.sampled now count) = some next ∧
      Filling blends filters stand start now (count + 1) next := by
  have configured := serves.waits.config
  have accepted : main.inertialSensing.sensing.config.Accepted := configured ▸ stand.accepted
  have still : Within main.inertialSensing.sensing.config
      (held stand.rate stand.acceleration (stand.time now count)) := configured ▸ stand.still
  have early : stand.time now count + main.inertialSensing.sensing.config.samplePeriod - now <
      main.inertialSensing.sensing.config.calibrationWindow := by
    rw [configured, ← stand.time_succ, Stand.time, add_sub_cancel_left]
    exact stand.filling_iff.mp before
  obtain ⟨sensing, answered, sees, summing⟩ := filling.summing.goesOn accepted still
    (stand.filling_few (Nat.le_of_succ_le before)) early
  rw [configured] at answered sees summing
  have unbiased : sensing.calibration = .calibrated → sensing.bias.y = stand.rate.y := by
    intro calibrated
    rw [summing.running] at calibrated
    cases calibrated
  obtain ⟨next, stepped, holds, rfl, step⟩ :=
    filling.holds.sampled serves answered sees unbiased
  rw [← stand.time_succ] at stepped holds summing
  exact ⟨next, stepped, holds, iterates_disarmed step.upkeep.iterates filling.mode (by decide),
    summing⟩

/-- The sample that fills the window completes the calibration. -/
theorem Filling.completes (filling : Filling blends filters stand start now stand.filling main)
    (serves : Serves blends filters stand main) :
    ∃ next, machine.step main (stand.sampled now stand.filling) = some next ∧
      next.supervisor.mode = .calibrating ∧
      Calibrated blends filters stand start (stand.time now (stand.filling + 1)) next := by
  have configured := serves.waits.config
  have accepted : main.inertialSensing.sensing.config.Accepted := configured ▸ stand.accepted
  have still : Within main.inertialSensing.sensing.config
      (held stand.rate stand.acceleration (stand.time now stand.filling)) :=
    configured ▸ stand.still
  have full : main.inertialSensing.sensing.config.calibrationWindow ≤
      stand.time now stand.filling + main.inertialSensing.sensing.config.samplePeriod - now := by
    rw [configured, ← stand.time_succ, Stand.time, add_sub_cancel_left]
    exact not_lt.mp (mt stand.filling_iff.mpr (Nat.not_succ_le_self _))
  obtain ⟨sensing, answered, sees, calibrated, bias⟩ := filling.summing.completes accepted still
    (stand.filling_few le_rfl) full
  rw [configured] at answered sees
  obtain ⟨next, stepped, holds, rfl, step⟩ := filling.holds.sampled serves answered sees
    fun _ => congrArg InertialAxes.y bias
  rw [← stand.time_succ] at stepped holds
  exact ⟨next, stepped, iterates_disarmed step.upkeep.iterates filling.mode (by decide), holds,
    calibrated, bias, (step.runs calibrated).1⟩

end Calibrating

end Main
end InvertedPendulum.Application
