import InvertedPendulum.Application.DriveSafety

namespace InvertedPendulum.Application
open Platform Motion Odometry Estimation Sensing Control Balance Safety Telemetry Reactive Machine

section Efforts
variable {F : Type} [FloatArithmetic F]

/-- An effort is within range when both wheels stay between full reverse and full forward. -/
def WithinRange (effort : Effort F) : Prop :=
  (-1 ≤ effort.left ∧ effort.left ≤ 1) ∧ -1 ≤ effort.right ∧ effort.right ≤ 1

/-- No effort is within range. -/
theorem noEffort_withinRange [IeeeOrder F] : WithinRange (noEffort : Effort F) := by
  have mirrored : (-1 : F) ≤ -0 := IeeeOrder.mirror IeeeOrder.unit
  have low : (-1 : F) ≤ 0 := IeeeOrder.chain mirrored IeeeOrder.zeroHigh
  exact ⟨⟨low, IeeeOrder.unit⟩, low, IeeeOrder.unit⟩

/-- An effort of numbers is within range once it is saturated. -/
theorem saturate_withinRange [IeeeOrder F] {effort : Effort F} (left : Ordinary effort.left)
    (right : Ordinary effort.right) : WithinRange (saturate effort) :=
  ⟨clamp_unit left, clamp_unit right⟩

end Efforts

variable {F S τ : Type} [FloatArithmetic F] [FloatRounding F] [ControlStrategy S F]

namespace Firmware

/-- The active strategy requests this effort of an iteration. -/
def requested (firmware : Firmware F S τ) (estimate : Estimate F) (interval : Duration) : Effort F :=
  (ControlStrategy.balance firmware.control.strategy estimate (intervalSeconds interval)).1

/-- The last sample tells the truth about the iteration that has just ended. -/
structure Truthful (firmware : Firmware F S τ) (estimate : Estimate F)
    (caller : Option (Operation F)) : Prop where
  /-- A cause is reported exactly with the fault mode. -/
  cause : firmware.recorder.latest.cause ≠ .none ↔ firmware.recorder.latest.mode = .fault
  /-- Both efforts are between full reverse and full forward. -/
  range : WithinRange ⟨firmware.recorder.latest.effortLeft, firmware.recorder.latest.effortRight⟩
  /-- An armed sample comes from a sound estimate, and its efforts have just been driven. -/
  armed : firmware.recorder.latest.mode = .armed →
    estimate.valid = true ∧ fabs estimate.pitch ≤ firmware.supervisor.config.fallThreshold ∧
    firmware.motors.calls = [firmware.motors.last] ∧
    firmware.motors.last.left = inputsFor firmware.actuation.fullScale
      firmware.recorder.latest.effortLeft firmware.actuation.decay ∧
    firmware.motors.last.right = inputsFor firmware.actuation.fullScale
      firmware.recorder.latest.effortRight firmware.actuation.decay
  /-- Any other sample reports no effort, on bridges that are released or braked by the command. -/
  disarmed : firmware.recorder.latest.mode ≠ .armed →
    firmware.recorder.latest.effortLeft = 0 ∧ firmware.recorder.latest.effortRight = 0 ∧
    firmware.Resting caller

/-- The motors have just been driven with the efforts of the last sample. -/
structure Drives (firmware : Firmware F S τ) : Prop where
  applied : firmware.control.applied =
    ⟨firmware.recorder.latest.effortLeft, firmware.recorder.latest.effortRight⟩
  called : firmware.motors.calls = [firmware.motors.last]
  left : firmware.motors.last.left = inputsFor firmware.actuation.fullScale
    firmware.recorder.latest.effortLeft firmware.actuation.decay
  right : firmware.motors.last.right = inputsFor firmware.actuation.fullScale
    firmware.recorder.latest.effortRight firmware.actuation.decay

/-- A balance iteration that ends armed has driven the saturated effort that it reports. -/
theorem balanced_drive [InertialSensing τ] {before after : SafetySupervisorImpl F (Plant F S τ)}
    {estimate : Estimate F} {interval : Duration} {outstanding : Bool} {braked : Prop}
    (outcome : before.Outcome (.balance estimate interval) after)
    (sound : Sound before outstanding braked) (armed : after.mode = .armed) :
    estimate.valid = true ∧ ¬ before.config.fallThreshold < fabs estimate.pitch ∧
      after.peers.control.applied = saturate (ControlStrategy.balance before.peers.control.strategy
        estimate (intervalSeconds interval)).1 ∧
      after.peers.actuation = before.peers.actuation.drive
        (MotionActuationImpl.driven before.peers.actuation.fullScale before.peers.actuation.decay
          after.peers.control.applied.left after.peers.control.applied.right) := by
  cases outcome with
  | fed _ _ disarmed => exact absurd armed disarmed
  | invalid | fell | failed => simp at armed
  | balanced _ _ started valid within healthy =>
      have engaged : before.peers.control.engaged = true := sound.engaged.mpr started
      have permitted : before.peers.actuation.drivePermitted = true :=
        MotionActuationImpl.drivePermitted_iff.mpr ⟨sound.ready started, healthy⟩
      refine ⟨valid, within, ?_, ?_⟩
      · change (before.peers.control.balance estimate interval).applied = _
        unfold BalanceControlImpl.balance
        simp [engaged, valid]
      · have applied := congrArg Hardware.actuation (balance_applies engaged valid interval)
        apply applied.trans
        rcases before.peers.actuation.apply_cases
          (before.peers.control.balance estimate interval).applied.left
          (before.peers.control.balance estimate interval).applied.right with ⟨-, refused⟩ | ⟨driven, -⟩
        · rw [permitted] at refused
          cases refused
        · exact driven

variable [InertialSensing τ]

/-- Every sample of the firmware that starts here tells the truth, on pitches and efforts that are
numbers. -/
def TelemetryTruthful (start : Firmware F S τ) : Prop :=
  ∀ firmware caller moment estimate interval next last,
    watchedMachine.Reachable (start, none) (firmware, caller) →
    watchedMachine.step (firmware, caller) (moment, .balance estimate interval) =
      some (next, last) →
    Ordinary estimate.pitch → Ordinary (firmware.requested estimate interval).left →
    Ordinary (firmware.requested estimate interval).right → next.Truthful estimate last

/-- The sample is taken from the state that the iteration has left. -/
theorem sampled {before after : Firmware F S τ} {estimate : Estimate F} {interval : Duration}
    (performed : before.perform (.balance estimate interval) = some after) :
    after.recorder.latest.mode = after.supervisor.mode ∧
      after.recorder.latest.cause = after.supervisor.cause ∧
      after.recorder.latest.effortLeft = after.control.applied.left ∧
      after.recorder.latest.effortRight = after.control.applied.right := by
  obtain rfl := Option.some.inj performed
  exact ⟨rfl, rfl, rfl, rfl⟩

/-- A balance iteration that ends armed has driven the efforts of the sample it takes. -/
theorem balance_drives {before after : Firmware F S τ} {caller : Option (Operation F)}
    {estimate : Estimate F} {interval : Duration} (coherent : before.Coherent caller)
    (quiet : before.motors.calls = [])
    (performed : before.perform (.balance estimate interval) = some after)
    (armed : after.recorder.latest.mode = .armed) : after.Drives := by
  obtain ⟨mode, -, effortLeft, effortRight⟩ := sampled performed
  have outcome : before.supervisor.Outcome (.balance estimate interval) after.supervisor := by
    rw [(perform_request rfl performed).1]
    exact SafetySupervisorImpl.perform_outcome _ _
  obtain ⟨-, -, -, drive⟩ := balanced_drive outcome coherent (mode.symm.trans armed)
  have actuation : after.actuation = before.actuation.drive
    (MotionActuationImpl.driven before.actuation.fullScale before.actuation.decay
      after.control.applied.left after.control.applied.right) := drive
  constructor
  · rw [effortLeft, effortRight]
  · have called : after.motors.calls = before.motors.calls ++ [after.motors.last] := by
      unfold motors
      rw [actuation]
      rfl
    rw [called, quiet, List.nil_append]
  · unfold motors
    rw [effortLeft, actuation]
    rfl
  · unfold motors
    rw [effortRight, actuation]
    rfl

/-- A balance iteration records a truthful sample. -/
theorem balance_truthful [IeeeOrder F] {firmware next : Firmware F S τ}
    {caller last : Option (Operation F)} {moment : Moment F τ} {estimate : Estimate F}
    {interval : Duration} (coherent : firmware.Coherent caller)
    (formed : firmware.supervisor.WellFormed)
    (threshold : Ordinary firmware.supervisor.config.fallThreshold)
    (stepped : watchedMachine.step (firmware, caller) (moment, .balance estimate interval) =
      some (next, last)) (pitch : Ordinary estimate.pitch)
    (left : Ordinary (firmware.requested estimate interval).left)
    (right : Ordinary (firmware.requested estimate interval).right) :
    next.Truthful estimate last := by
  have agreed : next.Coherent last := coherent_kept (firmware, caller) _ (next, last) coherent stepped
  obtain ⟨moved, -⟩ := observed_step.mp stepped
  obtain ⟨supervised, config⟩ := supervised_kept _ _ _ next ⟨formed, rfl⟩ moved
  have performed : (firmware.begin moment).perform (.balance estimate interval) = some next := moved
  obtain ⟨mode, cause, effortLeft, effortRight⟩ := sampled performed
  have outcome : (firmware.begin moment).supervisor.Outcome (.balance estimate interval)
      next.supervisor := by
    rw [(perform_request rfl performed).1]
    exact SafetySupervisorImpl.perform_outcome _ _
  refine ⟨?_, ?_, ?_, ?_⟩
  · rw [mode, cause]
    exact supervised.cause.symm
  · rw [effortLeft, effortRight]
    by_cases armed : next.supervisor.mode = .armed
    · have applied : next.control.applied = saturate (firmware.requested estimate interval) :=
        (balanced_drive outcome (coherent.begin moment) armed).2.2.1
      rw [applied]
      exact saturate_withinRange left right
    · have rested : next.control.applied = noEffort := (Sound.disarmed agreed armed).2
      rw [rested]
      exact noEffort_withinRange
  · intro armed
    obtain ⟨valid, within, -⟩ :=
      balanced_drive outcome (coherent.begin moment) (mode.symm.trans armed)
    have drives := balance_drives (coherent.begin moment) rfl performed armed
    rw [config]
    exact ⟨valid, IeeeOrder.total threshold (ordinary_fabs pitch) within, drives.called, drives.left,
      drives.right⟩
  · intro disarmed
    rw [mode] at disarmed
    rw [effortLeft, effortRight]
    have rested : next.control.applied = noEffort := (Sound.disarmed agreed disarmed).2
    rw [rested]
    exact ⟨rfl, rfl, agreed.resting disarmed⟩

/-- The samples of the constructed firmware tell the truth, whatever order the operations come in. -/
theorem construct_telemetryTruthful [IeeeOrder F] {fullScale : DutyCycle} {decay : Decay}
    {strategies : List S} {moment : Moment F τ} {balanceConfig : BalanceControlImpl.Config F}
    {safetyConfig : SafetySupervisorImpl.Config F} {start : Firmware F S τ}
    (threshold : Ordinary safetyConfig.fallThreshold)
    (constructed : construct fullScale decay strategies moment balanceConfig safetyConfig =
      some start) : start.TelemetryTruthful := by
  obtain ⟨initially, formed, configured⟩ := construct_starts constructed
  intro firmware caller moment estimate interval next last reached stepped pitch left right
  have coherent : firmware.Coherent caller := reached.invariant coherent_kept initially
  obtain ⟨events, watched⟩ := reached
  have ran := (observed_run none).mpr ⟨caller, watched⟩
  obtain ⟨supervised, config⟩ :=
    run_invariant (supervised_kept safetyConfig) ⟨formed, configured⟩ ran
  refine balance_truthful coherent supervised ?_ stepped pitch left right
  rw [config]
  exact threshold

/-- The firmware of `Main.cpp` records truthful samples. -/
theorem main_telemetryTruthful : ∃ start : Firmware ℚ _ (Answers ℚ),
    main 1000 ⟨0, ⟨0, 0⟩, .healthy 0⟩ = some start ∧ start.TelemetryTruthful :=
  ⟨_, rfl, construct_telemetryTruthful (IeeeOrder.constant _)
    (rfl : main (F := ℚ) 1000 ⟨0, ⟨0, 0⟩, Answers.healthy 0⟩ = some _)⟩

end Firmware
end InvertedPendulum.Application
