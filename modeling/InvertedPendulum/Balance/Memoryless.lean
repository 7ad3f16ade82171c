import InvertedPendulum.Balance.DrivenStrategy
import InvertedPendulum.Balance.IncrementalLoops

namespace InvertedPendulum.Balance
open Estimation Odometry Reactive IncrementalPid

/-- These are the inputs of the last outer iteration, if there was one since the reset. -/
abbrev Steered (F : Type) := Option (Setpoints F × ChassisMotion F)

/-- Only an outer iteration has inputs to remember. -/
def Iteration.steered {F : Type} (steered : Steered F) : Iteration F → Steered F
  | .steer setpoints chassis _ => some (setpoints, chassis)
  | .balance _ _ => steered

def Iteration.lastSteered {F : Type} (steered : Steered F) (history : List (Iteration F)) :
    Steered F := history.foldl Iteration.steered steered

/-- Efforts are equal where both wheels compare equal. -/
theorem sameEffort_iff {F : Type} [Field F] [LinearOrder F] {first second : Effort F} :
    sameEffort first second = true ↔ first = second := by
  unfold sameEffort sameFloat
  rw [Bool.and_eq_true, decide_eq_true_iff, decide_eq_true_iff]
  constructor
  · rintro ⟨⟨leftLow, leftHigh⟩, rightLow, rightHigh⟩
    cases first
    cases second
    rw [Effort.mk.injEq]
    exact ⟨le_antisymm leftLow leftHigh, le_antisymm rightLow rightHigh⟩
  · rintro rfl
    exact ⟨⟨le_rfl, le_rfl⟩, le_rfl, le_rfl⟩

theorem Iteration.lastSteered_append {F : Type} (steered : Steered F)
    (front back : List (Iteration F)) :
    lastSteered steered (front ++ back) = lastSteered (lastSteered steered front) back :=
  List.foldl_append

namespace CascadedPidStrategy
variable {F : Type} [Field F] [LinearOrder F]

/-- Only proportional gains act, but for the damping of the pitch. -/
structure Proportional (gains : Vector F 9) : Prop where
  pitchKi : gains.get pitchKi = 0
  velocityKi : gains[velocityKp + 1] = 0
  velocityKd : gains[velocityKp + 2] = 0
  yawKi : gains[yawKp + 1] = 0
  yawKd : gains[yawKp + 2] = 0

/-- The velocity loop asks in proportion to its error for this much. -/
def velocityDemand (gains : Vector F 9) (inputs : Setpoints F × ChassisMotion F) : F :=
  gains[velocityKp] * (inputs.1.velocity - inputs.2.forwardVelocity)

def yawDemand (gains : Vector F 9) (inputs : Setpoints F × ChassisMotion F) : F :=
  gains[yawKp] * (inputs.1.yawRate - inputs.2.yawRate)

/-- The law leans against the demand of the velocity loop, within its limit. -/
def leanLaw (config : Config F) (gains : Vector F 9) (steered : Steered F) : F :=
  steered.elim 0 fun inputs =>
    -clamp (velocityDemand gains inputs) (-config.maximumLean) config.maximumLean

def differentialLaw (config : Config F) (gains : Vector F 9) (steered : Steered F) : F :=
  steered.elim 0 fun inputs =>
    clamp (yawDemand gains inputs) (-config.maximumDifferential) config.maximumDifferential

/-- The pitch loop asks in proportion to its error for this much. -/
def pitchDemand (config : Config F) (gains : Vector F 9) (steered : Steered F)
    (estimate : Estimate F) : F :=
  gains.get pitchKp * (leanLaw config gains steered - estimate.pitch)

/-- The law without memory: an effort of the last inputs and the last estimate alone. -/
def effortLaw (config : Config F) (gains : Vector F 9) (steered : Steered F)
    (estimate : Estimate F) : Effort F :=
  let common := clamp (pitchDemand config gains steered estimate) (-1) 1 -
    gains.get pitchKd * estimate.pitchRate
  ⟨common - differentialLaw config gains steered, common + differentialLaw config gains steered⟩

/-- The limits of the outer loops leave the demands of these inputs alone. A clamped lean does not
matter to a pitch loop without gain. -/
def Unclamped (config : Config F) (gains : Vector F 9) (steered : Steered F) : Prop :=
  ∀ inputs, steered = some inputs →
    (gains.get pitchKp = 0 ∨ |velocityDemand gains inputs| ≤ config.maximumLean) ∧
      |yawDemand gains inputs| ≤ config.maximumDifferential

/-- The effort that the law applies for an estimate feeds the demand of the pitch loop back. -/
def FedBack (config : Config F) (gains : Vector F 9) (steered : Steered F)
    (estimate : Estimate F) : Prop :=
  let applied := saturate (effortLaw config gains steered estimate)
  clamp ((applied.left + applied.right) / ((2 : ℚ) : F) + gains.get pitchKd * estimate.pitchRate) (-1) 1 =
    pitchDemand config gains steered estimate

/-- A history is undisturbed when each outer iteration but the last is unclamped and each balance
iteration feeds its demand back. -/
def Undisturbed (config : Config F) (gains : Vector F 9) :
    Steered F → List (Iteration F) → Prop
  | _, [] => True
  | steered, .steer setpoints chassis _ :: rest =>
      Unclamped config gains steered ∧ Undisturbed config gains (some (setpoints, chassis)) rest
  | steered, .balance estimate _ :: rest =>
      FedBack config gains steered estimate ∧ Undisturbed config gains steered rest

variable {P : Type} [IncrementalPid P F] [DocumentedPid P]

/-- The strategy computes by the law: each loop has put out what its last error asks for. -/
structure Lawful (config : Config F) (gains : Vector F 9) (steered : Steered F)
    (strategy : CascadedPidStrategy P F) : Prop where
  tuned : strategy.gains = gains
  limited : strategy.Limited config
  lean : gains.get pitchKp = 0 ∨ strategy.leanRequest = leanLaw config gains steered
  velocityOutput : gains.get pitchKp = 0 ∨
    strategy.velocityLoop.view.previousOutput = -leanLaw config gains steered
  velocityError : strategy.velocityLoop.view.previousError =
    steered.elim 0 fun inputs => inputs.1.velocity - inputs.2.forwardVelocity
  differential : strategy.differential = differentialLaw config gains steered
  yawOutput : strategy.yawLoop.view.previousOutput = differentialLaw config gains steered
  yawError : strategy.yawLoop.view.previousError =
    steered.elim 0 fun inputs => inputs.1.yawRate - inputs.2.yawRate
  pitchOutput : (DocumentedPid.view strategy.pitchLoop).previousOutput =
    gains.get pitchKp * (DocumentedPid.view strategy.pitchLoop).previousError

/-- A strategy that was reset computes by the law. -/
theorem reset_lawful {config : Config F} {strategy : CascadedPidStrategy P F}
    (limited : strategy.Limited config) :
    strategy.reset.Lawful config strategy.gains none := by
  have pitch : DocumentedPid.view strategy.reset.pitchLoop =
      { DocumentedPid.view strategy.pitchLoop with
        target := 0, previousOutput := 0, previousError := 0, olderError := 0 } := by
    change DocumentedPid.view (setPoint (IncrementalPid.reset strategy.pitchLoop) 0) = _
    rw [DocumentedPid.view_setPoint, DocumentedPid.view_reset]
    rfl
  have velocity := strategy.velocityLoop.view_reset
  have yaw := strategy.yawLoop.view_reset
  constructor
  case tuned => rfl
  case limited => exact (limited_preserved config).reset strategy limited
  case lean =>
    right
    unfold leanRequest
    rw [pitch]
    rfl
  case velocityOutput =>
    right
    change strategy.velocityLoop.reset.view.previousOutput = -0
    rw [velocity, neg_zero]
  case velocityError =>
    change strategy.velocityLoop.reset.view.previousError = 0
    rw [velocity]
  case differential => rfl
  case yawOutput =>
    change strategy.yawLoop.reset.view.previousOutput = 0
    rw [yaw]
  case yawError =>
    change strategy.yawLoop.reset.view.previousError = 0
    rw [yaw]
  case pitchOutput =>
    rw [pitch]
    exact (mul_zero _).symm

/-- An outer iteration changes the output of the velocity loop in proportion to its errors. -/
theorem steer_velocity {config : Config F} {strategy : CascadedPidStrategy P F}
    (limited : strategy.Limited config) (proportional : Proportional strategy.gains)
    (setpoint measured intervalSeconds : F) :
    (strategy.velocityLoop.process setpoint measured (strategy.gainsFrom velocityKp (by decide))
        intervalSeconds).1 =
      clamp (strategy.velocityLoop.view.undamped strategy.gains[velocityKp] 0 (setpoint - measured))
        (-config.maximumLean) config.maximumLean := by
  rw [ContinuousPid.process_still _ _ _ _ _ proportional.velocityKi proportional.velocityKd,
    limited.velocity]
  rfl

theorem steer_yaw {config : Config F} {strategy : CascadedPidStrategy P F}
    (limited : strategy.Limited config) (proportional : Proportional strategy.gains)
    (setpoint measured intervalSeconds : F) :
    (strategy.yawLoop.process setpoint measured (strategy.gainsFrom yawKp (by decide))
        intervalSeconds).1 =
      clamp (strategy.yawLoop.view.undamped strategy.gains[yawKp] 0 (setpoint - measured))
        (-config.maximumDifferential) config.maximumDifferential := by
  rw [ContinuousPid.process_still _ _ _ _ _ proportional.yawKi proportional.yawKd, limited.yaw]
  rfl

/-- The pitch loop puts out this much for a pitch, where it has no integral gain. -/
def pitchOutput (strategy : CascadedPidStrategy P F) (pitch : F) : F :=
  clamp ((DocumentedPid.view strategy.pitchLoop).undamped (strategy.gains.get pitchKp) 0
    (strategy.leanRequest - pitch)) (-1) 1

/-- A balance iteration leaves the output and the error of the pitch loop behind. -/
theorem balance_pitch {config : Config F} {strategy : CascadedPidStrategy P F}
    (limited : strategy.Limited config) (still : strategy.gains.get pitchKi = 0)
    (estimate : Estimate F) (intervalSeconds : F) :
    let tuned := setTunings strategy.pitchLoop
      ⟨strategy.gains.get pitchKp, strategy.gains.get pitchKi * intervalSeconds, 0⟩
    (process tuned estimate.pitch).1 = strategy.pitchOutput estimate.pitch ∧
      (DocumentedPid.view (process tuned estimate.pitch).2).previousOutput =
        strategy.pitchOutput estimate.pitch ∧
      (DocumentedPid.view (process tuned estimate.pitch).2).previousError =
        strategy.leanRequest - estimate.pitch := by
  intro tuned
  have tunedView : DocumentedPid.view tuned = { DocumentedPid.view strategy.pitchLoop with
      tunings := ⟨strategy.gains.get pitchKp, 0, 0⟩ } := by
    rw [DocumentedPid.view_setTunings, still, zero_mul]
    rfl
  have processed : (process (DocumentedPid.view tuned) estimate.pitch).1 =
      strategy.pitchOutput estimate.pitch := by
    rw [VelocityPid.process_undamped _ _ (by rw [tunedView]), tunedView, limited.pitch]
    rfl
  refine ⟨(DocumentedPid.process_output _ _).trans processed, ?_, ?_⟩
  · rw [DocumentedPid.view_process]
    exact processed
  · rw [DocumentedPid.view_process, tunedView]
    rfl

/-- A balance iteration asks for what the pitch loop puts out, less the damping. -/
theorem requested_effort {config : Config F} {strategy : CascadedPidStrategy P F}
    (limited : strategy.Limited config) (still : strategy.gains.get pitchKi = 0)
    (estimate : Estimate F) (intervalSeconds : F) :
    let common := strategy.pitchOutput estimate.pitch -
      strategy.gains.get pitchKd * estimate.pitchRate
    (strategy.balance estimate intervalSeconds).1 =
      ⟨common - strategy.differential, common + strategy.differential⟩ := by
  intro common
  obtain ⟨output, -, -⟩ := balance_pitch limited still estimate intervalSeconds
  change (⟨(process _ _).1 - strategy.gains.get pitchKd * estimate.pitchRate - strategy.differential,
    (process _ _).1 - strategy.gains.get pitchKd * estimate.pitchRate + strategy.differential⟩ :
    Effort F) = _
  rw [output]

/-- A lawful strategy asks for the lean of the law, unless its pitch loop has no gain. -/
theorem Lawful.demand {config : Config F} {gains : Vector F 9} {steered : Steered F}
    {strategy : CascadedPidStrategy P F} (lawful : strategy.Lawful config gains steered)
    (estimate : Estimate F) :
    gains.get pitchKp * (strategy.leanRequest - estimate.pitch) =
      pitchDemand config gains steered estimate := by
  unfold pitchDemand
  rcases lawful.lean with without | lean
  · rw [without, zero_mul, zero_mul]
  · rw [lean]

section Steps
variable [IsStrictOrderedRing F] {config : Config F} {gains : Vector F 9} {steered : Steered F}
  {strategy : CascadedPidStrategy P F}

/-- An unclamped yaw loop has put out what its error asks for. -/
theorem Unclamped.yaw (unclamped : Unclamped config gains steered) :
    differentialLaw config gains steered = gains[yawKp] *
      steered.elim 0 fun inputs => inputs.1.yawRate - inputs.2.yawRate := by
  cases steered with
  | none => exact (mul_zero _).symm
  | some inputs => exact clamp_within (unclamped inputs rfl).2

theorem Unclamped.velocity (unclamped : Unclamped config gains steered) :
    gains.get pitchKp = 0 ∨ -leanLaw config gains steered = gains[velocityKp] *
      steered.elim 0 fun inputs => inputs.1.velocity - inputs.2.forwardVelocity := by
  cases steered with
  | none =>
      right
      change -0 = _ * 0
      rw [neg_zero, mul_zero]
  | some inputs =>
      refine (unclamped inputs rfl).1.imp_right fun within => ?_
      change - -clamp _ _ _ = _
      rw [neg_neg]
      exact clamp_within within

/-- An outer iteration after an unclamped one computes by the law. -/
theorem Lawful.steer (lawful : strategy.Lawful config gains steered)
    (proportional : Proportional gains) (unclamped : Unclamped config gains steered)
    (setpoints : Setpoints F) (chassis : ChassisMotion F) (intervalSeconds : F) :
    (strategy.steer setpoints chassis intervalSeconds).Lawful config gains
      (some (setpoints, chassis)) := by
  obtain ⟨rfl, limited, -, velocityOutput, velocityError, -, yawOutput, yawError, pitchOutput⟩ := lawful
  have velocity : strategy.gains.get pitchKp = 0 ∨ (strategy.velocityLoop.process setpoints.velocity
      chassis.forwardVelocity (strategy.gainsFrom velocityKp (by decide)) intervalSeconds).1 =
        -leanLaw config strategy.gains (some (setpoints, chassis)) := by
    rcases velocityOutput with without | output
    · exact .inl without
    · refine unclamped.velocity.imp_right fun demand => ?_
      have settled := output.trans demand
      rw [← velocityError] at settled
      rw [steer_velocity limited proportional, VelocityPid.undamped_settled _ _ settled]
      exact (neg_neg _).symm
  have yaw : (strategy.yawLoop.process setpoints.yawRate chassis.yawRate
      (strategy.gainsFrom yawKp (by decide)) intervalSeconds).1 =
        differentialLaw config strategy.gains (some (setpoints, chassis)) := by
    have settled := yawOutput.trans unclamped.yaw
    rw [← yawError] at settled
    rw [steer_yaw limited proportional, VelocityPid.undamped_settled _ _ settled]
    rfl
  exact {
    tuned := rfl
    limited := (limited_preserved config).steer strategy setpoints chassis intervalSeconds limited
    lean := by
      rw [steer_leanRequest]
      exact velocity.imp_right neg_eq_iff_eq_neg.mpr
    velocityOutput := by
      unfold CascadedPidStrategy.steer
      rw [ContinuousPid.view_process]
      exact velocity
    velocityError := by
      unfold CascadedPidStrategy.steer
      rw [ContinuousPid.view_process]
      rfl
    differential := yaw
    yawOutput := by
      unfold CascadedPidStrategy.steer
      rw [ContinuousPid.view_process]
      exact yaw
    yawError := by
      unfold CascadedPidStrategy.steer
      rw [ContinuousPid.view_process]
      rfl
    pitchOutput := by
      unfold CascadedPidStrategy.steer
      rw [DocumentedPid.view_setPoint]
      exact pitchOutput }

omit [IsStrictOrderedRing F] in
/-- The pitch loop of a lawful strategy puts out what the law demands. -/
theorem Lawful.pitch (lawful : strategy.Lawful config gains steered) (estimate : Estimate F) :
    strategy.pitchOutput estimate.pitch = clamp (pitchDemand config gains steered estimate) (-1) 1 := by
  unfold CascadedPidStrategy.pitchOutput
  rw [lawful.tuned, VelocityPid.undamped_settled _ _ lawful.pitchOutput, lawful.demand]

omit [IsStrictOrderedRing F] in
/-- A balance iteration of a lawful strategy asks for the effort of the law. -/
theorem Lawful.balance_effort (lawful : strategy.Lawful config gains steered)
    (proportional : Proportional gains) (estimate : Estimate F) (intervalSeconds : F) :
    (strategy.balance estimate intervalSeconds).1 = effortLaw config gains steered estimate := by
  rw [requested_effort lawful.limited (lawful.tuned ▸ proportional.pitchKi), lawful.pitch,
    lawful.differential, lawful.tuned]
  rfl

omit [IncrementalPid P F] [DocumentedPid P] in
/-- The mean of the law's effort is what its pitch loop puts out, less the damping. -/
theorem effortLaw_mean (config : Config F) (gains : Vector F 9) (steered : Steered F)
    (estimate : Estimate F) :
    ((effortLaw config gains steered estimate).left + (effortLaw config gains steered estimate).right) /
        ((2 : ℚ) : F) + gains.get pitchKd * estimate.pitchRate =
      clamp (pitchDemand config gains steered estimate) (-1) 1 := by
  unfold effortLaw
  push_cast
  ring

/-- Whether or not the effort saturates, the pitch loop goes on from the applied effort and from the
demand of the law. -/
theorem Lawful.answer_pitch (lawful : strategy.Lawful config gains steered)
    (proportional : Proportional gains) (estimate : Estimate F) (intervalSeconds : F) :
    let applied := saturate (effortLaw config gains steered estimate)
    let next := Iteration.answer strategy (.balance estimate intervalSeconds)
    (DocumentedPid.view next.pitchLoop).previousOutput =
        clamp ((applied.left + applied.right) / ((2 : ℚ) : F) +
          gains.get pitchKd * estimate.pitchRate) (-1) 1 ∧
      gains.get pitchKp * (DocumentedPid.view next.pitchLoop).previousError =
        pitchDemand config gains steered estimate := by
  intro applied next
  obtain ⟨-, output, error⟩ :=
    balance_pitch lawful.limited (lawful.tuned ▸ proportional.pitchKi) estimate intervalSeconds
  have demand := lawful.demand estimate
  rw [← error] at demand
  have requested := lawful.balance_effort proportional estimate intervalSeconds
  have answered : next = if ! sameEffort applied (effortLaw config gains steered estimate) then
      (strategy.balance estimate intervalSeconds).2.saturated applied
      else (strategy.balance estimate intervalSeconds).2 := by
    change (if ! sameEffort (saturate (strategy.balance estimate intervalSeconds).1)
      (strategy.balance estimate intervalSeconds).1 then
      (strategy.balance estimate intervalSeconds).2.saturated
        (saturate (strategy.balance estimate intervalSeconds).1)
      else (strategy.balance estimate intervalSeconds).2) = _
    rw [requested]
  rw [answered]
  cases same : sameEffort applied (effortLaw config gains steered estimate) with
  | true =>
      have unchanged : applied = effortLaw config gains steered estimate := sameEffort_iff.mp same
      refine ⟨?_, demand⟩
      rw [unchanged]
      change (DocumentedPid.view (process _ _).2).previousOutput = _
      rw [output, lawful.pitch, effortLaw_mean]
      exact (clamp_within (abs_le.mpr (clamp_unit le_rfl))).symm
  | false =>
      change (DocumentedPid.view (setPreviousOutput _ _)).previousOutput = _ ∧
        _ * (DocumentedPid.view (setPreviousOutput _ _)).previousError = _
      rw [DocumentedPid.view_setPreviousOutput, ← lawful.tuned]
      exact ⟨rfl, lawful.tuned ▸ demand⟩

omit [IsStrictOrderedRing F] in
/-- A balance iteration changes nothing but the pitch loop and the damping. -/
theorem Lawful.answer_keeps (lawful : strategy.Lawful config gains steered) (estimate : Estimate F)
    (intervalSeconds : F) :
    let next := Iteration.answer strategy (.balance estimate intervalSeconds)
    (gains.get pitchKp = 0 ∨ next.leanRequest = leanLaw config gains steered) ∧
      (next.velocityLoop = strategy.velocityLoop ∧ next.yawLoop = strategy.yawLoop ∧
        next.differential = strategy.differential) ∧
      next.gains = gains ∧ next.Limited config := by
  intro next
  obtain ⟨calls, inner, ran⟩ := Iteration.balance_calls strategy estimate intervalSeconds
  have kept := StrategyCall.inner_run_keeps _ inner_answer_keeps inner ran
  simp only [Prod.mk.injEq] at kept
  obtain ⟨velocityLoop, yawLoop, differential, lean⟩ := kept
  have tuned : next.gains = strategy.gains := by
    simp only [next, Iteration.answer]
    split <;> rfl
  refine ⟨?_, ⟨velocityLoop, yawLoop, differential⟩, tuned.trans lawful.tuned,
    (limited_preserved config).reachable lawful.limited ⟨calls, ran⟩⟩
  rw [lean]
  exact lawful.lean

/-- A balance iteration that feeds its demand back computes by the law. -/
theorem Lawful.balance (lawful : strategy.Lawful config gains steered)
    (proportional : Proportional gains) (estimate : Estimate F) (intervalSeconds : F)
    (fedBack : FedBack config gains steered estimate) :
    (Iteration.answer strategy (.balance estimate intervalSeconds)).Lawful config gains steered := by
  obtain ⟨output, error⟩ := lawful.answer_pitch proportional estimate intervalSeconds
  obtain ⟨lean, outer, tuned, limited⟩ := lawful.answer_keeps estimate intervalSeconds
  obtain ⟨velocityLoop, yawLoop, differential⟩ := outer
  exact {
    tuned
    limited
    lean
    velocityOutput := by
      rw [velocityLoop]
      exact lawful.velocityOutput
    velocityError := by
      rw [velocityLoop]
      exact lawful.velocityError
    differential := differential.trans lawful.differential
    yawOutput := by
      rw [yawLoop]
      exact lawful.yawOutput
    yawError := by
      rw [yawLoop]
      exact lawful.yawError
    pitchOutput := output.trans (fedBack.trans error.symm) }

/-- A strategy computes by the law after every undisturbed history. -/
theorem Lawful.run (lawful : strategy.Lawful config gains steered) (proportional : Proportional gains)
    {history : List (Iteration F)} (undisturbed : Undisturbed config gains steered history) :
    (Iteration.run strategy history).Lawful config gains
      (Iteration.lastSteered steered history) := by
  induction history generalizing strategy steered with
  | nil => exact lawful
  | cons iteration rest ih =>
      cases iteration with
      | steer setpoints chassis intervalSeconds =>
          obtain ⟨unclamped, later⟩ := undisturbed
          exact ih (lawful.steer proportional unclamped setpoints chassis intervalSeconds) later
      | balance estimate intervalSeconds =>
          obtain ⟨fedBack, later⟩ := undisturbed
          exact ih (lawful.balance proportional estimate intervalSeconds fedBack) later

omit [IncrementalPid P F] [DocumentedPid P] in
/-- The law asks for nothing upright, still and on the setpoints. -/
theorem effortLaw_rest (leanLimit : 0 ≤ config.maximumLean)
    (differentialLimit : 0 ≤ config.maximumDifferential)
    (onSetpoints : ∀ inputs, steered = some inputs →
      inputs.1.velocity = inputs.2.forwardVelocity ∧ inputs.1.yawRate = inputs.2.yawRate)
    {estimate : Estimate F} (upright : estimate.pitch = 0) (still : estimate.pitchRate = 0) :
    effortLaw config gains steered estimate = ⟨0, 0⟩ := by
  have lean : leanLaw config gains steered = 0 := by
    cases steered with
    | none => rfl
    | some inputs =>
        change -clamp (gains[velocityKp] * (inputs.1.velocity - inputs.2.forwardVelocity)) _ _ = 0
        rw [(onSetpoints inputs rfl).1, sub_self, mul_zero, clamp_within (by rwa [abs_zero]), neg_zero]
  have differential : differentialLaw config gains steered = 0 := by
    cases steered with
    | none => rfl
    | some inputs =>
        change clamp (gains[yawKp] * (inputs.1.yawRate - inputs.2.yawRate)) _ _ = 0
        rw [(onSetpoints inputs rfl).2, sub_self, mul_zero, clamp_within (by rwa [abs_zero])]
  have demand : clamp (pitchDemand config gains steered estimate) (-1) 1 = 0 := by
    unfold pitchDemand
    rw [lean, upright, sub_self, mul_zero, clamp_within (by simp)]
  unfold effortLaw
  rw [demand, differential, still, mul_zero, sub_self]
  change (⟨0 - 0, 0 + 0⟩ : Effort F) = _
  rw [sub_zero, add_zero]

/-- No memory of a history shows: the law gives the effort at once and after any outer iteration. -/
structure Forgetful (config : Config F) (gains : Vector F 9) (steered : Steered F)
    (strategy : CascadedPidStrategy P F) : Prop where
  now : ∀ estimate intervalSeconds,
    (strategy.balance estimate intervalSeconds).1 = effortLaw config gains steered estimate
  steered : ∀ setpoints chassis outerSeconds estimate intervalSeconds,
    ((strategy.steer setpoints chassis outerSeconds).balance estimate intervalSeconds).1 =
      effortLaw config gains (some (setpoints, chassis)) estimate

/-- Two wheels that run alike in both of two efforts have a common part and a difference alike. -/
theorem effort_parts {first second differential other : F}
    (same : (⟨first - differential, first + differential⟩ : Effort F) =
      ⟨second - other, second + other⟩) : first = second ∧ differential = other := by
  obtain ⟨left, right⟩ := Effort.mk.inj same
  constructor <;> linarith

omit [LinearOrder F] [IsStrictOrderedRing F] in
/-- Without an error, a loop shows how far its output is from what its last error asks for. -/
theorem undamped_zero_iff {pid : VelocityPid F} {kp error : F} (none : error = 0) :
    pid.undamped kp 0 error = 0 ↔ pid.previousOutput = kp * pid.previousError := by
  unfold VelocityPid.undamped
  rw [none, mul_zero, zero_sub, ← sub_eq_add_neg, sub_eq_zero]

/-- A strategy without any error after a clamped outer iteration shows what was clamped. -/
theorem Lawful.unclamped (lawful : strategy.Lawful config gains steered)
    (proportional : Proportional gains) (leanLimit : 0 < config.maximumLean)
    (differentialLimit : 0 < config.maximumDifferential)
    (forgetful : strategy.Forgetful config gains steered) : Unclamped config gains steered := by
  rintro inputs rfl
  obtain ⟨rfl, limited, -, velocityOutput, velocityError, -, yawOutput, yawError, pitchOutput⟩ := lawful
  let rested := strategy.steer ⟨0, 0⟩ ⟨0, 0⟩ 1
  have restedLimited : rested.Limited config :=
    (limited_preserved config).steer strategy ⟨0, 0⟩ ⟨0, 0⟩ 1 limited
  have shown := forgetful.steered ⟨0, 0⟩ ⟨0, 0⟩ 1 ⟨0, 0, true, .none⟩ 1
  have rest : effortLaw config strategy.gains (some (⟨0, 0⟩, ⟨0, 0⟩)) ⟨0, 0, true, .none⟩ =
      ⟨0 - 0, 0 + 0⟩ := by
    rw [sub_zero, add_zero]
    refine effortLaw_rest leanLimit.le differentialLimit.le ?_ rfl rfl
    rintro inputs ⟨⟩
    exact ⟨rfl, rfl⟩
  rw [rest, requested_effort restedLimited proportional.pitchKi] at shown
  obtain ⟨common, differential⟩ := effort_parts shown
  constructor
  · have settled : (DocumentedPid.view rested.pitchLoop).previousOutput =
        rested.gains.get pitchKp * (DocumentedPid.view rested.pitchLoop).previousError := by
      change (DocumentedPid.view (setPoint _ _)).previousOutput =
        _ * (DocumentedPid.view (setPoint _ _)).previousError
      rw [DocumentedPid.view_setPoint]
      exact pitchOutput
    have demand : rested.gains.get pitchKp * (rested.leanRequest - 0) = 0 := by
      rw [mul_zero, sub_zero, CascadedPidStrategy.pitchOutput,
        VelocityPid.undamped_settled _ _ settled, clamp_eq_zero_iff one_pos] at common
      exact common
    rcases mul_eq_zero.mp demand with without | still
    · exact .inl without
    · refine velocityOutput.imp_right fun output => ?_
      rw [sub_zero, steer_leanRequest, neg_eq_zero, steer_velocity limited proportional,
        clamp_eq_zero_iff leanLimit, undamped_zero_iff (sub_self _), output, velocityError] at still
      exact (clamp_eq_self_iff leanLimit.le).mp ((neg_neg _).symm.trans still)
  · change (strategy.yawLoop.process _ _ _ _).1 = 0 at differential
    rw [steer_yaw limited proportional, clamp_eq_zero_iff differentialLimit,
      undamped_zero_iff (sub_self _),
      yawOutput, yawError] at differential
    exact (clamp_eq_self_iff differentialLimit.le).mp differential

/-- A strategy forgets exactly what its outer loops did not clamp. -/
theorem Lawful.forgetful_iff (lawful : strategy.Lawful config gains steered)
    (proportional : Proportional gains) (leanLimit : 0 < config.maximumLean)
    (differentialLimit : 0 < config.maximumDifferential) :
    strategy.Forgetful config gains steered ↔ Unclamped config gains steered := by
  constructor
  · exact lawful.unclamped proportional leanLimit differentialLimit
  · intro unclamped
    exact {
      now := lawful.balance_effort proportional
      steered := fun setpoints chassis outerSeconds estimate intervalSeconds =>
        (lawful.steer proportional unclamped setpoints chassis outerSeconds).balance_effort
          proportional estimate intervalSeconds }

/-- A balance iteration after which no memory shows has fed its demand back. -/
theorem Lawful.fedBack (lawful : strategy.Lawful config gains steered)
    (proportional : Proportional gains) {estimate : Estimate F} {intervalSeconds : F}
    (forgetful : (Iteration.answer strategy (.balance estimate intervalSeconds)).Forgetful config
      gains steered) : FedBack config gains steered estimate := by
  obtain ⟨output, error⟩ := lawful.answer_pitch proportional estimate intervalSeconds
  obtain ⟨lean, -, tuned, limited⟩ := lawful.answer_keeps estimate intervalSeconds
  let next := Iteration.answer strategy (.balance estimate intervalSeconds)
  let aligned : Estimate F := ⟨next.leanRequest, 0, true, .none⟩
  have shown := forgetful.now aligned 1
  have nothing : pitchDemand config gains steered aligned = 0 := by
    unfold pitchDemand
    rcases lean with without | same
    · rw [without, zero_mul]
    · rw [← same, sub_self, mul_zero]
  rw [requested_effort limited (tuned ▸ proportional.pitchKi)] at shown
  obtain ⟨common, -⟩ := effort_parts shown
  rw [nothing, mul_zero, mul_zero, sub_zero, sub_zero, clamp_within (by simp),
    CascadedPidStrategy.pitchOutput, clamp_eq_zero_iff one_pos, undamped_zero_iff (sub_self _), tuned,
    error] at common
  exact output.symm.trans common

omit [IsStrictOrderedRing F] in
/-- A history is undisturbed where both of its parts are. -/
theorem undisturbed_append {front back : List (Iteration F)} :
    Undisturbed config gains steered (front ++ back) ↔
      Undisturbed config gains steered front ∧
        Undisturbed config gains (Iteration.lastSteered steered front) back := by
  induction front generalizing steered with
  | nil => exact (and_iff_right trivial).symm
  | cons iteration rest ih =>
      cases iteration with
      | steer setpoints chassis intervalSeconds => exact (and_congr_right' ih).trans and_assoc.symm
      | balance estimate intervalSeconds => exact (and_congr_right' ih).trans and_assoc.symm

omit [IsStrictOrderedRing F] in
/-- The inputs before a history are unclamped where it is undisturbed and its own last ones are. -/
theorem Undisturbed.unclamped {history : List (Iteration F)}
    (undisturbed : Undisturbed config gains steered history)
    (last : Unclamped config gains (Iteration.lastSteered steered history)) :
    Unclamped config gains steered := by
  induction history with
  | nil => exact last
  | cons iteration rest ih =>
      cases iteration with
      | steer setpoints chassis intervalSeconds => exact undisturbed.1
      | balance estimate intervalSeconds => exact ih undisturbed.2 last

/-- A history is undisturbed throughout exactly where no memory shows after any part of it. -/
theorem Lawful.undisturbed_iff (lawful : strategy.Lawful config gains steered)
    (proportional : Proportional gains) (leanLimit : 0 < config.maximumLean)
    (differentialLimit : 0 < config.maximumDifferential) (history : List (Iteration F)) :
    (Undisturbed config gains steered history ∧
        Unclamped config gains (Iteration.lastSteered steered history)) ↔
      ∀ front back, history = front ++ back →
        (Iteration.run strategy front).Forgetful config gains
          (Iteration.lastSteered steered front) := by
  constructor
  · rintro ⟨undisturbed, unclamped⟩ front back rfl
    obtain ⟨before, after⟩ := undisturbed_append.mp undisturbed
    refine ((lawful.run proportional before).forgetful_iff proportional leanLimit
      differentialLimit).mpr ?_
    exact after.unclamped (Iteration.lastSteered_append _ _ _ ▸ unclamped)
  · intro forgetful
    induction history generalizing strategy steered with
    | nil =>
        exact ⟨trivial, lawful.unclamped proportional leanLimit differentialLimit
          (forgetful [] [] rfl)⟩
    | cons iteration rest ih =>
        have later (front back : List (Iteration F)) (split : rest = front ++ back) :=
          forgetful (iteration :: front) back (congrArg (iteration :: ·) split)
        cases iteration with
        | steer setpoints chassis intervalSeconds =>
            have unclamped := lawful.unclamped proportional leanLimit differentialLimit
              (forgetful [] _ rfl)
            have steered := lawful.steer proportional unclamped setpoints chassis intervalSeconds
            obtain ⟨undisturbed, last⟩ := ih steered later
            exact ⟨⟨unclamped, undisturbed⟩, last⟩
        | balance estimate intervalSeconds =>
            have fedBack := lawful.fedBack proportional (later [] rest rfl)
            have balanced := lawful.balance proportional estimate intervalSeconds fedBack
            obtain ⟨undisturbed, last⟩ := ih balanced later
            exact ⟨⟨fedBack, undisturbed⟩, last⟩

/-- After two undisturbed histories with the same last inputs, the same attitude brings the same
effort, and none at rest on the setpoints. No memory shows after any part of a history exactly where
it is undisturbed throughout. -/
theorem undisturbed_effort_is_memoryless (config : Config F) {first second : CascadedPidStrategy P F}
    (firstReached : StrategyCall.machine.Reachable (construct config) first)
    (secondReached : StrategyCall.machine.Reachable (construct config) second)
    (sameGains : second.gains = first.gains) (proportional : Proportional first.gains)
    {firstHistory secondHistory : List (Iteration F)}
    (firstUndisturbed : Undisturbed config first.gains none firstHistory)
    (secondUndisturbed : Undisturbed config first.gains none secondHistory)
    (sameInputs : Iteration.lastSteered none firstHistory = Iteration.lastSteered none secondHistory)
    {firstEstimate secondEstimate : Estimate F} (samePitch : firstEstimate.pitch = secondEstimate.pitch)
    (samePitchRate : firstEstimate.pitchRate = secondEstimate.pitchRate)
    (firstInterval secondInterval : F) :
    ((Iteration.run first.reset firstHistory).balance firstEstimate firstInterval).1 =
        ((Iteration.run second.reset secondHistory).balance secondEstimate secondInterval).1 ∧
      (0 ≤ config.maximumLean → 0 ≤ config.maximumDifferential →
        (∀ inputs, Iteration.lastSteered none firstHistory = some inputs →
          inputs.1.velocity = inputs.2.forwardVelocity ∧ inputs.1.yawRate = inputs.2.yawRate) →
        firstEstimate.pitch = 0 → firstEstimate.pitchRate = 0 →
        ((Iteration.run first.reset firstHistory).balance firstEstimate firstInterval).1 = ⟨0, 0⟩) ∧
      (0 < config.maximumLean → 0 < config.maximumDifferential → ∀ history : List (Iteration F),
        (Undisturbed config first.gains none history ∧
            Unclamped config first.gains (Iteration.lastSteered none history)) ↔
          ∀ front back, history = front ++ back →
            (Iteration.run first.reset front).Forgetful config first.gains
              (Iteration.lastSteered none front)) := by
  have limited {strategy : CascadedPidStrategy P F}
      (reached : StrategyCall.machine.Reachable (construct config) strategy) :
      strategy.Limited config :=
    (limited_preserved config).reachable (construct_limited config) reached
  have firstLaw := ((reset_lawful (limited firstReached)).run proportional
    firstUndisturbed).balance_effort proportional firstEstimate firstInterval
  have secondLaw := ((reset_lawful (limited secondReached)).run (sameGains ▸ proportional)
    (sameGains ▸ secondUndisturbed)).balance_effort (sameGains ▸ proportional) secondEstimate
      secondInterval
  rw [firstLaw, secondLaw, sameGains, sameInputs]
  refine ⟨?_, ?_, ?_⟩
  · unfold effortLaw pitchDemand
    rw [samePitch, samePitchRate]
  · intro leanLimit differentialLimit onSetpoints upright still
    exact effortLaw_rest leanLimit differentialLimit onSetpoints upright still
  · intro leanLimit differentialLimit history
    exact (reset_lawful (limited firstReached)).undisturbed_iff proportional leanLimit
      differentialLimit history

end Steps

def atAttitude (pitch pitchRate : ℚ) : Estimate ℚ := ⟨pitch, pitchRate, true, .none⟩

theorem undisturbed_effort_is_memoryless_by_default :
    let strategy : CascadedPidStrategy (VelocityPid ℚ) ℚ := construct .default
    let stop : Iteration ℚ := .steer ⟨0, 0⟩ ⟨0, 0⟩ (1 / 50)
    let drive : Iteration ℚ := .steer ⟨1, 1⟩ ⟨0, 0⟩ (1 / 50)
    let lean : Iteration ℚ := .balance (atAttitude (1 / 10) 0) (1 / 500)
    ((Iteration.run strategy.reset [drive, lean, stop]).balance (atAttitude 0 0) (1 / 500)).1 =
      ((Iteration.run strategy.reset [stop]).balance (atAttitude 0 0) (1 / 500)).1 := by
  intro strategy stop drive lean
  have proportional : Proportional strategy.gains := by constructor <;> decide +kernel
  have unsteered : Unclamped (Config.default : Config ℚ) strategy.gains none := by
    intro inputs none
    cases none
  have driven : Unclamped (Config.default : Config ℚ) strategy.gains (some (⟨1, 1⟩, ⟨0, 0⟩)) := by
    rintro inputs ⟨⟩
    constructor
    · right
      decide +kernel
    · decide +kernel
  have fedBack : FedBack (Config.default : Config ℚ) strategy.gains (some (⟨1, 1⟩, ⟨0, 0⟩))
      (atAttitude (1 / 10) 0) := by
    unfold FedBack
    decide +kernel
  have first : Undisturbed (Config.default : Config ℚ) strategy.gains none [drive, lean, stop] :=
    ⟨unsteered, fedBack, driven, trivial⟩
  have second : Undisturbed (Config.default : Config ℚ) strategy.gains none [stop] :=
    ⟨unsteered, trivial⟩
  have reached : StrategyCall.machine.Reachable (construct .default) strategy := .refl _ strategy
  exact (undisturbed_effort_is_memoryless .default reached reached rfl proportional first second rfl
    rfl rfl (1 / 500) (1 / 500)).1

/-- A lean that the pitch loop was clamped on leaves an effort behind, upright and still. -/
theorem upright_effort_remembers_a_lean :
    let strategy : CascadedPidStrategy (VelocityPid ℚ) ℚ := construct .default
    let stop : Iteration ℚ := .steer ⟨0, 0⟩ ⟨0, 0⟩ (1 / 50)
    let lean : Iteration ℚ := .balance (atAttitude (6 / 10) 0) (1 / 500)
    ((Iteration.run strategy.reset [stop, lean]).balance (atAttitude 0 0) (1 / 500)).1 =
        ⟨1 / 5, 1 / 5⟩ ∧
      ((Iteration.run strategy.reset [stop]).balance (atAttitude 0 0) (1 / 500)).1 = ⟨0, 0⟩ := by
  decide +kernel

end CascadedPidStrategy
end InvertedPendulum.Balance
