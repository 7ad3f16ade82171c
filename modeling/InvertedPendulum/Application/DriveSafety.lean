import InvertedPendulum.Application.DriveCoherence

namespace InvertedPendulum.Application
open Platform Motion Odometry Estimation Sensing Control Balance Safety Telemetry Reactive Machine

variable {F S τ : Type} [FloatArithmetic F]

section Steps
variable {before after : SafetySupervisorImpl F (Plant F S τ)} {outstanding : Bool}
  {brakedBefore : Prop} [FloatRounding F] [ControlStrategy S F] [InertialSensing τ]

/-- A request to the supervisor does one of these things to the motors. -/
inductive MotorStep (before after : SafetySupervisorImpl F (Plant F S τ)) : Safety.Request F → Prop
    where
  | kept (request : Safety.Request F)
      (actuation : after.peers.actuation = before.peers.actuation) : MotorStep before after request
  | released (request : Safety.Request F)
      (actuation : after.peers.actuation = before.peers.actuation.releaseBridges) :
      MotorStep before after request
  | cleared (fault : before.mode = .fault)
      (actuation : after.peers.actuation = before.peers.actuation.clearFault) :
      MotorStep before after .clearFault
  | applied (estimate : Estimate F) (interval : Duration) (armed : before.mode = .armed)
      (valid : estimate.valid = true) (within : ¬ before.config.fallThreshold < fabs estimate.pitch)
      (healthy : before.peers.actuation.fault = .none)
      (actuation : after.peers.actuation = before.peers.actuation.apply
        after.peers.control.applied.left after.peers.control.applied.right) :
      MotorStep before after (.balance estimate interval)

omit [InertialSensing τ] in
/-- Entering a fault releases the bridges. -/
theorem enterFault_actuation (supervisor : SafetySupervisorImpl F (Plant F S τ))
    (cause : Safety.FaultCause) :
    (supervisor.enterFault cause).peers.actuation = supervisor.peers.actuation.releaseBridges := by
  unfold SafetySupervisorImpl.enterFault
  split <;> rfl

omit [InertialSensing τ] in
/-- An engaged balance iteration on a valid estimate applies the effort that control reports. -/
theorem balance_applies {control : BalanceControlImpl F S (Hardware F)} {estimate : Estimate F}
    (engaged : control.engaged = true) (valid : estimate.valid = true) (interval : Duration) :
    (control.balance estimate interval).peers = MotionActuation.apply control.peers
      (control.balance estimate interval).applied.left
      (control.balance estimate interval).applied.right := by
  unfold BalanceControlImpl.balance
  simp [engaged, valid]

/-- Every row of the table does one thing to the motors. -/
theorem motorStep_outcome {request : Safety.Request F} (outcome : before.Outcome request after)
    (sound : Sound before outstanding brakedBefore) : MotorStep before after request := by
  cases outcome with
  | fed | notSteered | selfTestPassed | selfTestPending | calibrated | calibrationPending | counted
  | latched | armed | notArmed | notDisarmed | notCleared | recalibrated | notRecalibrated =>
      exact .kept _ rfl
  | invalid | fell | failed | selfTestOverdue | calibrationFailed | polled | stalled =>
      exact .released _ (enterFault_actuation _ _)
  | disarmed => exact .released _ rfl
  | steered interval =>
      exact .kept _ (congrArg Hardware.actuation (steer_retains before.peers.control interval).1)
  | cleared fault => exact .cleared fault rfl
  | balanced estimate interval armed valid within healthy =>
      refine .applied estimate interval armed valid within healthy ?_
      exact congrArg Hardware.actuation
        (balance_applies (sound.engaged.mpr armed) valid interval)

end Steps

/-- A balance iteration is ordinary when its pitch is a number. -/
def Operation.Ordinary : Operation F → Prop
  | .balance estimate _ => InvertedPendulum.Ordinary estimate.pitch
  | _ => True

namespace Firmware
variable [FloatRounding F] [ControlStrategy S F] [InertialSensing τ]

/-- An operation does one of these things to the motors. -/
inductive DriveStep (before after : Firmware F S τ) : Operation F → Prop where
  | requested (operation : Operation F) (request : Safety.Request F)
      (requested : operation.request? = some request)
      (step : MotorStep before.supervisor after.supervisor request) : DriveStep before after operation
  | prepared (operation : Operation F) (actuation : after.actuation = before.actuation) :
      DriveStep before after operation
  | tristate (actuation : after.actuation = before.actuation.disable .tristate) :
      DriveStep before after .tristate
  | brake (actuation : after.actuation = before.actuation.disable .brake) :
      DriveStep before after .brake
  | driverFault (actuation : after.actuation = before.actuation.onFault) :
      DriveStep before after .driverFault
  | configured (verified : Bool)
      (actuation : after.actuation = before.actuation.onConfigured verified) :
      DriveStep before after (.configured verified)

/-- Every operation does one thing to the motors. -/
theorem perform_driveStep {before after : Firmware F S τ} {operation : Operation F}
    {caller : Option (Operation F)} (coherent : before.Coherent caller)
    (performed : before.perform operation = some after) : before.DriveStep after operation := by
  cases perform_performs performed with
  | requested _ request _ requested supervisor =>
      apply DriveStep.requested operation request requested
      rw [supervisor]
      exact motorStep_outcome (before.supervisor.perform_outcome request) coherent
  | prepared _ _ prepares => exact .prepared operation (congrArg Hardware.actuation prepares.1)
  | tristate => exact .tristate rfl
  | brake => exact .brake rfl
  | driverFault => exact .driverFault rfl
  | configured verified => exact .configured verified rfl

/-- A step of the machine does one thing to the motors, on a list of calls that starts empty. -/
theorem machine_driveStep {start firmware next : Firmware F S τ} (initially : start.Coherent none)
    (reached : machine.Reachable start firmware) {moment : Moment F τ} {operation : Operation F}
    (stepped : machine.step firmware (moment, operation) = some next) :
    (firmware.begin moment).DriveStep next operation := by
  obtain ⟨caller, coherent⟩ := reachable_coherent initially reached
  exact perform_driveStep (coherent.begin moment) stepped

omit [ControlStrategy S F] [InertialSensing τ] in
/-- Every call releases the bridges, or brakes them by the command, or maps the effort that an armed
balance iteration has left with control. -/
theorem DriveStep.called {before after : Firmware F S τ} {operation : Operation F}
    (step : before.DriveStep after operation) (quiet : before.actuation.motors.calls = [])
    {call : DriveCall} (called : call ∈ after.actuation.motors.calls) :
    call = MotionActuationImpl.released ∨
      (call = MotionActuationImpl.braked before.actuation.fullScale ∧ operation = .brake ∧
        before.actuation.drivePermitted = true) ∨
      ∃ estimate interval, operation = .balance estimate interval ∧
        call = MotionActuationImpl.driven before.actuation.fullScale before.actuation.decay
          after.control.applied.left after.control.applied.right ∧
        before.supervisor.mode = .armed ∧ estimate.valid = true ∧
        ¬ before.supervisor.config.fallThreshold < fabs estimate.pitch ∧
        before.actuation.drivePermitted = true := by
  cases step with
  | requested operation request requested step =>
      cases step with
      | kept _ actuation =>
          have actuation : after.actuation = before.actuation := actuation
          simp [actuation, quiet] at called
      | released _ actuation =>
          have actuation : after.actuation = before.actuation.releaseBridges := actuation
          left
          simpa [actuation, quiet] using called
      | cleared fault actuation =>
          have actuation : after.actuation = before.actuation.clearFault := actuation
          simp [actuation, quiet] at called
      | applied estimate interval armed valid within healthy actuation =>
          have actuation : after.actuation = before.actuation.apply after.control.applied.left
            after.control.applied.right := actuation
          rcases before.actuation.apply_cases after.control.applied.left
            after.control.applied.right with ⟨same, -⟩ | ⟨driven, permitted⟩
          · simp [actuation, same, quiet] at called
          · right
            right
            refine ⟨estimate, interval, ?_, ?_, armed, valid, within, permitted⟩
            · cases operation <;> cases requested
              rfl
            · simpa [actuation, driven, quiet] using called
  | prepared _ actuation => simp [actuation, quiet] at called
  | tristate actuation =>
      left
      simpa [actuation, quiet, MotionActuationImpl.disable] using called
  | brake actuation =>
      rcases before.actuation.disable_cases .brake with released | ⟨braked, -, permitted⟩
      · left
        simpa [actuation, released, quiet] using called
      · right
        left
        exact ⟨by simpa [actuation, braked, quiet] using called, rfl, permitted⟩
  | driverFault actuation =>
      left
      simpa [actuation, quiet] using called
  | configured verified actuation => simp [actuation, quiet] at called

/-- A drive is justified by a balance iteration that starts armed, on a valid estimate within the
fall threshold, with a driver that is ready and reports no fault. -/
def Justified (firmware : Firmware F S τ) (operation : Operation F) : Prop :=
  ∃ estimate interval, operation = .balance estimate interval ∧
    firmware.supervisor.mode = .armed ∧ estimate.valid = true ∧
    fabs estimate.pitch ≤ firmware.supervisor.config.fallThreshold ∧
    firmware.actuation.state = .ready ∧ firmware.actuation.fault = .none

/-- The drive of the firmware that starts here is safe in every run. -/
structure DriveSafe (start : Firmware F S τ) : Prop where
  /-- Balance control is engaged exactly while the supervisor is armed. -/
  engaged : ∀ firmware, machine.Reachable start firmware →
    (firmware.control.engaged = true ↔ firmware.supervisor.mode = .armed)
  /-- A disarmed drive is released, or braked by the last operation that called the driver. -/
  disarmed : ∀ firmware caller, watchedMachine.Reachable (start, none) (firmware, caller) →
    firmware.supervisor.mode ≠ .armed → firmware.Resting caller
  /-- Every call that maps an effort is justified where its operation starts. -/
  justified : ∀ firmware moment operation next, machine.Reachable start firmware →
    machine.step firmware (moment, operation) = some next → operation.Ordinary →
    ∀ call ∈ next.motors.calls, call.site = .apply → firmware.Justified operation

omit [ControlStrategy S F] [InertialSensing τ] in
/-- A step that maps an effort is justified. -/
theorem DriveStep.justified [IeeeOrder F] {before after : Firmware F S τ} {operation : Operation F}
    (step : before.DriveStep after operation) (quiet : before.actuation.motors.calls = [])
    (threshold : InvertedPendulum.Ordinary before.supervisor.config.fallThreshold)
    (ordinary : operation.Ordinary) {call : DriveCall} (called : call ∈ after.actuation.motors.calls)
    (site : call.site = .apply) : before.Justified operation := by
  rcases step.called quiet called with rfl | ⟨rfl, -⟩ |
    ⟨estimate, interval, rfl, -, armed, valid, within, permitted⟩
  · cases site
  · cases site
  · have pitch := ordinary_fabs ordinary
    have below := IeeeOrder.total threshold pitch within
    exact ⟨estimate, interval, rfl, armed, valid, below,
      MotionActuationImpl.drivePermitted_iff.mp permitted⟩

/-- The drive of the constructed firmware is safe, whatever order the operations come in. -/
theorem construct_driveSafe [IeeeOrder F] {fullScale : DutyCycle} {decay : Decay}
    {strategies : List S} {moment : Moment F τ} {balanceConfig : BalanceControlImpl.Config F}
    {safetyConfig : SafetySupervisorImpl.Config F} {start : Firmware F S τ}
    (threshold : InvertedPendulum.Ordinary safetyConfig.fallThreshold)
    (constructed : construct fullScale decay strategies moment balanceConfig safetyConfig =
      some start) : start.DriveSafe := by
  obtain ⟨initially, formed, configured⟩ := construct_starts constructed
  refine ⟨?_, ?_, ?_⟩
  · intro firmware reached
    obtain ⟨caller, coherent⟩ := reachable_coherent initially reached
    exact coherent.engaged
  · intro firmware caller reached disarmed
    have coherent : firmware.Coherent caller := reached.invariant coherent_kept initially
    exact coherent.resting disarmed
  · intro firmware moment operation next reached stepped ordinary call called site
    have config : firmware.supervisor.config = safetyConfig :=
      (reached.invariant (supervised_kept safetyConfig) ⟨formed, configured⟩).2
    refine (machine_driveStep initially reached stepped).justified rfl ?_ ordinary called site
    change InvertedPendulum.Ordinary firmware.supervisor.config.fallThreshold
    rw [config]
    exact threshold

/-- The firmware of `Main.cpp` has a safe drive. -/
theorem main_driveSafe : ∃ start : Firmware ℚ _ (Answers ℚ),
    main 1000 ⟨0, ⟨0, 0⟩, .healthy 0⟩ = some start ∧ start.DriveSafe :=
  ⟨_, rfl, construct_driveSafe (IeeeOrder.constant _)
    (rfl : main (F := ℚ) 1000 ⟨0, ⟨0, 0⟩, Answers.healthy 0⟩ = some _)⟩

end Firmware
end InvertedPendulum.Application
