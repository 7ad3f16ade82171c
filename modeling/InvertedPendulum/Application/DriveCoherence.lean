import InvertedPendulum.Application.Operations

namespace InvertedPendulum.Application
open Platform Motion Odometry Estimation Sensing Control Balance Safety Telemetry Reactive Machine

section Actuation
variable {F : Type} [FloatArithmetic F] [FloatRounding F]

/-- The bridges are released whenever the drive is not permitted. -/
def Gated (actuation : MotionActuationImpl) : Prop :=
  actuation.drivePermitted = false → actuation.motors.last = MotionActuationImpl.released

omit [FloatArithmetic F] [FloatRounding F] in
/-- Releasing the bridges keeps the gate. -/
theorem gated_release (actuation : MotionActuationImpl) : Gated actuation.releaseBridges :=
  fun _ => rfl

/-- An apply keeps the gate. -/
theorem Gated.apply {actuation : MotionActuationImpl} (gated : Gated actuation)
    (effortLeft effortRight : F) : Gated (actuation.apply effortLeft effortRight) := by
  rcases actuation.apply_cases effortLeft effortRight with ⟨same, -⟩ | ⟨driven, permitted⟩
  · rwa [same]
  · rw [driven]
    intro refused
    have still : actuation.drivePermitted = false := refused
    rw [permitted] at still
    cases still

end Actuation

variable {F S τ : Type} [FloatArithmetic F]

/-- The four objects agree on whether the drive may be energised. The last case of a disarmed drive
needs the brake command to have been the last to call the motor driver. -/
structure Sound (supervisor : SafetySupervisorImpl F (Plant F S τ)) (outstanding : Bool)
    (brakedLast : Prop) : Prop where
  engaged : supervisor.peers.control.engaged = true ↔ supervisor.mode = .armed
  ready : supervisor.mode = .armed → supervisor.peers.actuation.state = .ready
  rested : supervisor.peers.control.engaged = false → supervisor.peers.control.applied = noEffort
  gated : Gated supervisor.peers.actuation
  released : supervisor.mode ≠ .armed →
    supervisor.peers.actuation.motors.last = MotionActuationImpl.released ∨
      supervisor.peers.actuation.motors.last =
          MotionActuationImpl.braked supervisor.peers.actuation.fullScale ∧ brakedLast
  configuring : outstanding = true → supervisor.peers.actuation.state = .configuring

section Steps
variable {before after : SafetySupervisorImpl F (Plant F S τ)} {outstanding : Bool}
  {brakedBefore brakedAfter : Prop}

/-- An operation that leaves motors and engagement alone stays sound. -/
theorem Sound.retained (sound : Sound before outstanding brakedBefore)
    (actuation : after.peers.actuation = before.peers.actuation)
    (engaged : after.peers.control.engaged = before.peers.control.engaged)
    (applied : after.peers.control.applied = before.peers.control.applied)
    (mode : after.mode = .armed ↔ before.mode = .armed) (caller : brakedBefore → brakedAfter) :
    Sound after outstanding brakedAfter where
  engaged := by
    rw [engaged, mode]
    exact sound.engaged
  ready armed := by
    rw [actuation]
    exact sound.ready (mode.mp armed)
  rested disengaged := by
    rw [engaged] at disengaged
    rw [applied]
    exact sound.rested disengaged
  gated := by
    rw [actuation]
    exact sound.gated
  released disarmed := by
    rw [actuation]
    exact (sound.released (mt mode.mpr disarmed)).imp_right fun braked => ⟨braked.1, caller braked.2⟩
  configuring unanswered := by
    rw [actuation]
    exact sound.configuring unanswered

/-- A disarmed control that has been tri-stated is sound, whoever called before. -/
theorem Sound.tristated (sound : Sound before outstanding brakedBefore)
    (actuation : after.peers.actuation = before.peers.actuation.releaseBridges)
    (disengaged : after.peers.control.engaged = false)
    (rested : after.peers.control.applied = noEffort) (disarmed : after.mode ≠ .armed) :
    Sound after outstanding brakedAfter where
  engaged := by simp [disengaged, disarmed]
  ready armed := absurd armed disarmed
  rested _ := rested
  gated := by
    rw [actuation]
    exact gated_release _
  released _ := by
    left
    rw [actuation]
    rfl
  configuring unanswered := by
    rw [actuation]
    exact sound.configuring unanswered

/-- A disarmed control is disengaged and reports no effort. -/
theorem Sound.disarmed (sound : Sound before outstanding brakedBefore)
    (disarmed : before.mode ≠ .armed) :
    before.peers.control.engaged = false ∧ before.peers.control.applied = noEffort := by
  have disengaged : before.peers.control.engaged = false :=
    Bool.eq_false_iff.mpr (mt sound.engaged.mp disarmed)
  exact ⟨disengaged, sound.rested disengaged⟩

variable [FloatRounding F] [ControlStrategy S F]

/-- Leaving armed tri-states the bridges and disengages control. -/
theorem Sound.leaveArmed (sound : Sound before outstanding brakedBefore) {mode : Mode}
    (disarmed : mode ≠ .armed) : Sound { before.leaveArmed with mode } outstanding brakedAfter :=
  sound.tristated rfl rfl rfl disarmed

/-- Entering a fault tri-states the bridges, from armed or from another mode. -/
theorem Sound.enterFault (sound : Sound before outstanding brakedBefore) (cause : Safety.FaultCause) :
    Sound (before.enterFault cause) outstanding brakedAfter := by
  unfold SafetySupervisorImpl.enterFault
  split
  · exact sound.tristated rfl rfl rfl (by simp)
  · rename_i disarmed
    obtain ⟨disengaged, rested⟩ := sound.disarmed disarmed
    exact sound.tristated rfl disengaged rested (by simp)

/-- A balance iteration of control applies efforts to its peers or leaves them alone. -/
theorem balance_peers (control : BalanceControlImpl F S (Hardware F)) (estimate : Estimate F)
    (interval : Duration) :
    (control.balance estimate interval).peers = control.peers ∨
      ∃ left right : F, (control.balance estimate interval).peers =
        MotionActuation.apply control.peers left right := by
  unfold BalanceControlImpl.balance
  split
  · exact .inl rfl
  · split
    · exact .inr ⟨0, 0, rfl⟩
    · exact .inr ⟨_, _, rfl⟩

omit [FloatRounding F] in
/-- An outer iteration of control leaves its peers and its effort alone. -/
theorem steer_retains (control : BalanceControlImpl F S (Hardware F)) (interval : Duration) :
    (control.steer interval).peers = control.peers ∧
      (control.steer interval).applied = control.applied := by
  unfold BalanceControlImpl.steer BalanceControlImpl.decayUnlessCommanded
  split
  · exact ⟨rfl, rfl⟩
  · split <;> exact ⟨rfl, rfl⟩

/-- An armed balance iteration keeps the gate, whatever it applies. -/
theorem Sound.balanced (sound : Sound before outstanding brakedBefore)
    (armed : before.mode = .armed) (estimate : Estimate F) (interval : Duration) :
    Sound (before.calling (.balance estimate interval)
      (BalanceStage.balance before.peers estimate interval)) outstanding brakedAfter := by
  have engaged : (before.peers.control.balance estimate interval).engaged = true := by
    rw [BalanceControlImpl.balance_engaged]
    exact sound.engaged.mpr armed
  have kept : ∀ actuation : MotionActuationImpl,
      (before.peers.control.balance estimate interval).peers.actuation = actuation →
      actuation.state = .ready ∧ Gated actuation := by
    rintro _ rfl
    rcases balance_peers before.peers.control estimate interval with same | ⟨left, right, applied⟩
    · rw [same]
      exact ⟨sound.ready armed, sound.gated⟩
    · rw [applied]
      refine ⟨?_, sound.gated.apply left right⟩
      rcases before.peers.actuation.apply_cases left right with ⟨same, -⟩ | ⟨driven, -⟩
      · exact (congrArg MotionActuationImpl.state same).trans (sound.ready armed)
      · exact (congrArg MotionActuationImpl.state driven).trans (sound.ready armed)
  obtain ⟨ready, gated⟩ := kept _ rfl
  refine ⟨iff_of_true engaged armed, fun _ => ready, ?_, gated, ?_, ?_⟩
  · intro disengaged
    exact absurd engaged (Bool.eq_false_iff.mp disengaged)
  · intro disarmed
    exact absurd armed disarmed
  · intro unanswered
    have configuring := sound.configuring unanswered
    rw [sound.ready armed] at configuring
    cases configuring

/-- Arming engages control on a ready driver. -/
theorem Sound.armed (sound : Sound before outstanding brakedBefore) (armable : before.Armable) :
    Sound { before.calling .engage (SupervisedControl.engage before.peers) with mode := .armed }
      outstanding brakedAfter := by
  have healthy : before.peers.actuation.state = .ready ∧ before.peers.actuation.fault = .none :=
    of_decide_eq_true armable.healthy
  refine ⟨iff_of_true rfl rfl, fun _ => healthy.1, ?_, sound.gated, ?_, sound.configuring⟩
  · intro disengaged
    cases disengaged
  · intro disarmed
    exact absurd rfl disarmed

omit [ControlStrategy S F] in
/-- Clearing the fault permits a drive whose bridges are released. -/
theorem Sound.cleared (sound : Sound before outstanding brakedBefore) (fault : before.mode = .fault)
    (caller : brakedBefore → brakedAfter) :
    Sound { before.calling .clearFault (MotionActuation.clearFault before.peers) with
      cause := .none
      mode := .idle } outstanding brakedAfter := by
  have disarmed : before.mode ≠ .armed := by simp [fault]
  obtain ⟨disengaged, rested⟩ := sound.disarmed disarmed
  refine ⟨iff_of_false ?_ (by simp), ?_, fun _ => rested, ?_, ?_, sound.configuring⟩
  · exact Bool.eq_false_iff.mp disengaged
  · intro armed
    cases armed
  · intro refused
    apply sound.gated
    have unready : ¬ (before.peers.actuation.state = .ready ∧ Motion.FaultCause.none = .none) :=
      of_decide_eq_false refused
    exact decide_eq_false fun permitted => unready ⟨permitted.1, rfl⟩
  · intro _
    exact (sound.released disarmed).imp_right fun braked => ⟨braked.1, caller braked.2⟩

variable [InertialSensing τ]

/-- Every row of the table keeps the four objects in agreement. -/
theorem sound_outcome {request : Safety.Request F} (outcome : before.Outcome request after)
    (sound : Sound before outstanding brakedBefore)
    (quiet : before.peers.actuation.motors.calls = [])
    (caller : after.peers.actuation.motors.calls = [] → brakedBefore → brakedAfter) :
    Sound after outstanding brakedAfter := by
  cases outcome with
  | fed | notSteered | selfTestPending | calibrationPending | counted | latched | notArmed
  | notDisarmed | notCleared | notRecalibrated =>
      exact sound.retained rfl rfl rfl Iff.rfl (caller quiet)
  | calibrated mode => exact sound.retained rfl rfl rfl (by simp [mode]) (caller quiet)
  | selfTestPassed mode =>
      exact sound.retained rfl rfl rfl (by simp [mode, SafetySupervisorImpl.startCalibration]) (caller quiet)
  | recalibrated mode =>
      exact sound.retained rfl rfl rfl (by simp [mode, SafetySupervisorImpl.startCalibration]) (caller quiet)
  | selfTestOverdue | calibrationFailed | polled => exact sound.enterFault _
  | invalid estimate | fell estimate | failed estimate =>
      have fed : Sound (before.fed estimate) outstanding brakedBefore :=
        sound.retained rfl rfl rfl Iff.rfl id
      exact fed.enterFault _
  | stalled =>
      have counted : Sound before.counted outstanding brakedBefore :=
        sound.retained rfl rfl rfl Iff.rfl id
      exact counted.enterFault _
  | balanced estimate interval armed =>
      have fed : Sound (before.fed estimate) outstanding brakedBefore :=
        sound.retained rfl rfl rfl Iff.rfl id
      exact fed.balanced armed estimate interval
  | steered interval armed =>
      obtain ⟨peers, applied⟩ := steer_retains before.peers.control interval
      refine sound.retained ?_ (BalanceControlImpl.steer_engaged _ interval) applied Iff.rfl (caller ?_)
      · exact congrArg Hardware.actuation peers
      · exact (congrArg (fun hardware => hardware.actuation.motors.calls) peers).trans quiet
  | armed armable => exact sound.armed armable
  | disarmed armed => exact sound.leaveArmed (by simp)
  | cleared fault => exact sound.cleared fault (caller quiet)

end Steps

namespace Firmware
variable [FloatRounding F] [ControlStrategy S F] [InertialSensing τ]

/-- The observer remembers the last operation that called the motor driver. -/
def watchedMachine :
    Machine (Firmware F S τ × Option (Operation F)) (Moment F τ × Operation F) :=
  machine.observed fun caller _ event next =>
    if next.motors.calls.isEmpty then caller else some event.2

/-- The firmware is sound together with the operation that last called the motor driver. -/
def Coherent (firmware : Firmware F S τ) (caller : Option (Operation F)) : Prop :=
  Sound firmware.supervisor firmware.configurationOutstanding (caller = some .brake)

/-- The bridges rest when they are released, or braked while the brake command called the motor
driver last. -/
def Resting (firmware : Firmware F S τ) (caller : Option (Operation F)) : Prop :=
  (firmware.motors.last.left = releasedInputs ∧ firmware.motors.last.right = releasedInputs) ∨
    (firmware.motors.last.left = brakedInputs firmware.actuation.fullScale ∧
      firmware.motors.last.right = brakedInputs firmware.actuation.fullScale ∧
      caller = some .brake)

omit [FloatRounding F] [ControlStrategy S F] [InertialSensing τ] in
/-- A disarmed drive rests. -/
theorem Coherent.resting {firmware : Firmware F S τ} {caller : Option (Operation F)}
    (coherent : firmware.Coherent caller) (disarmed : firmware.supervisor.mode ≠ .armed) :
    firmware.Resting caller := by
  unfold Resting
  rcases Sound.released coherent disarmed with released | ⟨braked, brake⟩
  · left
    have last : firmware.motors.last = MotionActuationImpl.released := released
    rw [last]
    exact ⟨rfl, rfl⟩
  · right
    have last : firmware.motors.last =
      MotionActuationImpl.braked firmware.actuation.fullScale := braked
    rw [last]
    exact ⟨rfl, rfl, brake⟩

omit [FloatRounding F] [ControlStrategy S F] [InertialSensing τ] in
/-- Nothing of what the objects agree on changes between two operations. -/
theorem Coherent.begin {firmware : Firmware F S τ} {caller : Option (Operation F)}
    (coherent : firmware.Coherent caller) (moment : Moment F τ) :
    (firmware.begin moment).Coherent caller where
  engaged := coherent.engaged
  ready := coherent.ready
  rested := coherent.rested
  gated := coherent.gated
  released := coherent.released
  configuring := coherent.configuring

omit [FloatRounding F] [ControlStrategy S F] [InertialSensing τ] in
/-- A command that prepares later iterations leaves the drive alone. -/
theorem Coherent.prepared {firmware : Firmware F S τ} {caller : Option (Operation F)}
    (coherent : firmware.Coherent caller) {control : BalanceControlImpl F S (Hardware F)}
    (prepares : Prepares firmware.control control) : (firmware.withControl control).Coherent caller :=
  Sound.retained coherent (congrArg Hardware.actuation prepares.1) prepares.2.1 prepares.2.2 Iff.rfl id

omit [FloatRounding F] [ControlStrategy S F] [InertialSensing τ] in
/-- Releasing the bridges from outside the supervisor is sound, whatever the mode. -/
theorem Coherent.releasing {firmware : Firmware F S τ} {caller : Option (Operation F)}
    (coherent : firmware.Coherent caller) {actuation : MotionActuationImpl}
    (state : actuation.state = firmware.actuation.state)
    (last : actuation.motors.last = MotionActuationImpl.released)
    (next : Option (Operation F)) : (firmware.withActuation actuation).Coherent next where
  engaged := coherent.engaged
  ready armed := state.trans (coherent.ready armed)
  rested := coherent.rested
  gated _ := last
  released _ := .inl last
  configuring unanswered := state.trans (coherent.configuring unanswered)

omit [FloatRounding F] [ControlStrategy S F] [InertialSensing τ] in
/-- The brake command brakes a permitted drive and releases any other. -/
theorem Coherent.brake {firmware : Firmware F S τ} {caller : Option (Operation F)}
    (coherent : firmware.Coherent caller) :
    (firmware.withActuation (firmware.actuation.disable .brake)).Coherent (some .brake) := by
  unfold MotionActuationImpl.disable
  split
  · rename_i permitted
    refine ⟨coherent.engaged, coherent.ready, coherent.rested, ?_, ?_, coherent.configuring⟩
    · intro refused
      have still : firmware.actuation.drivePermitted = false := refused
      rw [permitted.2] at still
      cases still
    · intro _
      exact .inr ⟨rfl, rfl⟩
  · refine Coherent.releasing coherent ?_ ?_ _ <;> rfl

omit [FloatRounding F] [ControlStrategy S F] [InertialSensing τ] in
/-- The driver answers its configuration while nothing can be armed yet. -/
theorem Coherent.configured {firmware : Firmware F S τ} {caller : Option (Operation F)}
    (coherent : firmware.Coherent caller) (outstanding : firmware.configurationOutstanding = true)
    (verified : Bool) :
    ({ firmware.withActuation (firmware.actuation.onConfigured verified) with
      configurationOutstanding := false } : Firmware F S τ).Coherent caller := by
  have configuring : firmware.actuation.state = .configuring := coherent.configuring outstanding
  have disarmed : firmware.supervisor.mode ≠ .armed := by
    intro armed
    have ready : firmware.actuation.state = .ready := coherent.ready armed
    rw [configuring] at ready
    cases ready
  have last : firmware.actuation.motors.last = MotionActuationImpl.released := by
    refine coherent.gated (decide_eq_false ?_)
    intro given
    obtain ⟨ready, -⟩ := given
    have ready : firmware.actuation.state = .ready := ready
    rw [configuring] at ready
    cases ready
  exact ⟨coherent.engaged, fun armed => absurd armed disarmed, coherent.rested, fun _ => last,
    fun _ => .inl last, fun unanswered => by cases unanswered⟩

/-- Every operation keeps the four objects in agreement. -/
theorem perform_coherent {before after : Firmware F S τ} {operation : Operation F}
    {caller : Option (Operation F)} (coherent : before.Coherent caller)
    (quiet : before.motors.calls = []) (performed : before.perform operation = some after) :
    after.Coherent (if after.motors.calls.isEmpty then caller else some operation) := by
  have uncalled : before.motors.calls.isEmpty = true := List.isEmpty_iff.mpr quiet
  cases perform_performs performed with
  | requested _ request _ _ supervisor outstanding =>
      have outcome := before.supervisor.perform_outcome request
      unfold Coherent at coherent ⊢
      rw [← supervisor] at outcome
      rw [outstanding]
      apply sound_outcome outcome coherent quiet
      intro uncalled braked
      have empty : after.motors.calls.isEmpty = true := List.isEmpty_iff.mpr uncalled
      rw [if_pos empty]
      exact braked
  | prepared _ control prepares =>
      have same : (before.withControl control).motors = before.motors :=
        congrArg (fun hardware => hardware.actuation.motors) prepares.1
      rw [same, if_pos uncalled]
      exact coherent.prepared prepares
  | tristate | driverFault => apply Coherent.releasing coherent <;> rfl
  | brake =>
      have called : (before.withActuation
          (before.actuation.disable .brake)).motors.calls.isEmpty = false := by
        change (before.actuation.disable .brake).motors.calls.isEmpty = false
        unfold MotionActuationImpl.disable
        split <;> simp
      rw [called, if_neg (by simp)]
      exact coherent.brake
  | configured verified outstanding =>
      exact (if_pos uncalled).symm ▸ coherent.configured outstanding verified

/-- A run keeps the four objects in agreement. -/
theorem coherent_kept (state : Firmware F S τ × Option (Operation F))
    (event : Moment F τ × Operation F) (next : Firmware F S τ × Option (Operation F))
    (coherent : state.1.Coherent state.2) (stepped : watchedMachine.step state event = some next) :
    next.1.Coherent next.2 := by
  obtain ⟨before, caller⟩ := state
  obtain ⟨after, last⟩ := next
  obtain ⟨performed, rfl⟩ := observed_step.mp stepped
  exact perform_coherent (coherent.begin event.1) rfl performed

omit [FloatRounding F] [ControlStrategy S F] [InertialSensing τ] in
/-- The firmware starts disarmed and released, with a driver that is still configuring. -/
theorem construct_starts {fullScale : DutyCycle} {decay : Decay} {strategies : List S}
    {moment : Moment F τ} {balanceConfig : BalanceControlImpl.Config F}
    {safetyConfig : SafetySupervisorImpl.Config F} {start : Firmware F S τ}
    (constructed : construct fullScale decay strategies moment balanceConfig safetyConfig =
      some start) :
    start.Coherent none ∧ start.supervisor.WellFormed ∧ start.supervisor.config = safetyConfig := by
  obtain ⟨control, controlled, supervised⟩ := Option.bind_eq_some_iff.mp constructed
  obtain ⟨supervisor, supervises, rfl⟩ := Option.map_eq_some_iff.mp supervised
  refine ⟨?_, SafetySupervisorImpl.construct_wellFormed supervises, ?_⟩
  · unfold BalanceControlImpl.construct at controlled
    unfold SafetySupervisorImpl.construct at supervises
    split at controlled
    · obtain rfl := Option.some.inj controlled
      split at supervises
      · obtain rfl := Option.some.inj supervises
        refine ⟨iff_of_false ?_ ?_, ?_, fun _ => rfl, fun _ => rfl, fun _ => .inl rfl, fun _ => rfl⟩
        · intro engaged
          cases engaged
        · intro armed
          cases armed
        · intro armed
          cases armed
      · cases supervises
    · cases controlled
  · unfold SafetySupervisorImpl.construct at supervises
    split at supervises
    · obtain rfl := Option.some.inj supervises
      rfl
    · cases supervises

/-- Every reachable state agrees with itself, whoever called the motor driver last. -/
theorem reachable_coherent {start firmware : Firmware F S τ} (initially : start.Coherent none)
    (reached : machine.Reachable start firmware) : ∃ caller, firmware.Coherent caller := by
  obtain ⟨events, ran⟩ := reached
  obtain ⟨caller, watched⟩ := (observed_run none).mp ran
  exact ⟨caller, run_invariant coherent_kept initially watched⟩

end Firmware
end InvertedPendulum.Application
