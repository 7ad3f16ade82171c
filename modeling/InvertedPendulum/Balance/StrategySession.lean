import InvertedPendulum.Balance.HostedStrategy

namespace InvertedPendulum.Balance
open Estimation Odometry IncrementalPid IncrementalPidState

section Loops
variable {P F : Type} [IncrementalPid P F] [IncrementalPidState P]

/-- Two controllers agree but for tunings that neither has used since. -/
structure PidAlike (first second : P) : Prop where
  limits : limits first = limits second
  target : target first = target second
  history : history first = history second

/-- Two controllers that were reset agree, whatever they computed before. -/
theorem pidAlike_reset {first second : P} (limits : limits first = limits second) (point : F) :
    PidAlike (setPoint (reset first) point) (setPoint (reset second) point) where
  limits := by rw [setPoint_limits, setPoint_limits, reset_limits, reset_limits, limits]
  target := by rw [setPoint_target, setPoint_target]
  history := by rw [setPoint_history, setPoint_history, reset_history, reset_history]

theorem PidAlike.setPoint {first second : P} (alike : PidAlike first second) (point : F) :
    PidAlike (setPoint first point) (IncrementalPid.setPoint second point) where
  limits := by rw [setPoint_limits, setPoint_limits, alike.limits]
  target := by rw [setPoint_target, setPoint_target]
  history := by rw [setPoint_history, setPoint_history, alike.history]

/-- New tunings remove the last difference between two controllers. -/
theorem PidAlike.setTunings {first second : P} (alike : PidAlike first second)
    (tunings : PidTunings F) : setTunings first tunings = IncrementalPid.setTunings second tunings := by
  apply determined
  · rw [setTunings_limits, setTunings_limits, alike.limits]
  · rw [setTunings_tunings, setTunings_tunings]
  · rw [setTunings_target, setTunings_target, alike.target]
  · rw [setTunings_history, setTunings_history, alike.history]

theorem PidAlike.of_eq {first second : P} (same : first = second) : PidAlike first second := by
  subst same
  exact ⟨rfl, rfl, rfl⟩

/-- A continuous controller installs its tunings before it computes. -/
theorem PidAlike.process [FloatArithmetic F] {first second : ContinuousPid P}
    (alike : PidAlike first.loop second.loop) (target measured : F) (gains : PidGains F)
    (intervalSeconds : F) :
    first.process target measured gains intervalSeconds =
      second.process target measured gains intervalSeconds := by
  unfold ContinuousPid.process
  rw [alike.setTunings]

/-- A computation keeps the limits of its controller. -/
theorem continuousPid_limits [FloatArithmetic F] (pid : ContinuousPid P) (target measured : F)
    (gains : PidGains F) (intervalSeconds : F) :
    limits (pid.process target measured gains intervalSeconds).2.loop = limits pid.loop := by
  simp only [ContinuousPid.process, process_limits, setPoint_limits, setTunings_limits]

/-- A reset keeps the limits of its controller. -/
theorem continuousPid_reset_limits [FloatArithmetic F] (pid : ContinuousPid P) :
    limits pid.reset.loop = limits pid.loop := by
  simp only [ContinuousPid.reset, setPoint_limits, reset_limits]

end Loops

variable {R P F : Type} [FloatArithmetic F] [IncrementalPid P F] [IncrementalPidState P]
  [Regulator R F]

/-- The frame of a strategy is what its construction fixes. -/
inductive Frame (F : Type) where
  | cascadedPid (pitch velocity yaw : PidLimits F)
  | lqr (yaw : PidLimits F) (maximumPositionDeviation : F)

namespace HostedStrategy

def frame : HostedStrategy R P F → Frame F
  | .cascadedPid strategy =>
      .cascadedPid (limits strategy.pitchLoop) (limits strategy.velocityLoop.loop)
        (limits strategy.yawLoop.loop)
  | .lqr strategy => .lqr (limits strategy.yawLoop.loop) strategy.maximumPositionDeviation

/-- The regulator is the one for the stored gains. -/
def Consistent : HostedStrategy R P F → Prop
  | .cascadedPid _ => True
  | .lqr strategy => strategy.regulator = LqrStrategy.regulatorFor strategy.gains

/-- A strategy built on a frame keeps it and stays consistent. -/
def BuiltOn (frame : Frame F) (strategy : HostedStrategy R P F) : Prop :=
  strategy.frame = frame ∧ strategy.Consistent

/-- Two strategies answer a session alike when they agree on everything but unused tunings. -/
inductive Alike : HostedStrategy R P F → HostedStrategy R P F → Prop where
  | cascadedPid (first second : CascadedPidStrategy P F) (gains : first.gains = second.gains)
      (pitch : PidAlike first.pitchLoop second.pitchLoop)
      (velocity : PidAlike first.velocityLoop.loop second.velocityLoop.loop)
      (yaw : PidAlike first.yawLoop.loop second.yawLoop.loop)
      (differential : first.differential = second.differential)
      (damping : first.damping = second.damping) : Alike (.cascadedPid first) (.cascadedPid second)
  | lqr (first second : LqrStrategy R P F)
      (maximum : first.maximumPositionDeviation = second.maximumPositionDeviation)
      (gains : first.gains = second.gains) (regulator : first.regulator = second.regulator)
      (yaw : PidAlike first.yawLoop.loop second.yawLoop.loop)
      (position : first.positionDeviation = second.positionDeviation)
      (velocity : first.velocityDeviation = second.velocityDeviation)
      (differential : first.differential = second.differential)
      (saturated : first.saturated = second.saturated) : Alike (.lqr first) (.lqr second)

omit [FloatArithmetic F] [IncrementalPid P F] [IncrementalPidState P] [Regulator R F] in
/-- Gains that read alike at every index are the same gains. -/
theorem gains_eq {count : Nat} {first second : Vector F count}
    (values : (fun index : Nat => first[index]?) = fun index => second[index]?) : first = second := by
  ext index inside
  have same := congrFun values index
  simp only [Vector.getElem?_eq_getElem inside, Option.some.injEq] at same
  exact same

/-- Two strategies on one frame with the same parameters are alike once they are reset. -/
theorem reset_alike {frame : Frame F} {first second : HostedStrategy R P F}
    (firstBuilt : BuiltOn frame first) (secondBuilt : BuiltOn frame second)
    (values : ControlStrategy.parameter first = (ControlStrategy.parameter second : Nat → Option F)) :
    Alike (ControlStrategy.reset first) (ControlStrategy.reset second) := by
  obtain ⟨framed, consistent⟩ := firstBuilt
  obtain ⟨sameFrame, sameConsistent⟩ := secondBuilt
  rw [← framed] at sameFrame
  cases first with
  | cascadedPid first =>
      cases second with
      | lqr second => cases sameFrame
      | cascadedPid second =>
          obtain ⟨pitch, velocity, yaw⟩ := Frame.cascadedPid.inj sameFrame
          exact .cascadedPid _ _ (gains_eq values) (pidAlike_reset pitch.symm 0)
            (pidAlike_reset velocity.symm 0) (pidAlike_reset yaw.symm 0) rfl rfl
  | lqr first =>
      cases second with
      | cascadedPid second => cases sameFrame
      | lqr second =>
          obtain ⟨yaw, maximum⟩ := Frame.lqr.inj sameFrame
          have gains := gains_eq values
          have regulator : first.regulator = second.regulator := by
            rw [consistent, sameConsistent, gains]
          exact .lqr _ _ maximum.symm gains regulator (pidAlike_reset yaw.symm 0) rfl rfl rfl rfl

/-- An outer iteration keeps two strategies alike. -/
theorem Alike.steer {first second : HostedStrategy R P F} (alike : first.Alike second)
    (setpoints : Setpoints F) (chassis : ChassisMotion F) (intervalSeconds : F) :
    Alike (ControlStrategy.steer first setpoints chassis intervalSeconds)
      (ControlStrategy.steer second setpoints chassis intervalSeconds) := by
  cases alike with
  | cascadedPid first second gains pitch velocity yaw differential damping =>
      have tuned (proportional : Nat) (inRange : proportional + 2 < 9) :
          first.gainsFrom proportional inRange = second.gainsFrom proportional inRange := by
        simp only [CascadedPidStrategy.gainsFrom, gains]
      have lean := velocity.process setpoints.velocity chassis.forwardVelocity
        (first.gainsFrom CascadedPidStrategy.velocityKp (by decide)) intervalSeconds
      have turn := yaw.process setpoints.yawRate chassis.yawRate
        (first.gainsFrom CascadedPidStrategy.yawKp (by decide)) intervalSeconds
      refine .cascadedPid (first.steer setpoints chassis intervalSeconds)
        (second.steer setpoints chassis intervalSeconds) gains ?_ ?_ ?_ ?_ damping
      · simp only [CascadedPidStrategy.steer, ← tuned, lean]
        exact pitch.setPoint _
      · simp only [CascadedPidStrategy.steer, ← tuned, lean]
        exact .of_eq rfl
      · simp only [CascadedPidStrategy.steer, ← tuned, turn]
        exact .of_eq rfl
      · simp only [CascadedPidStrategy.steer, ← tuned, turn]
  | lqr first second maximum gains regulator yaw position velocity differential saturated =>
      have turn := yaw.process setpoints.yawRate chassis.yawRate
        ⟨second.gains.get LqrStrategy.yawKp, second.gains.get LqrStrategy.yawKi,
          second.gains.get LqrStrategy.yawKd⟩ intervalSeconds
      refine .lqr (first.steer setpoints chassis intervalSeconds)
        (second.steer setpoints chassis intervalSeconds) maximum gains regulator ?_ ?_ rfl ?_ rfl
      · simp only [LqrStrategy.steer, gains, turn]
        exact .of_eq rfl
      · simp only [LqrStrategy.steer, saturated, position, maximum]
      · simp only [LqrStrategy.steer, gains, turn]

/-- A balance iteration gives the same effort and keeps two strategies alike, saturated or not. -/
theorem Alike.balance {first second : HostedStrategy R P F} (alike : first.Alike second)
    (estimate : Estimate F) (intervalSeconds : F) :
    (ControlStrategy.balance first estimate intervalSeconds).1 =
        (ControlStrategy.balance second estimate intervalSeconds).1 ∧
      Alike (ControlStrategy.balance first estimate intervalSeconds).2
        (ControlStrategy.balance second estimate intervalSeconds).2 ∧
      ∀ applied : Effort F,
        Alike (ControlStrategy.saturated (ControlStrategy.balance first estimate intervalSeconds).2 applied)
          (ControlStrategy.saturated (ControlStrategy.balance second estimate intervalSeconds).2 applied) := by
  cases alike with
  | cascadedPid first second gains pitch velocity yaw differential damping =>
      have tuned := pitch.setTunings ⟨second.gains.get CascadedPidStrategy.pitchKp,
        second.gains.get CascadedPidStrategy.pitchKi * intervalSeconds, 0⟩
      have same : (first.balance estimate intervalSeconds).1 =
          (second.balance estimate intervalSeconds).1 := by
        simp only [CascadedPidStrategy.balance, tuned, gains, differential]
      have loop : (first.balance estimate intervalSeconds).2.pitchLoop =
          (second.balance estimate intervalSeconds).2.pitchLoop := by
        simp only [CascadedPidStrategy.balance, gains, tuned]
      have damped : (first.balance estimate intervalSeconds).2.damping =
          (second.balance estimate intervalSeconds).2.damping := by
        simp only [CascadedPidStrategy.balance, gains]
      refine ⟨same, .cascadedPid _ _ gains (.of_eq loop) velocity yaw differential damped, ?_⟩
      intro applied
      refine .cascadedPid ((first.balance estimate intervalSeconds).2.saturated applied)
        ((second.balance estimate intervalSeconds).2.saturated applied) gains (.of_eq ?_) velocity yaw
        differential damped
      simp only [CascadedPidStrategy.saturated, loop, damped]
  | lqr first second maximum gains regulator yaw position velocity differential saturated =>
      refine ⟨?_, .lqr _ _ maximum gains regulator yaw position velocity differential saturated, ?_⟩
      · change (first.balance estimate intervalSeconds).1 = (second.balance estimate intervalSeconds).1
        simp only [LqrStrategy.balance, regulator, position, velocity, differential]
      · intro applied
        exact .lqr _ _ maximum gains regulator yaw position velocity differential rfl

/-- No call on a strategy changes its frame or makes it inconsistent. -/
theorem builtOn_preserved (frame : Frame F) :
    Preserved (S := HostedStrategy R P F) (BuiltOn frame) where
  reset strategy built := by
    obtain ⟨rfl, consistent⟩ := built
    cases strategy with
    | cascadedPid strategy =>
        refine ⟨?_, trivial⟩
        simp only [HostedStrategy.frame, ControlStrategy.reset, CascadedPidStrategy.reset,
          CascadedPidStrategy.clear, setPoint_limits, reset_limits, continuousPid_reset_limits]
    | lqr strategy =>
        refine ⟨?_, consistent⟩
        simp only [HostedStrategy.frame, ControlStrategy.reset, LqrStrategy.reset, LqrStrategy.clear,
          continuousPid_reset_limits]
  steer strategy setpoints chassis interval built := by
    obtain ⟨rfl, consistent⟩ := built
    cases strategy with
    | cascadedPid strategy =>
        refine ⟨?_, trivial⟩
        simp only [HostedStrategy.frame, ControlStrategy.steer, CascadedPidStrategy.steer,
          setPoint_limits, continuousPid_limits]
    | lqr strategy =>
        refine ⟨?_, consistent⟩
        simp only [HostedStrategy.frame, ControlStrategy.steer, LqrStrategy.steer, continuousPid_limits]
  balance strategy estimate interval built := by
    obtain ⟨rfl, consistent⟩ := built
    cases strategy with
    | cascadedPid strategy =>
        refine ⟨?_, trivial⟩
        simp only [HostedStrategy.frame, ControlStrategy.balance, CascadedPidStrategy.balance,
          Prod.map_snd, process_limits, setTunings_limits]
    | lqr strategy => exact ⟨rfl, consistent⟩
  saturated strategy applied built := by
    obtain ⟨rfl, consistent⟩ := built
    cases strategy with
    | cascadedPid strategy =>
        refine ⟨?_, trivial⟩
        simp only [HostedStrategy.frame, ControlStrategy.saturated, CascadedPidStrategy.saturated,
          setPreviousOutput_limits]
    | lqr strategy => exact ⟨rfl, consistent⟩
  setParameter strategy index value written built stored := by
    obtain ⟨rfl, consistent⟩ := built
    cases strategy with
    | cascadedPid strategy =>
        obtain ⟨inner, innerStored, rfl⟩ := Option.map_eq_some_iff.mp stored
        obtain ⟨-, rfl⟩ := CascadedPidStrategy.setParameter_stored innerStored
        exact ⟨rfl, trivial⟩
    | lqr strategy =>
        obtain ⟨inner, innerStored, rfl⟩ := Option.map_eq_some_iff.mp stored
        obtain ⟨-, rfl⟩ := LqrStrategy.setParameter_stored innerStored
        exact ⟨rfl, rfl⟩

end HostedStrategy
end InvertedPendulum.Balance
