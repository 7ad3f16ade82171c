import InvertedPendulum.Arithmetic.Exact
import InvertedPendulum.Balance.CascadedPidStrategy
import InvertedPendulum.Balance.LqrStrategy
import InvertedPendulum.Balance.StrategyCalls

namespace InvertedPendulum.Balance
open Estimation Odometry Reactive IncrementalPid

/-- The controller of the toolbox adds the documented change to its last output and clamps the sum,
whatever else it stores. -/
class DocumentedPid (P : Type) {F : outParam Type} [Field F] [LinearOrder F] [IncrementalPid P F] where
  view : P → VelocityPid F
  view_construct : ∀ (tunings : PidTunings F) (limits : PidLimits F),
    view (construct tunings limits) = construct tunings limits
  view_reset : ∀ pid : P, view (reset pid) = reset (view pid)
  view_setPoint : ∀ (pid : P) (target : F), view (setPoint pid target) = setPoint (view pid) target
  view_setTunings : ∀ (pid : P) (tunings : PidTunings F),
    view (setTunings pid tunings) = setTunings (view pid) tunings
  view_setPreviousOutput : ∀ (pid : P) (output : F),
    view (setPreviousOutput pid output) = setPreviousOutput (view pid) output
  process_output : ∀ (pid : P) (measured : F),
    (process pid measured).1 = (process (view pid) measured).1
  view_process : ∀ (pid : P) (measured : F),
    view (process pid measured).2 = (process (view pid) measured).2

/-- Every run of calls keeps what no call breaks. -/
theorem Preserved.reachable {S F : Type} [ControlStrategy S F] {holds : S → Prop}
    (preserved : Preserved holds) {start final : S} (initially : holds start)
    (reached : StrategyCall.machine.Reachable start final) : holds final := by
  refine reached.invariant ?_ initially
  intro strategy call next held answered
  cases call with
  | setParameter index value => exact preserved.setParameter strategy index value next held answered
  | reset =>
      obtain rfl := Option.some.inj answered
      exact preserved.reset strategy held
  | steer setpoints chassis intervalSeconds =>
      obtain rfl := Option.some.inj answered
      exact preserved.steer strategy setpoints chassis intervalSeconds held
  | balance estimate intervalSeconds =>
      obtain rfl := Option.some.inj answered
      exact preserved.balance strategy estimate intervalSeconds held
  | saturated applied =>
      obtain rfl := Option.some.inj answered
      exact preserved.saturated strategy applied held

section Views
variable {P F : Type} [Field F] [LinearOrder F] [IncrementalPid P F] [DocumentedPid P]
open DocumentedPid

instance : DocumentedPid (VelocityPid F) where
  view pid := pid
  view_construct _ _ := rfl
  view_reset _ := rfl
  view_setPoint _ _ := rfl
  view_setTunings _ _ := rfl
  view_setPreviousOutput _ _ := rfl
  process_output _ _ := rfl
  view_process _ _ := rfl

/-- The next output without derivative gain, before it is clamped. -/
def VelocityPid.undamped (pid : VelocityPid F) (kp ki error : F) : F :=
  pid.previousOutput + ((kp + ki) * error - kp * pid.previousError)

theorem VelocityPid.process_undamped (pid : VelocityPid F) (measured : F)
    (undamped : pid.tunings.kd = 0) :
    (process pid measured).1 =
      clamp (pid.undamped pid.tunings.kp pid.tunings.ki (pid.target - measured))
        pid.limits.minimum pid.limits.maximum := by
  change clamp (pid.previousOutput +
    ((pid.tunings.kp + pid.tunings.ki + pid.tunings.kd) * (pid.target - measured) -
      (pid.tunings.kp + pid.tunings.kd + pid.tunings.kd) * pid.previousError +
      pid.tunings.kd * pid.olderError)) _ _ = _
  rw [undamped, add_zero, add_zero, add_zero, zero_mul, add_zero]
  rfl

omit [LinearOrder F] in
/-- A loop that only its proportional gain drives, and whose output is what its last error asks for,
puts out what its next error asks for. -/
theorem VelocityPid.undamped_settled (pid : VelocityPid F) {kp : F} (error : F)
    (settled : pid.previousOutput = kp * pid.previousError) : pid.undamped kp 0 error = kp * error := by
  unfold undamped
  rw [settled, add_zero, add_sub_cancel]

namespace ContinuousPid

def view (pid : ContinuousPid P) : VelocityPid F := DocumentedPid.view pid.loop

theorem view_construct (limit : F) :
    (construct limit : ContinuousPid P).view = ⟨⟨-limit, limit⟩, ⟨0, 0, 0⟩, 0, 0, 0, 0⟩ := by
  unfold construct view
  rw [view_setPoint, DocumentedPid.view_construct]
  rfl

theorem view_reset (pid : ContinuousPid P) :
    pid.reset.view = { pid.view with target := 0, previousOutput := 0, previousError := 0, olderError := 0 } := by
  unfold reset view
  rw [view_setPoint, DocumentedPid.view_reset]
  rfl

/-- A computation leaves its output and its error behind. -/
theorem view_process (pid : ContinuousPid P) (target measured : F) (gains : PidGains F)
    (intervalSeconds : F) :
    (pid.process target measured gains intervalSeconds).2.view = {
      limits := pid.view.limits
      tunings := ⟨gains.kp, gains.ki * intervalSeconds, gains.kd / intervalSeconds⟩
      target
      previousOutput := (pid.process target measured gains intervalSeconds).1
      previousError := target - measured
      olderError := pid.view.previousError } := by
  unfold process view
  rw [DocumentedPid.view_process, process_output, view_setPoint, view_setTunings]
  rfl

/-- An output lies between the limits of its controller. -/
theorem process_clamped (pid : ContinuousPid P) (target measured : F) (gains : PidGains F)
    (intervalSeconds : F) : ∃ raw, (pid.process target measured gains intervalSeconds).1 =
      clamp raw pid.view.limits.minimum pid.view.limits.maximum := by
  unfold process view
  rw [process_output, view_setPoint, view_setTunings]
  exact ⟨_, rfl⟩

/-- Without derivative gain, a computation changes its output by what two errors ask for. -/
theorem process_undamped (pid : ContinuousPid P) (target measured : F) (gains : PidGains F)
    (intervalSeconds : F) (undamped : gains.kd = 0) :
    (pid.process target measured gains intervalSeconds).1 =
      clamp (pid.view.undamped gains.kp (gains.ki * intervalSeconds) (target - measured))
        pid.view.limits.minimum pid.view.limits.maximum := by
  unfold process view
  rw [process_output, view_setPoint, view_setTunings]
  exact VelocityPid.process_undamped _ _ (by
    change gains.kd / intervalSeconds = 0
    rw [undamped, zero_div])

theorem process_still (pid : ContinuousPid P) (target measured : F) (gains : PidGains F)
    (intervalSeconds : F) (still : gains.ki = 0) (undamped : gains.kd = 0) :
    (pid.process target measured gains intervalSeconds).1 =
      clamp (pid.view.undamped gains.kp 0 (target - measured)) pid.view.limits.minimum
        pid.view.limits.maximum := by
  rw [process_undamped _ _ _ _ _ undamped, still, zero_mul]

end ContinuousPid

namespace CascadedPidStrategy

/-- The lean that an outer iteration asks of the pitch loop. -/
def leanRequest (strategy : CascadedPidStrategy P F) : F :=
  (DocumentedPid.view strategy.pitchLoop).target

/-- An outer iteration requests the opposite of the output of the velocity loop. -/
theorem steer_leanRequest (strategy : CascadedPidStrategy P F) (setpoints : Setpoints F)
    (chassis : ChassisMotion F) (intervalSeconds : F) :
    (strategy.steer setpoints chassis intervalSeconds).leanRequest =
      -(strategy.velocityLoop.process setpoints.velocity chassis.forwardVelocity
        (strategy.gainsFrom velocityKp (by decide)) intervalSeconds).1 := by
  unfold leanRequest steer
  rw [DocumentedPid.view_setPoint]
  rfl

/-- No inner call touches what an outer iteration leaves behind. -/
theorem inner_answer_keeps (strategy : CascadedPidStrategy P F) (call : StrategyCall F)
    (next : CascadedPidStrategy P F) (inner : call.Inner)
    (answered : StrategyCall.answer strategy call = some next) :
    (next.velocityLoop, next.yawLoop, next.differential, next.leanRequest) =
      (strategy.velocityLoop, strategy.yawLoop, strategy.differential, strategy.leanRequest) := by
  cases call with
  | setParameter index value =>
      obtain ⟨-, rfl⟩ := setParameter_stored answered
      rfl
  | reset | steer _ _ _ => exact inner.elim
  | balance estimate intervalSeconds =>
      obtain rfl := Option.some.inj answered
      have lean : (strategy.balance estimate intervalSeconds).2.leanRequest =
          strategy.leanRequest := by
        unfold leanRequest balance
        rw [DocumentedPid.view_process, DocumentedPid.view_setTunings]
        rfl
      exact congrArg (fun lean => (strategy.velocityLoop, strategy.yawLoop, strategy.differential, lean))
        lean
  | saturated applied =>
      obtain rfl := Option.some.inj answered
      have lean : (strategy.saturated applied).leanRequest = strategy.leanRequest := by
        unfold leanRequest saturated
        rw [DocumentedPid.view_setPreviousOutput]
        rfl
      exact congrArg (fun lean => (strategy.velocityLoop, strategy.yawLoop, strategy.differential, lean))
        lean

/-- The loops have the limits of their construction. -/
structure Limited (config : Config F) (strategy : CascadedPidStrategy P F) : Prop where
  pitch : (DocumentedPid.view strategy.pitchLoop).limits = ⟨-1, 1⟩
  velocity : strategy.velocityLoop.view.limits = ⟨-config.maximumLean, config.maximumLean⟩
  yaw : strategy.yawLoop.view.limits = ⟨-config.maximumDifferential, config.maximumDifferential⟩

theorem construct_limited (config : Config F) :
    (construct config : CascadedPidStrategy P F).Limited config := by
  unfold construct clear
  constructor
  · rw [view_setPoint, view_reset, DocumentedPid.view_construct]
    rfl
  · rw [ContinuousPid.view_reset, ContinuousPid.view_construct]
  · rw [ContinuousPid.view_reset, ContinuousPid.view_construct]

/-- No call on the strategy changes a limit. -/
theorem limited_preserved (config : Config F) :
    Preserved (Limited config : CascadedPidStrategy P F → Prop) where
  reset strategy limited := by
    change strategy.clear.Limited config
    unfold clear
    constructor
    · rw [view_setPoint, view_reset]
      exact limited.pitch
    · rw [ContinuousPid.view_reset]
      exact limited.velocity
    · rw [ContinuousPid.view_reset]
      exact limited.yaw
  steer strategy setpoints chassis intervalSeconds limited := by
    change (strategy.steer setpoints chassis intervalSeconds).Limited config
    unfold steer
    constructor
    · rw [view_setPoint]
      exact limited.pitch
    · rw [ContinuousPid.view_process]
      exact limited.velocity
    · rw [ContinuousPid.view_process]
      exact limited.yaw
  balance strategy estimate intervalSeconds limited := by
    change (strategy.balance estimate intervalSeconds).2.Limited config
    unfold balance
    refine ⟨?_, limited.velocity, limited.yaw⟩
    rw [DocumentedPid.view_process, view_setTunings]
    exact limited.pitch
  saturated strategy applied limited := by
    change (strategy.saturated applied).Limited config
    unfold saturated
    refine ⟨?_, limited.velocity, limited.yaw⟩
    rw [view_setPreviousOutput]
    exact limited.pitch
  setParameter strategy index value written limited stored := by
    obtain ⟨-, rfl⟩ := setParameter_stored stored
    exact ⟨limited.pitch, limited.velocity, limited.yaw⟩

end CascadedPidStrategy

namespace LqrStrategy
variable {R : Type} [Regulator R F]

/-- The yaw loop has the limits of its construction. -/
def Limited (config : Config F) (strategy : LqrStrategy R P F) : Prop :=
  strategy.yawLoop.view.limits = ⟨-config.maximumDifferential, config.maximumDifferential⟩

theorem construct_limited (config : Config F) :
    (construct config : LqrStrategy R P F).Limited config := by
  unfold construct Limited
  rw [ContinuousPid.view_construct]

/-- No call on the strategy changes a limit. -/
theorem limited_preserved (config : Config F) :
    Preserved (Limited config : LqrStrategy R P F → Prop) where
  reset strategy limited := by
    change strategy.clear.Limited config
    unfold clear Limited
    rw [ContinuousPid.view_reset]
    exact limited
  steer strategy setpoints chassis intervalSeconds limited := by
    change (strategy.steer setpoints chassis intervalSeconds).Limited config
    unfold steer Limited
    rw [ContinuousPid.view_process]
    exact limited
  balance _ _ _ limited := limited
  saturated _ _ limited := limited
  setParameter strategy index value written limited stored := by
    obtain ⟨-, rfl⟩ := setParameter_stored stored
    exact limited

end LqrStrategy
end Views
end InvertedPendulum.Balance
