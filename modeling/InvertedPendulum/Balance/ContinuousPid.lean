import InvertedPendulum.Balance.ControlStrategy

namespace InvertedPendulum.Balance

structure PidTunings (F : Type) where
  kp : F
  ki : F
  kd : F

structure PidLimits (F : Type) where
  minimum : F
  maximum : F

/-- These are the operations of the incremental controller that the toolbox provides. -/
class IncrementalPid (P : Type) (F : outParam Type) where
  construct : PidTunings F → PidLimits F → P
  reset : P → P
  setPoint : P → F → P
  setTunings : P → PidTunings F → P
  setPreviousOutput : P → F → P
  process : P → F → F × P

/-- An incremental controller is its limits, its tunings, its set point and a history of outputs and
errors, each of which one operation replaces. -/
class IncrementalPidState (P : Type) {F : outParam Type} [IncrementalPid P F] where
  History : Type
  limits : P → PidLimits F
  tunings : P → PidTunings F
  target : P → F
  history : P → History
  cleared : History
  determined : ∀ first second : P, limits first = limits second → tunings first = tunings second →
    target first = target second → history first = history second → first = second
  reset_history : ∀ pid : P, history (IncrementalPid.reset pid) = cleared
  reset_limits : ∀ pid : P, limits (IncrementalPid.reset pid) = limits pid
  setPoint_target : ∀ (pid : P) (target' : F), target (IncrementalPid.setPoint pid target') = target'
  setPoint_limits : ∀ (pid : P) (target : F), limits (IncrementalPid.setPoint pid target) = limits pid
  setPoint_history : ∀ (pid : P) (target : F), history (IncrementalPid.setPoint pid target) = history pid
  setTunings_tunings : ∀ (pid : P) (tunings' : PidTunings F),
    tunings (IncrementalPid.setTunings pid tunings') = tunings'
  setTunings_limits : ∀ (pid : P) (tunings : PidTunings F),
    limits (IncrementalPid.setTunings pid tunings) = limits pid
  setTunings_target : ∀ (pid : P) (tunings : PidTunings F),
    target (IncrementalPid.setTunings pid tunings) = target pid
  setTunings_history : ∀ (pid : P) (tunings : PidTunings F),
    history (IncrementalPid.setTunings pid tunings) = history pid
  process_limits : ∀ (pid : P) (measured : F), limits (IncrementalPid.process pid measured).2 = limits pid
  setPreviousOutput_limits : ∀ (pid : P) (output : F),
    limits (IncrementalPid.setPreviousOutput pid output) = limits pid

/-- An incremental controller adds to its last output what the last three errors ask for. -/
structure VelocityPid (F : Type) where
  limits : PidLimits F
  tunings : PidTunings F
  target : F
  previousOutput : F
  previousError : F
  olderError : F

namespace VelocityPid
variable {F : Type} [FloatArithmetic F]

instance : IncrementalPid (VelocityPid F) F where
  construct tunings limits := ⟨limits, tunings, 0, 0, 0, 0⟩
  reset pid := { pid with previousOutput := 0, previousError := 0, olderError := 0 }
  setPoint pid target := { pid with target }
  setTunings pid tunings := { pid with tunings }
  setPreviousOutput pid output := { pid with previousOutput := output }
  process pid measured :=
    let error := pid.target - measured
    let change := (pid.tunings.kp + pid.tunings.ki + pid.tunings.kd) * error -
      (pid.tunings.kp + pid.tunings.kd + pid.tunings.kd) * pid.previousError +
      pid.tunings.kd * pid.olderError
    let output := clamp (pid.previousOutput + change) pid.limits.minimum pid.limits.maximum
    (output, { pid with previousOutput := output, previousError := error, olderError := pid.previousError })

instance : IncrementalPidState (VelocityPid F) where
  History := F × F × F
  limits := limits
  tunings := tunings
  target := target
  history pid := (pid.previousOutput, pid.previousError, pid.olderError)
  cleared := (0, 0, 0)
  determined first second sameLimits sameTunings sameTarget sameHistory := by
    cases first
    cases second
    simp_all
  reset_history _ := rfl
  reset_limits _ := rfl
  setPoint_target _ _ := rfl
  setPoint_limits _ _ := rfl
  setPoint_history _ _ := rfl
  setTunings_tunings _ _ := rfl
  setTunings_limits _ _ := rfl
  setTunings_target _ _ := rfl
  setTunings_history _ _ := rfl
  process_limits _ _ := rfl
  setPreviousOutput_limits _ _ := rfl

end VelocityPid

structure PidGains (F : Type) where
  kp : F
  ki : F
  kd : F

structure ContinuousPid (P : Type) where
  loop : P

namespace ContinuousPid
variable {P F : Type} [FloatArithmetic F] [IncrementalPid P F]
open IncrementalPid

def construct (limit : F) : ContinuousPid P where
  loop := setPoint (IncrementalPid.construct ⟨0, 0, 0⟩ ⟨-limit, limit⟩) 0

def reset (pid : ContinuousPid P) : ContinuousPid P where
  loop := setPoint (IncrementalPid.reset pid.loop) 0

/-- The gains of continuous time turn into tunings for this interval. -/
def process (pid : ContinuousPid P) (target measured : F) (gains : PidGains F)
    (intervalSeconds : F) : F × ContinuousPid P :=
  let tuned := setTunings pid.loop ⟨gains.kp, gains.ki * intervalSeconds, gains.kd / intervalSeconds⟩
  let (output, loop) := IncrementalPid.process (setPoint tuned target) measured
  (output, ⟨loop⟩)

end ContinuousPid
end InvertedPendulum.Balance
