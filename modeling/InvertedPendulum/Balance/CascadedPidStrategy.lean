import InvertedPendulum.Balance.ContinuousPid

namespace InvertedPendulum.Balance
open Estimation Odometry

structure CascadedPidStrategy.Config (F : Type) where
  maximumLean : F
  maximumDifferential : F
  gains : Vector F 9

structure CascadedPidStrategy (P F : Type) where
  gains : Vector F 9
  pitchLoop : P
  velocityLoop : ContinuousPid P
  yawLoop : ContinuousPid P
  differential : F
  damping : F

namespace CascadedPidStrategy

abbrev parameterCount : Nat := 9

/-- The enumeration `Gain` indexes the gains. -/
def pitchKp : Fin parameterCount := 0
def pitchKi : Fin parameterCount := 1
def pitchKd : Fin parameterCount := 2
def velocityKp : Nat := 3
def yawKp : Nat := 6

variable {P F : Type} [FloatArithmetic F]

def Config.default : Config F where
  maximumLean := ((10 * 314159265 / 100000000 / 180 : ℚ) : F)
  maximumDifferential := ((3 / 10 : ℚ) : F)
  gains := #v[((2 : ℚ) : F), ((0 : ℚ) : F), ((1 / 10 : ℚ) : F), ((5 / 100 : ℚ) : F), ((0 : ℚ) : F),
    ((0 : ℚ) : F), ((1 / 10 : ℚ) : F), ((0 : ℚ) : F), ((0 : ℚ) : F)]

def descriptors : List (ParameterDescriptor F) :=
  [⟨"pitch.kp", 0, ((50 : ℚ) : F)⟩,
    ⟨"pitch.ki", 0, ((100 : ℚ) : F)⟩,
    ⟨"pitch.kd", 0, ((5 : ℚ) : F)⟩,
    ⟨"velocity.kp", 0, ((2 : ℚ) : F)⟩,
    ⟨"velocity.ki", 0, ((5 : ℚ) : F)⟩,
    ⟨"velocity.kd", 0, 1⟩,
    ⟨"yaw.kp", 0, ((2 : ℚ) : F)⟩,
    ⟨"yaw.ki", 0, ((5 : ℚ) : F)⟩,
    ⟨"yaw.kd", 0, 1⟩]

def parameter (strategy : CascadedPidStrategy P F) (index : Nat) : Option F :=
  strategy.gains[index]?

def setParameter (strategy : CascadedPidStrategy P F) (index : Nat) (value : F) :
    Option (CascadedPidStrategy P F) :=
  if inRange : index < 9 then some { strategy with gains := strategy.gains.set index value } else none

omit [FloatArithmetic F] in
/-- A parameter that is stored changes one gain. -/
theorem setParameter_stored {strategy written : CascadedPidStrategy P F} {index : Nat} {value : F}
    (stored : strategy.setParameter index value = some written) :
    ∃ inRange : index < 9, written = { strategy with gains := strategy.gains.set index value } := by
  unfold setParameter at stored
  split at stored
  · rename_i inRange
    exact ⟨inRange, (Option.some.inj stored).symm⟩
  · cases stored

/-- Three gains in a row tune one loop. -/
def gainsFrom (strategy : CascadedPidStrategy P F) (proportional : Nat)
    (inRange : proportional + 2 < 9) : PidGains F :=
  ⟨strategy.gains[proportional], strategy.gains[proportional + 1], strategy.gains[proportional + 2]⟩

variable [IncrementalPid P F]
open IncrementalPid

def clear (strategy : CascadedPidStrategy P F) : CascadedPidStrategy P F :=
  { strategy with
    pitchLoop := setPoint (IncrementalPid.reset strategy.pitchLoop) 0
    velocityLoop := strategy.velocityLoop.reset
    yawLoop := strategy.yawLoop.reset
    differential := 0
    damping := 0 }

def reset (strategy : CascadedPidStrategy P F) : CascadedPidStrategy P F := strategy.clear

def construct (config : Config F) : CascadedPidStrategy P F :=
  clear {
    gains := config.gains
    pitchLoop := IncrementalPid.construct ⟨0, 0, 0⟩ ⟨-1, 1⟩
    velocityLoop := ContinuousPid.construct config.maximumLean
    yawLoop := ContinuousPid.construct config.maximumDifferential
    differential := 0
    damping := 0 }

def steer (strategy : CascadedPidStrategy P F) (setpoints : Setpoints F) (chassis : ChassisMotion F)
    (intervalSeconds : F) : CascadedPidStrategy P F :=
  let (lean, velocityLoop) := strategy.velocityLoop.process setpoints.velocity
    chassis.forwardVelocity (strategy.gainsFrom velocityKp (by decide)) intervalSeconds
  let (differential, yawLoop) := strategy.yawLoop.process setpoints.yawRate chassis.yawRate
    (strategy.gainsFrom yawKp (by decide)) intervalSeconds
  { strategy with
    pitchLoop := setPoint strategy.pitchLoop (-lean)
    velocityLoop
    yawLoop
    differential }

def balance (strategy : CascadedPidStrategy P F) (estimate : Estimate F) (intervalSeconds : F) :
    Effort F × CascadedPidStrategy P F :=
  let tuned := setTunings strategy.pitchLoop
    ⟨strategy.gains.get pitchKp, strategy.gains.get pitchKi * intervalSeconds, 0⟩
  let damping := strategy.gains.get pitchKd * estimate.pitchRate
  let (output, pitchLoop) := process tuned estimate.pitch
  let common := output - damping
  (⟨common - strategy.differential, common + strategy.differential⟩,
    { strategy with pitchLoop, damping })

def saturated (strategy : CascadedPidStrategy P F) (applied : Effort F) : CascadedPidStrategy P F :=
  let appliedCommon := (applied.left + applied.right) / ((2 : ℚ) : F)
  { strategy with
    pitchLoop := setPreviousOutput strategy.pitchLoop (clamp (appliedCommon + strategy.damping) (-1) 1) }

instance : ControlStrategy (CascadedPidStrategy P F) F where
  name _ := "pid"
  reset := reset
  steer := steer
  balance := balance
  saturated := saturated
  parameters _ := descriptors
  parameter := parameter
  setParameter := setParameter

end CascadedPidStrategy
end InvertedPendulum.Balance
