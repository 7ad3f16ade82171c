import InvertedPendulum.Balance.ContinuousPid

namespace InvertedPendulum.Balance
open Estimation Odometry

/-- The regulator of the toolbox computes its control from its gain matrix and a state. -/
class Regulator (R : Type) (F : outParam Type) where
  construct : Vector F 4 → R
  computeControl : R → Vector F 4 → F

/-- A row of gains answers a state with the negated product of the two. -/
structure GainRow (F : Type) where
  gains : Vector F 4

instance {F : Type} [FloatArithmetic F] : Regulator (GainRow F) F where
  construct gains := ⟨gains⟩
  computeControl row state := -((row.gains.zipWith (· * ·) state).foldl (· + ·) 0)

structure LqrStrategy.Config (F : Type) where
  maximumDifferential : F
  maximumPositionDeviation : F
  gains : Vector F 7

structure LqrStrategy (R P F : Type) where
  maximumPositionDeviation : F
  gains : Vector F 7
  regulator : R
  yawLoop : ContinuousPid P
  positionDeviation : F
  velocityDeviation : F
  differential : F
  saturated : Bool

namespace LqrStrategy

abbrev parameterCount : Nat := 7

/-- The enumeration `Gain` indexes the gains. -/
def pitchGain : Fin parameterCount := 0
def pitchRateGain : Fin parameterCount := 1
def positionGain : Fin parameterCount := 2
def velocityGain : Fin parameterCount := 3
def yawKp : Fin parameterCount := 4
def yawKi : Fin parameterCount := 5
def yawKd : Fin parameterCount := 6

variable {R P F : Type} [FloatArithmetic F]

def Config.default : Config F where
  maximumDifferential := ((3 / 10 : ℚ) : F)
  maximumPositionDeviation := ((5 / 10 : ℚ) : F)
  gains := #v[((2 : ℚ) : F), ((1 / 10 : ℚ) : F), ((-2 / 100 : ℚ) : F), ((-1 / 10 : ℚ) : F),
    ((1 / 10 : ℚ) : F), ((0 : ℚ) : F), ((0 : ℚ) : F)]

def descriptors : List (ParameterDescriptor F) :=
  [⟨"k.pitch", ((-100 : ℚ) : F), ((100 : ℚ) : F)⟩,
    ⟨"k.pitchRate", ((-10 : ℚ) : F), ((10 : ℚ) : F)⟩,
    ⟨"k.position", ((-10 : ℚ) : F), ((10 : ℚ) : F)⟩,
    ⟨"k.velocity", ((-10 : ℚ) : F), ((10 : ℚ) : F)⟩,
    ⟨"yaw.kp", 0, ((2 : ℚ) : F)⟩,
    ⟨"yaw.ki", 0, ((5 : ℚ) : F)⟩,
    ⟨"yaw.kd", 0, 1⟩]

variable [Regulator R F]

def regulatorFor (gains : Vector F 7) : R :=
  Regulator.construct #v[gains.get pitchGain, gains.get pitchRateGain, gains.get positionGain,
    gains.get velocityGain]

def parameter (strategy : LqrStrategy R P F) (index : Nat) : Option F := strategy.gains[index]?

/-- A new gain rebuilds the regulator. -/
def setParameter (strategy : LqrStrategy R P F) (index : Nat) (value : F) :
    Option (LqrStrategy R P F) :=
  if inRange : index < 7 then
    let gains := strategy.gains.set index value
    some { strategy with gains, regulator := regulatorFor gains }
  else none

omit [FloatArithmetic F] in
/-- A parameter that is stored changes one gain, and the regulator with it. -/
theorem setParameter_stored {strategy written : LqrStrategy R P F} {index : Nat} {value : F}
    (stored : strategy.setParameter index value = some written) :
    ∃ inRange : index < 7, written = { strategy with
      gains := strategy.gains.set index value
      regulator := regulatorFor (strategy.gains.set index value) } := by
  unfold setParameter at stored
  split at stored
  · rename_i inRange
    exact ⟨inRange, (Option.some.inj stored).symm⟩
  · cases stored

variable [IncrementalPid P F]

def construct (config : Config F) : LqrStrategy R P F where
  maximumPositionDeviation := config.maximumPositionDeviation
  gains := config.gains
  regulator := regulatorFor config.gains
  yawLoop := ContinuousPid.construct config.maximumDifferential
  positionDeviation := 0
  velocityDeviation := 0
  differential := 0
  saturated := false

def clear (strategy : LqrStrategy R P F) : LqrStrategy R P F :=
  { strategy with
    yawLoop := strategy.yawLoop.reset
    positionDeviation := 0
    velocityDeviation := 0
    differential := 0
    saturated := false }

def reset (strategy : LqrStrategy R P F) : LqrStrategy R P F := strategy.clear

/-- The position deviation holds still for one iteration after a saturation. -/
def steer (strategy : LqrStrategy R P F) (setpoints : Setpoints F) (chassis : ChassisMotion F)
    (intervalSeconds : F) : LqrStrategy R P F :=
  let velocityDeviation := chassis.forwardVelocity - setpoints.velocity
  let positionDeviation :=
    if ! strategy.saturated then
      clamp (strategy.positionDeviation + velocityDeviation * intervalSeconds)
        (-strategy.maximumPositionDeviation) strategy.maximumPositionDeviation
    else strategy.positionDeviation
  let (differential, yawLoop) := strategy.yawLoop.process setpoints.yawRate chassis.yawRate
    ⟨strategy.gains.get yawKp, strategy.gains.get yawKi, strategy.gains.get yawKd⟩ intervalSeconds
  { strategy with
    velocityDeviation
    positionDeviation
    saturated := false
    differential
    yawLoop }

def balance (strategy : LqrStrategy R P F) (estimate : Estimate F) (_intervalSeconds : F) :
    Effort F × LqrStrategy R P F :=
  let common := Regulator.computeControl strategy.regulator #v[estimate.pitch, estimate.pitchRate,
    strategy.positionDeviation, strategy.velocityDeviation]
  (⟨common - strategy.differential, common + strategy.differential⟩, strategy)

def markSaturated (strategy : LqrStrategy R P F) (_applied : Effort F) : LqrStrategy R P F :=
  { strategy with saturated := true }

instance : ControlStrategy (LqrStrategy R P F) F where
  name _ := "lqr"
  reset := reset
  steer := steer
  balance := balance
  saturated := markSaturated
  parameters _ := descriptors
  parameter := parameter
  setParameter := setParameter

end LqrStrategy
end InvertedPendulum.Balance
