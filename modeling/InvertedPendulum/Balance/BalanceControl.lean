import InvertedPendulum.Balance.ControlStrategy
import InvertedPendulum.Control.Stages
import InvertedPendulum.Motion.MotionActuation

namespace InvertedPendulum.Balance
open Estimation Motion Odometry Control

/-- Telemetry reads the applied effort from this interface. -/
class BalanceControl (σ : Type) (F : outParam Type) where
  appliedEffort : σ → Effort F

structure BalanceControlImpl.Config (F : Type) where
  maximumVelocity : F
  maximumYawRate : F
  commandTimeout : Duration
  velocityDeceleration : F
  yawDeceleration : F

/-- The peers are the objects behind the references to actuation and odometry. -/
structure BalanceControlImpl (F S σ : Type) where
  strategies : List S
  peers : σ
  config : BalanceControlImpl.Config F
  active : Nat
  activeInRange : active < strategies.length
  engaged : Bool
  setpoints : Setpoints F
  commandedAt : TimePoint
  cancelled : Bool
  applied : Effort F

section Functions
variable {F : Type} [FloatArithmetic F]

def noEffort : Effort F := ⟨0, 0⟩

def noSetpoints : Setpoints F := ⟨0, 0⟩

def minimumIntervalSeconds : F := ((1 / 10000 : ℚ) : F)

def intervalSeconds (interval : Duration) : F := maximum (seconds interval) minimumIntervalSeconds

def saturate (effort : Effort F) : Effort F := ⟨clamp effort.left (-1) 1, clamp effort.right (-1) 1⟩

def towardsZero (value step : F) : F :=
  if fabs value ≤ step then 0 else if 0 < value then value - step else value + step

/-- This is `==` of two efforts. -/
def sameEffort (first second : Effort F) : Bool :=
  sameFloat first.left second.left && sameFloat first.right second.right

end Functions

namespace BalanceControlImpl
variable {F S σ : Type} [FloatArithmetic F]

def Config.default : Config F where
  maximumVelocity := 1
  maximumYawRate := ((16 / 10 : ℚ) : F)
  commandTimeout := milliseconds 500
  velocityDeceleration := ((5 / 10 : ℚ) : F)
  yawDeceleration := ((16 / 10 : ℚ) : F)

/-- The constructor asserts that there is a strategy. -/
def construct (strategies : List S) (peers : σ) (config : Config F) :
    Option (BalanceControlImpl F S σ) :=
  if nonempty : 0 < strategies.length then
    some {
      strategies
      peers
      config
      active := 0
      activeInRange := nonempty
      engaged := false
      setpoints := noSetpoints
      commandedAt := 0
      cancelled := true
      applied := noEffort }
  else none

/-- `Active` -/
def strategy (control : BalanceControlImpl F S σ) : S :=
  control.strategies.get ⟨control.active, control.activeInRange⟩

/-- A call on the active strategy changes that strategy alone. -/
def update (control : BalanceControlImpl F S σ) (strategy : S) : BalanceControlImpl F S σ :=
  { control with
    strategies := control.strategies.set control.active strategy
    activeInRange := by
      rw [List.length_set]
      exact control.activeInRange }

omit [FloatArithmetic F] in
/-- The active strategy after a call on it is the result of the call. -/
@[simp] theorem update_strategy (control : BalanceControlImpl F S σ) (strategy : S) :
    (control.update strategy).strategy = strategy := by
  unfold BalanceControlImpl.strategy update
  rw [List.get_eq_getElem]
  exact List.getElem_set_self _

/-- The active index stays one of the strategies. -/
def select (control : BalanceControlImpl F S σ) (index : Nat) : Bool × BalanceControlImpl F S σ :=
  if refused : control.engaged ∨ index ≥ control.strategies.length then (false, control)
  else
    (true, { control with
      active := index
      activeInRange := by
        rw [not_or, not_le] at refused
        exact refused.2 })

def cancelMotion (control : BalanceControlImpl F S σ) : BalanceControlImpl F S σ :=
  { control with cancelled := true }

def disengage (control : BalanceControlImpl F S σ) : BalanceControlImpl F S σ :=
  { control with
    engaged := false
    setpoints := noSetpoints
    cancelled := true
    applied := noEffort }

section Clock
variable [Clock σ]

def move (control : BalanceControlImpl F S σ) (commanded : Setpoints F) :
    Bool × BalanceControlImpl F S σ :=
  if ! control.engaged ∨ ¬ fabs commanded.velocity ≤ control.config.maximumVelocity ∨
      ¬ fabs commanded.yawRate ≤ control.config.maximumYawRate then
    (false, control)
  else
    (true, { control with
      setpoints := commanded
      commandedAt := Clock.now control.peers
      cancelled := false })

/-- A motion command is refused without an effect, or an engaged control accepts it in its bounds. -/
theorem move_cases (control : BalanceControlImpl F S σ) (commanded : Setpoints F) :
    control.move commanded = (false, control) ∨
      (control.engaged = true ∧ fabs commanded.velocity ≤ control.config.maximumVelocity ∧
        fabs commanded.yawRate ≤ control.config.maximumYawRate) ∧
      control.move commanded = (true, { control with
        setpoints := commanded
        commandedAt := Clock.now control.peers
        cancelled := false }) := by
  unfold move
  split
  · exact .inl rfl
  · rename_i allowed
    rw [not_or, not_or, not_not, not_not, Bool.not_eq_true', Bool.not_eq_false] at allowed
    exact .inr ⟨allowed, rfl⟩

/-- A command of motion stays engaged or disengaged. -/
@[simp] theorem move_engaged (control : BalanceControlImpl F S σ) (commanded : Setpoints F) :
    (control.move commanded).2.engaged = control.engaged := by
  rcases control.move_cases commanded with refused | ⟨-, accepted⟩
  · rw [refused]
  · rw [accepted]

/-- A refused motion command changes nothing. -/
theorem move_refused {control after : BalanceControlImpl F S σ} {commanded : Setpoints F}
    (refused : control.move commanded = (false, after)) : after = control := by
  rcases control.move_cases commanded with kept | ⟨-, accepted⟩
  · rw [kept] at refused
    exact (Prod.mk.inj refused).2.symm
  · rw [accepted] at refused
    cases refused

/-- A setpoint decays once its command is cancelled or has timed out. -/
def decayUnlessCommanded (control : BalanceControlImpl F S σ) (intervalSeconds : F) :
    BalanceControlImpl F S σ :=
  if ! control.cancelled ∧
      Clock.now control.peers - control.commandedAt ≤ control.config.commandTimeout then
    control
  else
    { control with
      setpoints :=
        ⟨towardsZero control.setpoints.velocity (control.config.velocityDeceleration * intervalSeconds),
          towardsZero control.setpoints.yawRate (control.config.yawDeceleration * intervalSeconds)⟩ }

end Clock

section Strategies
variable [ControlStrategy S F]

/-- An accepted parameter goes to the active strategy, whose assertion may stop the firmware. -/
def setParameter (control : BalanceControlImpl F S σ) (index : Nat) (value : F) :
    Option (Bool × BalanceControlImpl F S σ) :=
  let descriptors := ControlStrategy.parameters control.strategy
  match descriptors[index]? with
  | none => some (false, control)
  | some descriptor =>
      if control.engaged ∨ ¬ (descriptor.minimum ≤ value ∧ value ≤ descriptor.maximum) then
        some (false, control)
      else
        (ControlStrategy.setParameter control.strategy index value).map fun strategy =>
          (true, control.update strategy)

def engage (control : BalanceControlImpl F S σ) : BalanceControlImpl F S σ :=
  let stopped := { control with setpoints := noSetpoints, cancelled := true }
  { stopped.update (ControlStrategy.reset stopped.strategy) with engaged := true }

def balance [MotionActuation σ F] (control : BalanceControlImpl F S σ) (estimate : Estimate F)
    (interval : Duration) : BalanceControlImpl F S σ :=
  if ! control.engaged then control
  else if ! estimate.valid then
    { control with
      applied := noEffort
      peers := MotionActuation.apply control.peers 0 0 }
  else
    let (requested, balanced) :=
      ControlStrategy.balance control.strategy estimate (intervalSeconds interval)
    let applied := saturate requested
    let informed :=
      if ! sameEffort applied requested then ControlStrategy.saturated balanced applied else balanced
    { control.update informed with
      applied
      peers := MotionActuation.apply control.peers applied.left applied.right }

def steer [WheelOdometry σ F] [Clock σ] (control : BalanceControlImpl F S σ) (interval : Duration) :
    BalanceControlImpl F S σ :=
  if ! control.engaged then control
  else
    let decayed := control.decayUnlessCommanded (intervalSeconds interval)
    decayed.update (ControlStrategy.steer decayed.strategy decayed.setpoints
      (WheelOdometry.chassis decayed.peers) (intervalSeconds interval))

/-- A balance iteration stays engaged or disengaged. -/
@[simp] theorem balance_engaged [MotionActuation σ F] (control : BalanceControlImpl F S σ)
    (estimate : Estimate F) (interval : Duration) :
    (control.balance estimate interval).engaged = control.engaged := by
  unfold balance
  split
  · rfl
  · split <;> rfl

/-- An outer iteration stays engaged or disengaged. -/
@[simp] theorem steer_engaged [WheelOdometry σ F] [Clock σ] (control : BalanceControlImpl F S σ)
    (interval : Duration) :
    (control.steer interval).engaged = control.engaged := by
  unfold steer
  split
  · rfl
  · unfold decayUnlessCommanded
    split <;> rfl

instance : BalanceControl (BalanceControlImpl F S σ) F where
  appliedEffort := applied

instance [MotionActuation σ F] [WheelOdometry σ F] [Clock σ] :
    SupervisedControl (BalanceControlImpl F S σ) F where
  balance := balance
  steer := steer
  engage := engage
  disengage := disengage

end Strategies
end BalanceControlImpl
end InvertedPendulum.Balance
