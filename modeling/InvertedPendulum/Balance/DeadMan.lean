import InvertedPendulum.Arithmetic.Exact
import InvertedPendulum.Balance.Configuration
import Mathlib.Data.Sign.Basic

namespace InvertedPendulum.Balance
open Estimation Motion Odometry Control Reactive Machine

section Decay
variable {F : Type} [Field F] [LinearOrder F] [IsStrictOrderedRing F] {value amount step : F}

/-- A value that has lost some amount of its magnitude stops at zero. -/
def decayed (value amount : F) : F := SignType.sign value * max 0 (|value| - amount)

omit [IsStrictOrderedRing F] in
@[simp] theorem decayed_zero (amount : F) : decayed 0 amount = 0 := by
  unfold decayed
  rw [sign_zero, SignType.coe_zero, zero_mul]

theorem decayed_pos (positive : 0 < value) (amount : F) :
    decayed value amount = max 0 (value - amount) := by
  unfold decayed
  rw [sign_pos positive, SignType.coe_one, one_mul, abs_of_pos positive]

/-- A decay treats both signs alike. -/
theorem decayed_negated (value amount : F) : decayed (-value) amount = -decayed value amount := by
  unfold decayed
  rw [Left.sign_neg, SignType.coe_neg, abs_neg, neg_mul]

/-- A value that has lost nothing is itself. -/
theorem decayed_nothing (value : F) : decayed value 0 = value := by
  unfold decayed
  rw [sub_zero, max_eq_right (abs_nonneg value), sign_mul_abs]

/-- A decay never exceeds the value that decays. -/
theorem abs_decayed_le (value : F) (nonnegative : 0 ≤ amount) :
    |decayed value amount| ≤ |value| := by
  have small : ∀ {value : F}, 0 < value → |decayed value amount| ≤ |value| := by
    intro value positive
    rw [decayed_pos positive, abs_of_nonneg (le_max_left _ _), abs_of_pos positive]
    exact max_le positive.le (sub_le_self _ nonnegative)
  rcases lt_trichotomy value 0 with negative | rfl | positive
  · have mirrored := small (neg_pos.mpr negative)
    rwa [decayed_negated, abs_neg, abs_neg] at mirrored
  · rw [decayed_zero]
  · exact small positive

/-- A step towards zero takes the whole of a smaller value. -/
theorem towardsZero_eq (value step : F) :
    towardsZero value step =
      if |value| ≤ step then 0 else if 0 < value then value - step else value + step := by
  unfold towardsZero
  rw [fabs_eq_abs]

/-- A step towards zero treats both signs alike. -/
theorem towardsZero_negated (value : F) (nonnegative : 0 ≤ step) :
    towardsZero (-value) step = -towardsZero value step := by
  rw [towardsZero_eq, towardsZero_eq, abs_neg]
  by_cases whole : |value| ≤ step
  · rw [if_pos whole, if_pos whole, neg_zero]
  · rw [if_neg whole, if_neg whole]
    rcases lt_trichotomy value 0 with negative | rfl | positive
    · rw [if_pos (neg_pos.mpr negative), if_neg negative.not_gt]
      ring
    · rw [abs_zero] at whole
      exact absurd nonnegative whole
    · rw [if_neg (neg_neg_of_pos positive).not_gt, if_pos positive]
      ring

/-- One more step of the decay of a positive value adds to the amount. -/
theorem towardsZero_decayed_pos (positive : 0 < value) (amount : F) (nonnegative : 0 ≤ step) :
    towardsZero (decayed value amount) step = decayed value (amount + step) := by
  rw [towardsZero_eq, decayed_pos positive, decayed_pos positive, abs_of_nonneg (le_max_left _ _),
    ← sub_sub]
  by_cases whole : max 0 (value - amount) ≤ step
  · have gone : value - amount - step ≤ 0 := sub_nonpos.mpr ((le_max_right _ _).trans whole)
    rw [if_pos whole, max_eq_left gone]
  · have left : 0 < value - amount - step := by
      rcases lt_max_iff.mp (not_le.mp whole) with below | above
      · exact absurd below (not_lt.mpr nonnegative)
      · exact sub_pos.mpr above
    have rest : 0 < value - amount := left.trans_le (sub_le_self _ nonnegative)
    have beyond : 0 < max 0 (value - amount) := lt_max_of_lt_right rest
    rw [if_neg whole, if_pos beyond, max_eq_right rest.le, max_eq_right left.le]

/-- One more step of the decay adds to the amount, and depends on nothing else. -/
theorem towardsZero_decayed (value amount : F) (nonnegative : 0 ≤ step) :
    towardsZero (decayed value amount) step = decayed value (amount + step) := by
  rcases lt_trichotomy value 0 with negative | rfl | positive
  · have mirrored := towardsZero_decayed_pos (neg_pos.mpr negative) amount nonnegative
    rw [decayed_negated, decayed_negated, towardsZero_negated _ nonnegative] at mirrored
    exact neg_inj.mp mirrored
  · rw [decayed_zero, decayed_zero, towardsZero_eq, abs_zero, if_pos nonnegative]
  · exact towardsZero_decayed_pos positive amount nonnegative

end Decay

namespace BalanceControlImpl

section Session
variable {F S σ : Type} [FloatArithmetic F] [Clock σ]

/-- A session holds its last accepted command with the time of it, whether that was cancelled, the
intervals of the iterations that decayed it, and the time of the last operation. -/
structure Session (F : Type) where
  command : Option (Setpoints F × TimePoint)
  cancelled : Bool
  decays : List Duration
  clock : Option TimePoint

/-- No command has been accepted before the first operation. -/
def Session.fresh : Session F := ⟨none, false, [], none⟩

/-- The dead man holds a command that is neither cancelled nor older than the timeout. -/
def Session.holds (session : Session F) (config : Config F) (now : TimePoint) : Bool :=
  session.command.any fun command =>
    ! session.cancelled && decide (now - command.2 ≤ config.commandTimeout)

omit [FloatArithmetic F] in
/-- A command is held that is neither cancelled nor late. -/
theorem Session.holds_of {session : Session F} {config : Config F} {now given : TimePoint}
    {commanded : Setpoints F} (held : session.command = some (commanded, given))
    (uncancelled : session.cancelled = false) (timely : now - given ≤ config.commandTimeout) :
    session.holds config now = true := by
  rw [holds, held, Option.any_some, uncancelled, decide_eq_true timely]
  rfl

/-- An engagement and a disengagement each begin a session without a command. -/
def Session.observe (session : Session F) (before : BalanceControlImpl F S σ)
    (event : σ × Request F) (_ : BalanceControlImpl F S σ) : Session F :=
  let now := Clock.now event.1
  let seen := { session with clock := some now }
  match event.2 with
  | .engage | .disengage => { seen with command := none, cancelled := false, decays := [] }
  | .move commanded =>
      if ((before.attend event.1).move commanded).1 then
        { seen with command := some (commanded, now), cancelled := false, decays := [] }
      else seen
  | .cancelMotion => { seen with cancelled := true }
  | .steer interval =>
      if before.engaged && ! session.holds before.config now then
        { seen with decays := session.decays ++ [interval] }
      else seen
  | .select _ | .setParameter _ _ | .balance _ _ => seen

theorem Session.observe_steer (session : Session F) (before after : BalanceControlImpl F S σ)
    (peers : σ) (interval : Duration) :
    session.observe before (peers, .steer interval) after =
      let seen := { session with clock := some (Clock.now peers) }
      if before.engaged && ! session.holds before.config (Clock.now peers) then
        { seen with decays := session.decays ++ [interval] }
      else seen := rfl

theorem Session.observe_move (session : Session F) (before after : BalanceControlImpl F S σ)
    (peers : σ) (commanded : Setpoints F) :
    session.observe before (peers, .move commanded) after =
      let seen := { session with clock := some (Clock.now peers) }
      if ((before.attend peers).move commanded).1 then
        { seen with command := some (commanded, Clock.now peers), cancelled := false, decays := [] }
      else seen := rfl

/-- A session sees the time of every operation. -/
theorem Session.observe_clock (session : Session F) (before after : BalanceControlImpl F S σ)
    (event : σ × Request F) :
    (session.observe before event after).clock = some (Clock.now event.1) := by
  obtain ⟨peers, request⟩ := event
  cases request with
  | move commanded =>
      rw [observe_move]
      dsimp only
      split <;> rfl
  | steer interval =>
      rw [observe_steer]
      dsimp only
      split <;> rfl
  | engage | disengage | select | setParameter | balance | cancelMotion => rfl

/-- No operation precedes the one before it. -/
def InOrder (state : BalanceControlImpl F S σ × Session F) (event : σ × Request F) : Prop :=
  ∀ clock, state.2.clock = some clock → clock ≤ Clock.now event.1

end Session

section Law
variable {F S σ : Type} [Field F] [LinearOrder F]

/-- An iteration decays the setpoints for its interval, which counts for a tenth of a millisecond at
least. -/
def decayTime (decays : List Duration) : F :=
  (decays.map fun interval => max (seconds interval) ((1 / 10000 : ℚ) : F)).sum

/-- The law gives the setpoints of a session. -/
def Session.law (session : Session F) (config : Config F) : Setpoints F :=
  match session.command with
  | none => noSetpoints
  | some (commanded, _) =>
      ⟨decayed commanded.velocity (config.velocityDeceleration * decayTime session.decays),
        decayed commanded.yawRate (config.yawDeceleration * decayTime session.decays)⟩

def Bounded (config : Config F) (setpoints : Setpoints F) : Prop :=
  |setpoints.velocity| ≤ config.maximumVelocity ∧ |setpoints.yawRate| ≤ config.maximumYawRate

/-- An operation keeps to the dead-man law. -/
structure Lawful [ControlStrategy S F] [WheelOdometry σ F] [Clock σ] (config : Config F)
    (before after : BalanceControlImpl F S σ × Session F) (event : σ × Request F) : Prop where
  bounded : Bounded config after.1.setpoints
  idle : after.1.engaged = false → after.1.setpoints = noSetpoints
  refused : ∀ commanded, event.2 = .move commanded →
    ((before.1.attend event.1).move commanded).1 = false → after.1 = before.1.attend event.1
  held : ∀ interval commanded at_, event.2 = .steer interval → before.1.engaged = true →
    before.2.command = some (commanded, at_) → before.2.cancelled = false →
    Clock.now event.1 - at_ ≤ config.commandTimeout →
    after.1 = (before.1.attend event.1).update (ControlStrategy.steer before.1.strategy commanded
      (WheelOdometry.chassis event.1) (intervalSeconds interval)) ∧
    after.1.setpoints = commanded
  decayed : after.1.setpoints = after.2.law config
  continued : ∀ interval, event.2 = .steer interval → before.1.engaged = true →
    before.2.decays ≠ [] → after.2.decays = before.2.decays ++ [interval]

end Law

section Frames
variable {F S σ : Type} [FloatArithmetic F] [ControlStrategy S F] [MotionActuation σ F]

/-- An operation on strategies and efforts leaves the command alone. -/
structure SameCommand (before after : BalanceControlImpl F S σ) : Prop where
  config : after.config = before.config
  engaged : after.engaged = before.engaged
  setpoints : after.setpoints = before.setpoints
  commandedAt : after.commandedAt = before.commandedAt
  cancelled : after.cancelled = before.cancelled

omit [FloatArithmetic F] [ControlStrategy S F] [MotionActuation σ F] in
theorem attend_command (control : BalanceControlImpl F S σ) (peers : σ) :
    SameCommand control (control.attend peers) := ⟨rfl, rfl, rfl, rfl, rfl⟩

omit [FloatArithmetic F] [ControlStrategy S F] [MotionActuation σ F] in
theorem SameCommand.trans {first second third : BalanceControlImpl F S σ}
    (before : SameCommand first second) (after : SameCommand second third) :
    SameCommand first third :=
  ⟨after.config.trans before.config, after.engaged.trans before.engaged,
    after.setpoints.trans before.setpoints, after.commandedAt.trans before.commandedAt,
    after.cancelled.trans before.cancelled⟩

omit [FloatArithmetic F] [ControlStrategy S F] [MotionActuation σ F] in
theorem update_command (control : BalanceControlImpl F S σ) (strategy : S) :
    SameCommand control (control.update strategy) := ⟨rfl, rfl, rfl, rfl, rfl⟩

omit [FloatArithmetic F] [ControlStrategy S F] [MotionActuation σ F] in
theorem select_command (control : BalanceControlImpl F S σ) (index : Nat) :
    SameCommand control (control.select index).2 := by
  unfold select
  split <;> exact ⟨rfl, rfl, rfl, rfl, rfl⟩

omit [MotionActuation σ F] in
theorem setParameter_command {control after : BalanceControlImpl F S σ} {index : Nat} {value : F}
    {accepted : Bool} (written : control.setParameter index value = some (accepted, after)) :
    SameCommand control after := by
  cases accepted with
  | false =>
      rw [setParameter_refused written]
      exact ⟨rfl, rfl, rfl, rfl, rfl⟩
  | true =>
      obtain ⟨-, _, _, -, -, -, -, rfl⟩ := setParameter_accepted written
      exact ⟨rfl, rfl, rfl, rfl, rfl⟩

theorem balance_command (control : BalanceControlImpl F S σ) (estimate : Estimate F)
    (interval : Duration) : SameCommand control (control.balance estimate interval) := by
  unfold balance
  split
  · exact ⟨rfl, rfl, rfl, rfl, rfl⟩
  · split <;> exact ⟨rfl, rfl, rfl, rfl, rfl⟩

end Frames

section Invariant
variable {F S σ : Type} [Field F] [LinearOrder F] {config : Config F}
  {control next : BalanceControlImpl F S σ} {session : Session F}

/-- The control holds the command of its session and the setpoints that the law gives, and a decay
that has begun by the timeout stays past the timeout. -/
structure Governed (config : Config F) (state : BalanceControlImpl F S σ × Session F) : Prop where
  configured : state.1.config = config
  idle : state.1.engaged = false → state.2.command = none
  law : state.1.setpoints = state.2.law config
  command : ∀ commanded given, state.2.command = some (commanded, given) →
    Bounded config commanded ∧ state.1.commandedAt = given ∧ state.1.cancelled = state.2.cancelled
  begun : ∀ commanded given, state.2.command = some (commanded, given) → state.2.decays ≠ [] →
    state.2.cancelled = true ∨
      ∃ clock, state.2.clock = some clock ∧ config.commandTimeout < clock - given

/-- Time passes without breaking the law. -/
theorem Governed.framed (governed : Governed config (control, session))
    (same : SameCommand control next) {now : TimePoint}
    (ordered : ∀ clock, session.clock = some clock → clock ≤ now) :
    Governed config (next, { session with clock := some now }) := by
  obtain ⟨configured, idle, law, command, begun⟩ := governed
  constructor
  · exact same.config.trans configured
  · intro disengaged
    exact idle (same.engaged.symm.trans disengaged)
  · exact same.setpoints.trans law
  · intro commanded given held
    obtain ⟨bounded, commandedAt, cancelled⟩ := command commanded given held
    exact ⟨bounded, same.commandedAt.trans commandedAt, same.cancelled.trans cancelled⟩
  · intro commanded given held decays
    rcases begun commanded given held decays with cancelled | ⟨clock, seen, late⟩
    · exact .inl cancelled
    · have later := ordered clock seen
      right
      exact ⟨now, rfl, late.trans_le (sub_le_sub_right later given)⟩

/-- A command that has begun to decay is not held again. -/
theorem Governed.not_holds (governed : Governed config (control, session)) {now : TimePoint}
    (ordered : ∀ clock, session.clock = some clock → clock ≤ now) (begun : session.decays ≠ []) :
    session.holds config now = false := by
  unfold Session.holds
  cases held : session.command with
  | none => rfl
  | some command =>
      obtain ⟨commanded, given⟩ := command
      rw [Option.any_some, Bool.and_eq_false_iff]
      rcases governed.begun commanded given held begun with cancelled | ⟨clock, seen, late⟩
      · left
        rw [cancelled]
        rfl
      · right
        have later := ordered clock seen
        apply decide_eq_false
        have passed : clock - given ≤ now - given := sub_le_sub_right later given
        exact not_le.mpr (late.trans_le passed)

@[simp] theorem decayTime_nil : (decayTime [] : F) = 0 := rfl

theorem decayTime_snoc (decays : List Duration) (interval : Duration) :
    (decayTime (decays ++ [interval]) : F) = decayTime decays + intervalSeconds interval := by
  unfold decayTime intervalSeconds minimumIntervalSeconds
  rw [List.map_append, List.sum_append, List.map_singleton, List.sum_singleton, maximum_eq_max]

variable [IsStrictOrderedRing F]

theorem intervalSeconds_nonneg (interval : Duration) : (0 : F) ≤ intervalSeconds interval := by
  unfold intervalSeconds minimumIntervalSeconds
  rw [maximum_eq_max]
  have least : (0 : F) ≤ ((1 / 10000 : ℚ) : F) := by
    have exact : (0 : ℚ) ≤ 1 / 10000 := by norm_num
    exact_mod_cast exact
  exact le_max_of_le_right least

theorem decayTime_nonneg (decays : List Duration) : (0 : F) ≤ decayTime decays := by
  induction decays using List.reverseRecOn with
  | nil => exact le_rfl
  | append_singleton decays interval ih =>
      rw [decayTime_snoc]
      exact add_nonneg ih (intervalSeconds_nonneg interval)

/-- A configuration sets limits and decelerations that are not negative. -/
structure Config.NonNegative (config : Config F) : Prop where
  velocity : 0 ≤ config.maximumVelocity
  yawRate : 0 ≤ config.maximumYawRate
  velocityDeceleration : 0 ≤ config.velocityDeceleration
  yawDeceleration : 0 ≤ config.yawDeceleration

/-- The law keeps within the limits that the command kept. -/
theorem Governed.bounded (nonnegative : config.NonNegative)
    (governed : Governed config (control, session)) : Bounded config control.setpoints := by
  have law : control.setpoints = session.law config := governed.law
  rw [law]
  unfold Session.law
  cases held : session.command with
  | none =>
      constructor
      · exact abs_zero.trans_le nonnegative.velocity
      · exact abs_zero.trans_le nonnegative.yawRate
  | some command =>
      obtain ⟨commanded, given⟩ := command
      obtain ⟨velocity, yawRate⟩ := (governed.command commanded given held).1
      have time : (0 : F) ≤ decayTime session.decays := decayTime_nonneg _
      constructor
      · exact (abs_decayed_le _ (mul_nonneg nonnegative.velocityDeceleration time)).trans velocity
      · exact (abs_decayed_le _ (mul_nonneg nonnegative.yawDeceleration time)).trans yawRate

omit [IsStrictOrderedRing F] in
/-- Without a command the setpoints are zero. -/
theorem Governed.setpoints_none (governed : Governed config (control, session))
    (uncommanded : session.command = none) : control.setpoints = noSetpoints := by
  have law : control.setpoints = session.law config := governed.law
  rw [law, Session.law, uncommanded]

/-- A command that is held has not begun to decay. -/
theorem Governed.setpoints_held (governed : Governed config (control, session)) {now : TimePoint}
    (ordered : ∀ clock, session.clock = some clock → clock ≤ now)
    {commanded : Setpoints F} {given : TimePoint}
    (held : session.command = some (commanded, given)) (holds : session.holds config now = true) :
    control.setpoints = commanded := by
  have fresh : session.decays = [] := by
    by_contra begun
    rw [governed.not_holds ordered begun] at holds
    cases holds
  have law : control.setpoints = session.law config := governed.law
  rw [law, Session.law, held, fresh]
  show (⟨decayed _ (_ * decayTime []), decayed _ (_ * decayTime [])⟩ : Setpoints F) = commanded
  rw [decayTime_nil, mul_zero, mul_zero, decayed_nothing, decayed_nothing]

end Invariant

section Steering
variable {F S σ : Type} [Field F] [LinearOrder F] [Clock σ]
  {config : Config F} {control : BalanceControlImpl F S σ} {session : Session F} {peers : σ}

/-- A held command is not decayed. -/
theorem Governed.decay_held (governed : Governed config (control, session)) (interval : F)
    (holds : session.holds config (Clock.now peers) = true) :
    (control.attend peers).decayUnlessCommanded interval = control.attend peers := by
  unfold Session.holds at holds
  obtain ⟨⟨commanded, given⟩, held, holds⟩ := (Option.any_eq_true _ _).mp holds
  obtain ⟨uncancelled, timely⟩ := (Bool.and_eq_true_iff).mp holds
  obtain ⟨-, commandedAt, cancelled⟩ := governed.command commanded given held
  have configured : control.config = config := governed.configured
  unfold decayUnlessCommanded
  apply if_pos
  constructor
  · show (! control.cancelled) = true
    rw [show control.cancelled = session.cancelled from cancelled]
    exact uncancelled
  · show Clock.now peers - control.commandedAt ≤ control.config.commandTimeout
    rw [show control.commandedAt = given from commandedAt, configured]
    exact of_decide_eq_true timely

omit [Clock σ] [LinearOrder F] [Field F] in
theorem decay_command [FloatArithmetic F] [Clock σ] (control : BalanceControlImpl F S σ)
    (interval : F) :
    (control.decayUnlessCommanded interval).config = control.config ∧
      (control.decayUnlessCommanded interval).engaged = control.engaged ∧
      (control.decayUnlessCommanded interval).commandedAt = control.commandedAt ∧
      (control.decayUnlessCommanded interval).cancelled = control.cancelled := by
  unfold decayUnlessCommanded
  split <;> exact ⟨rfl, rfl, rfl, rfl⟩

variable [IsStrictOrderedRing F]

/-- A command that is not held loses one more interval. -/
theorem Governed.decay_lapsed (nonnegative : config.NonNegative)
    (governed : Governed config (control, session)) (interval : Duration)
    (lapsed : session.holds config (Clock.now peers) = false) :
    ((control.attend peers).decayUnlessCommanded (intervalSeconds interval)).setpoints =
      { session with decays := session.decays ++ [interval] }.law config := by
  have configured : control.config = config := governed.configured
  have law : control.setpoints = session.law config := governed.law
  have step : (0 : F) ≤ intervalSeconds interval := intervalSeconds_nonneg interval
  have velocityStep := mul_nonneg nonnegative.velocityDeceleration step
  have yawStep := mul_nonneg nonnegative.yawDeceleration step
  cases held : session.command with
  | none =>
      have still : control.setpoints = noSetpoints := governed.setpoints_none held
      have stopped : ∀ {step : F}, 0 ≤ step → towardsZero 0 step = 0 := by
        intro step nonnegative
        rw [towardsZero_eq, abs_zero, if_pos nonnegative]
      show _ = noSetpoints
      unfold decayUnlessCommanded
      split
      · exact still
      · show (⟨towardsZero control.setpoints.velocity (control.config.velocityDeceleration * _),
          towardsZero control.setpoints.yawRate (control.config.yawDeceleration * _)⟩ :
            Setpoints F) = noSetpoints
        rw [still, configured]
        show (⟨towardsZero 0 _, towardsZero 0 _⟩ : Setpoints F) = noSetpoints
        rw [stopped velocityStep, stopped yawStep]
        rfl
  | some command =>
      obtain ⟨commanded, given⟩ := command
      obtain ⟨-, commandedAt, cancelled⟩ := governed.command commanded given held
      have commandedAt : control.commandedAt = given := commandedAt
      have cancelled : control.cancelled = session.cancelled := cancelled
      have decays : ¬ ((! control.cancelled) = true ∧
          Clock.now peers - control.commandedAt ≤ control.config.commandTimeout) := by
        rw [cancelled, commandedAt, configured]
        intro both
        obtain ⟨uncancelled, timely⟩ := both
        rw [Session.holds, held, Option.any_some, uncancelled, decide_eq_true timely] at lapsed
        cases lapsed
      have after : (control.attend peers).decayUnlessCommanded (intervalSeconds interval) =
          { control.attend peers with
            setpoints :=
              ⟨towardsZero control.setpoints.velocity
                  (control.config.velocityDeceleration * intervalSeconds interval),
                towardsZero control.setpoints.yawRate
                  (control.config.yawDeceleration * intervalSeconds interval)⟩ } := if_neg decays
      rw [after, law, configured, Session.law, Session.law, held]
      dsimp only
      rw [towardsZero_decayed _ _ velocityStep, towardsZero_decayed _ _ yawStep, ← mul_add,
        ← mul_add, decayTime_snoc]

variable [ControlStrategy S F] [WheelOdometry σ F]

/-- A governed control keeps to the law where its event does. -/
theorem Governed.lawful (nonnegative : config.NonNegative)
    {before after : BalanceControlImpl F S σ × Session F} {event : σ × Request F}
    (governed : Governed config after)
    (refused : ∀ commanded, event.2 = .move commanded →
      ((before.1.attend event.1).move commanded).1 = false → after.1 = before.1.attend event.1)
    (steered : ∀ interval, event.2 = .steer interval → before.1.engaged = true →
      (∀ commanded given, before.2.command = some (commanded, given) →
        before.2.cancelled = false → Clock.now event.1 - given ≤ config.commandTimeout →
        after.1 = (before.1.attend event.1).update (ControlStrategy.steer before.1.strategy commanded
          (WheelOdometry.chassis event.1) (intervalSeconds interval)) ∧
        after.1.setpoints = commanded) ∧
      (before.2.decays ≠ [] → after.2.decays = before.2.decays ++ [interval])) :
    Lawful config before after event where
  bounded := governed.bounded nonnegative
  idle := by
    intro disengaged
    exact governed.setpoints_none (governed.idle disengaged)
  refused := refused
  held := by
    intro interval commanded given steers engaged
    exact (steered interval steers engaged).1 commanded given
  decayed := governed.law
  continued := by
    intro interval steers engaged
    exact (steered interval steers engaged).2

/-- An outer iteration only has to pass a held command on and to go on with a decay. -/
theorem Governed.lawful_steer (nonnegative : config.NonNegative)
    {before after : BalanceControlImpl F S σ × Session F} {interval : Duration}
    (governed : Governed config after)
    (held : before.1.engaged = true → ∀ commanded given,
      before.2.command = some (commanded, given) → before.2.cancelled = false →
      Clock.now peers - given ≤ config.commandTimeout →
      after.1 = (before.1.attend peers).update (ControlStrategy.steer before.1.strategy commanded
        (WheelOdometry.chassis peers) (intervalSeconds interval)) ∧
      after.1.setpoints = commanded)
    (continued : before.1.engaged = true → before.2.decays ≠ [] →
      after.2.decays = before.2.decays ++ [interval]) :
    Lawful config before after (peers, .steer interval) := by
  apply governed.lawful nonnegative
  · intro _ moves
    cases moves
  · intro again same engaged
    obtain rfl := Request.steer.inj same
    exact ⟨held engaged, continued engaged⟩

/-- Every operation but a command of motion and an outer iteration only has to be governed. -/
theorem Governed.lawful_other (nonnegative : config.NonNegative)
    {before after : BalanceControlImpl F S σ × Session F} {event : σ × Request F}
    (governed : Governed config after) (unmoved : ∀ commanded, event.2 ≠ .move commanded)
    (unsteered : ∀ interval, event.2 ≠ .steer interval) : Lawful config before after event := by
  apply governed.lawful nonnegative
  · intro commanded moves
    exact absurd moves (unmoved commanded)
  · intro interval steers
    exact absurd steers (unsteered interval)

omit [IsStrictOrderedRing F] in
/-- An engaged outer iteration steers by the setpoints that the decay leaves. -/
theorem steer_engaged_eq (control : BalanceControlImpl F S σ) (engaged : control.engaged = true)
    (interval : Duration) :
    control.steer interval =
      let decayed := control.decayUnlessCommanded (intervalSeconds interval)
      decayed.update (ControlStrategy.steer decayed.strategy decayed.setpoints
        (WheelOdometry.chassis decayed.peers) (intervalSeconds interval)) := by
  unfold steer
  rw [engaged]
  rfl

/-- An outer iteration without an engagement does nothing. -/
theorem Governed.steered_idle (nonnegative : config.NonNegative)
    (governed : Governed config (control, session)) (interval : Duration)
    (ordered : ∀ clock, session.clock = some clock → clock ≤ Clock.now peers)
    (disengaged : control.engaged = false) :
    let next := (control.attend peers).steer interval
    let later := session.observe control (peers, .steer interval) next
    Governed config (next, later) ∧ Lawful config (control, session) (next, later)
      (peers, .steer interval) := by
  intro next later
  have same : next = control.attend peers := by
    show steer _ _ = _
    unfold steer
    rw [show (control.attend peers).engaged = false from disengaged]
    rfl
  have seen : later = { session with clock := some (Clock.now peers) } := by
    show Session.observe _ _ _ _ = _
    rw [Session.observe_steer, disengaged]
    rfl
  have kept : Governed config (next, later) := by
    rw [same, seen]
    exact governed.framed (control.attend_command peers) ordered
  have idle : ¬ control.engaged = true := Bool.eq_false_iff.mp disengaged
  constructor
  · exact kept
  · apply kept.lawful_steer nonnegative
    · intro engaged
      exact absurd engaged idle
    · intro engaged
      exact absurd engaged idle

/-- An outer iteration passes a held command on. -/
theorem Governed.steered_held (nonnegative : config.NonNegative)
    (governed : Governed config (control, session)) (interval : Duration)
    (ordered : ∀ clock, session.clock = some clock → clock ≤ Clock.now peers)
    (engaged : control.engaged = true) (holds : session.holds config (Clock.now peers) = true) :
    let next := (control.attend peers).steer interval
    let later := session.observe control (peers, .steer interval) next
    Governed config (next, later) ∧ Lawful config (control, session) (next, later)
      (peers, .steer interval) := by
  intro next later
  have configured : control.config = config := governed.configured
  have passed : next = (control.attend peers).update (ControlStrategy.steer control.strategy
      control.setpoints (WheelOdometry.chassis peers) (intervalSeconds interval)) := by
    show steer _ _ = _
    rw [steer_engaged_eq (control.attend peers) engaged, governed.decay_held _ holds]
    rfl
  have seen : later = { session with clock := some (Clock.now peers) } := by
    show Session.observe _ _ _ _ = _
    rw [Session.observe_steer, engaged, configured, holds]
    rfl
  have kept : Governed config (next, later) := by
    rw [passed, seen]
    exact governed.framed ((control.attend_command peers).trans (update_command _ _)) ordered
  constructor
  · exact kept
  · apply kept.lawful_steer nonnegative
    · intro _ commanded given held _ _
      obtain rfl : control.setpoints = commanded := governed.setpoints_held ordered held holds
      have setpoints : next.setpoints = control.setpoints := by
        rw [passed]
        rfl
      exact ⟨passed, setpoints⟩
    · intro _ begun
      rw [governed.not_holds ordered begun] at holds
      cases holds

/-- An outer iteration decays a command that is not held. -/
theorem Governed.steered_lapsed (nonnegative : config.NonNegative)
    (governed : Governed config (control, session)) (interval : Duration)
    (engaged : control.engaged = true) (lapsed : session.holds config (Clock.now peers) = false) :
    let next := (control.attend peers).steer interval
    let later := session.observe control (peers, .steer interval) next
    Governed config (next, later) ∧ Lawful config (control, session) (next, later)
      (peers, .steer interval) := by
  intro next later
  have configured : control.config = config := governed.configured
  have setpoints := governed.decay_lapsed nonnegative interval lapsed
  obtain ⟨sameConfig, stillEngaged, commandedAt, cancelled⟩ :=
    (control.attend peers).decay_command (intervalSeconds interval)
  have passed : next = _ := (control.attend peers).steer_engaged_eq engaged interval
  have seen : later = { session with
      clock := some (Clock.now peers)
      decays := session.decays ++ [interval] } := by
    show Session.observe _ _ _ _ = _
    rw [Session.observe_steer, engaged, configured, lapsed]
    rfl
  have kept : Governed config (next, later) := by
    rw [passed, seen]
    constructor
    · exact sameConfig.trans configured
    · intro disengaged
      have contradiction : false = true := disengaged.symm.trans (stillEngaged.trans engaged)
      cases contradiction
    · exact setpoints
    · intro commanded given held
      obtain ⟨bounded, at_, same⟩ := governed.command commanded given held
      exact ⟨bounded, commandedAt.trans at_, cancelled.trans same⟩
    · intro commanded given held _
      cases early : session.cancelled with
      | true => exact .inl rfl
      | false =>
          right
          use Clock.now peers, rfl
          by_contra timely
          have again : session.holds config (Clock.now peers) = true :=
            Session.holds_of held early (not_lt.mp timely)
          rw [lapsed] at again
          cases again
  constructor
  · exact kept
  · apply kept.lawful_steer nonnegative
    · intro _ commanded given held uncancelled timely
      have again : session.holds config (Clock.now peers) = true :=
        Session.holds_of held uncancelled timely
      rw [lapsed] at again
      cases again
    · intro _ _
      rw [seen]

/-- A command of motion is accepted where it is bounded, and then replaces the one before it. -/
theorem Governed.moved (nonnegative : config.NonNegative)
    (governed : Governed config (control, session)) (commanded : Setpoints F)
    (ordered : ∀ clock, session.clock = some clock → clock ≤ Clock.now peers) :
    let next := ((control.attend peers).move commanded).2
    let later := session.observe control (peers, .move commanded) next
    Governed config (next, later) ∧ Lawful config (control, session) (next, later)
      (peers, .move commanded) := by
  intro next later
  have configured : control.config = config := governed.configured
  have seen : later = _ := session.observe_move control next peers commanded
  have kept : Governed config (next, later) := by
    rcases (control.attend peers).move_cases commanded with refused | ⟨within, accepted⟩
    · have same : next = control.attend peers := congrArg Prod.snd refused
      rw [refused] at seen
      rw [same, seen]
      exact governed.framed (control.attend_command peers) ordered
    · have replaced : next = _ := congrArg Prod.snd accepted
      rw [accepted] at seen
      rw [replaced, seen]
      obtain ⟨engaged, velocity, yawRate⟩ := within
      rw [fabs_eq_abs] at velocity yawRate
      constructor
      · exact configured
      · intro disengaged
        have contradiction : false = true := disengaged.symm.trans engaged
        cases contradiction
      · show commanded = (⟨decayed _ (_ * decayTime []), decayed _ (_ * decayTime [])⟩ : Setpoints F)
        rw [decayTime_nil, mul_zero, mul_zero, decayed_nothing, decayed_nothing]
      · intro again given held
        obtain ⟨rfl, rfl⟩ := Prod.mk.inj (Option.some.inj held)
        exact ⟨configured ▸ ⟨velocity, yawRate⟩, rfl, rfl⟩
      · intro _ _ _ begun
        exact absurd rfl begun
  constructor
  · exact kept
  · apply kept.lawful nonnegative
    · intro again same refused
      obtain rfl := Request.move.inj same
      exact move_refused (Prod.ext refused rfl)
    · intro _ steers
      cases steers

omit [Clock σ] [IsStrictOrderedRing F] [ControlStrategy S F] [WheelOdometry σ F] in
/-- An engagement and a disengagement leave no command. -/
theorem Governed.uncommanded (next : BalanceControlImpl F S σ) (now : Option TimePoint)
    (configured : next.config = config) (still : next.setpoints = noSetpoints) :
    Governed config (next, ⟨none, false, [], now⟩) where
  configured := configured
  idle := fun _ => rfl
  law := still
  command := by
    intro _ _ held
    cases held
  begun := by
    intro _ _ held
    cases held

omit [Clock σ] [IsStrictOrderedRing F] [ControlStrategy S F] [WheelOdometry σ F] in
/-- A cancellation keeps the command, which decays from then on. -/
theorem Governed.cancelled (governed : Governed config (control, session)) (peers : σ)
    (now : Option TimePoint) :
    Governed config ((control.attend peers).cancelMotion,
      { session with clock := now, cancelled := true }) where
  configured := governed.configured
  idle := governed.idle
  law := governed.law
  command := by
    intro commanded given held
    obtain ⟨bounded, commandedAt, -⟩ := governed.command commanded given held
    exact ⟨bounded, commandedAt, rfl⟩
  begun := by
    intro _ _ _ _
    exact .inl rfl

variable [MotionActuation σ F]

/-- Every operation in order keeps to the law. -/
theorem Governed.kept (nonnegative : config.NonNegative)
    {before after : BalanceControlImpl F S σ × Session F} {event : σ × Request F}
    (governed : Governed config before) (ordered : InOrder before event)
    (stepped : (machine.observed Session.observe).step before event = some after) :
    Governed config after ∧ Lawful config before after event := by
  obtain ⟨control, session⟩ := before
  obtain ⟨next, later⟩ := after
  obtain ⟨peers, request⟩ := event
  obtain ⟨answered, rfl⟩ := observed_step.mp stepped
  obtain ⟨accepted, performed⟩ := step_iff.mp answered
  have attended := control.attend_command peers
  cases request with
  | move commanded =>
      have moved : ((control.attend peers).move commanded).2 = next :=
        congrArg Prod.snd (Option.some.inj performed)
      rw [← moved]
      exact governed.moved nonnegative commanded ordered
  | steer interval =>
      obtain ⟨-, rfl⟩ := Prod.mk.inj (Option.some.inj performed)
      cases engaged : control.engaged with
      | false => exact governed.steered_idle nonnegative interval ordered engaged
      | true =>
          cases holds : session.holds config (Clock.now peers) with
          | true => exact governed.steered_held nonnegative interval ordered engaged holds
          | false => exact governed.steered_lapsed nonnegative interval engaged holds
  | engage =>
      obtain ⟨-, rfl⟩ := Prod.mk.inj (Option.some.inj performed)
      have kept := Governed.uncommanded (control.attend peers).engage (some (Clock.now peers))
        governed.configured rfl
      exact ⟨kept, kept.lawful_other nonnegative (by simp) (by simp)⟩
  | disengage =>
      obtain ⟨-, rfl⟩ := Prod.mk.inj (Option.some.inj performed)
      have kept := Governed.uncommanded (control.attend peers).disengage (some (Clock.now peers))
        governed.configured rfl
      exact ⟨kept, kept.lawful_other nonnegative (by simp) (by simp)⟩
  | cancelMotion =>
      obtain ⟨-, rfl⟩ := Prod.mk.inj (Option.some.inj performed)
      have kept := governed.cancelled peers (some (Clock.now peers))
      exact ⟨kept, kept.lawful_other nonnegative (by simp) (by simp)⟩
  | select index =>
      have selected : ((control.attend peers).select index).2 = next :=
        congrArg Prod.snd (Option.some.inj performed)
      have kept := governed.framed (attended.trans (select_command _ index)) ordered
      rw [← selected]
      exact ⟨kept, kept.lawful_other nonnegative (by simp) (by simp)⟩
  | setParameter index value =>
      have kept := governed.framed (attended.trans (setParameter_command performed)) ordered
      exact ⟨kept, kept.lawful_other nonnegative (by simp) (by simp)⟩
  | balance estimate interval =>
      obtain ⟨-, rfl⟩ := Prod.mk.inj (Option.some.inj performed)
      have kept := governed.framed (attended.trans (balance_command _ estimate interval)) ordered
      exact ⟨kept, kept.lawful_other nonnegative (by simp) (by simp)⟩

omit [IsStrictOrderedRing F] in
/-- Only a parameter write may stop the firmware. -/
theorem observed_answers (state : BalanceControlImpl F S σ × Session F) (event : σ × Request F) :
    (∃ next, (machine.observed Session.observe).step state event = some next) ∨
      ∃ index value, event.2 = .setParameter index value := by
  obtain ⟨control, session⟩ := state
  obtain ⟨peers, request⟩ := event
  cases request with
  | setParameter index value => exact .inr ⟨index, value, rfl⟩
  | engage | disengage | select | balance | steer | move | cancelMotion => exact .inl ⟨_, rfl⟩

omit [IsStrictOrderedRing F] in
/-- Operations at times that do not decrease come in order. -/
theorem inOrder_along {state : BalanceControlImpl F S σ × Session F} {events : List (σ × Request F)}
    (ordered : (events.map fun event => Clock.now event.1).IsChain (· ≤ ·))
    (onward : ∀ clock, state.2.clock = some clock →
      (clock :: events.map fun event => Clock.now event.1).IsChain (· ≤ ·)) :
    (machine.observed Session.observe).Along InOrder state events := by
  induction events generalizing state with
  | nil => trivial
  | cons event rest ih =>
      constructor
      · intro clock seen
        exact (List.isChain_cons_cons.mp (onward clock seen)).1
      · intro next stepped
        apply ih ordered.tail
        intro clock seen
        have now : next.2.clock = some (Clock.now event.1) := by
          obtain ⟨-, observed⟩ := observed_step.mp stepped
          rw [observed, Session.observe_clock]
        obtain rfl := Option.some.inj (seen.symm.trans now)
        exact ordered

omit [Clock σ] [IsStrictOrderedRing F] [ControlStrategy S F] [WheelOdometry σ F]
  [MotionActuation σ F] in
/-- A new control has no command to decay. -/
theorem construct_governed {strategies : List S} {start : BalanceControlImpl F S σ}
    (constructed : construct strategies peers config = some start) :
    Governed config (start, Session.fresh) := by
  unfold construct at constructed
  split at constructed
  · obtain rfl := Option.some.inj constructed
    exact Governed.uncommanded _ none rfl rfl
  · cases constructed

/-- Over operations in the order of time, the setpoints keep within their limits and are zero without
an engagement, a refused command changes nothing, an accepted one is passed on until it is cancelled
or late, and from then on it decays by the total time alone. -/
theorem setpoints_obey_dead_man {strategies : List S} {start : BalanceControlImpl F S σ}
    (constructed : construct strategies peers config = some start)
    (nonnegative : config.NonNegative) {events : List (σ × Request F)}
    (ordered : (events.map fun event => Clock.now event.1).IsChain (· ≤ ·)) :
    (machine.observed Session.observe).Along (fun state event =>
        ((∃ next, (machine.observed Session.observe).step state event = some next) ∨
          ∃ index value, event.2 = .setParameter index value) ∧
        ∀ next, (machine.observed Session.observe).step state event = some next →
          Lawful config state next event) (start, .fresh) events ∧
      ∀ final, (machine.observed Session.observe).run (start, .fresh) events = some final →
        Bounded config final.1.setpoints ∧
        (final.1.engaged = false → final.1.setpoints = noSetpoints) ∧
        final.1.setpoints = final.2.law config := by
  have initially := construct_governed constructed
  have inOrder : (machine.observed Session.observe).Along InOrder (start, Session.fresh) events := by
    apply inOrder_along ordered
    intro clock seen
    cases seen
  have kept : ∀ (state : BalanceControlImpl F S σ × Session F) (event : σ × Request F) next,
      Governed config state → InOrder state event →
      (machine.observed Session.observe).step state event = some next →
      Governed config next := by
    intro state event next governed inOrder stepped
    exact (governed.kept nonnegative inOrder stepped).1
  constructor
  · apply along_of kept _ initially inOrder
    intro state event governed inOrder
    constructor
    · exact observed_answers state event
    · intro next stepped
      exact (governed.kept nonnegative inOrder stepped).2
  · intro final ran
    have governed := run_invariant_along kept initially inOrder ran
    refine ⟨governed.bounded nonnegative, ?_, governed.law⟩
    intro disengaged
    exact governed.setpoints_none (governed.idle disengaged)

end Steering

/-- An engagement during a decay leaves nothing of the command that decayed. -/
theorem engaging_again_ends_decay :
    let bench : Bench ℚ := ⟨⟨0, 0⟩, 0, []⟩
    let config : Config ℚ := .default
    let decaying : List (Bench ℚ × Request ℚ) :=
      [(bench, .engage), (bench, .move ⟨1, 0⟩), (bench, .cancelMotion),
        (bench, .steer (milliseconds 100))]
    let again : List (Bench ℚ × Request ℚ) :=
      [(bench, .engage), (bench, .steer (milliseconds 100))]
    ∃ start middle final : BalanceControlImpl ℚ
        (HostedStrategy (GainRow ℚ) (VelocityPid ℚ) ℚ) (Bench ℚ),
      construct (hosted .default .default) bench config = some start ∧
        machine.run start decaying = some middle ∧
        middle.setpoints.velocity =
          decayed 1 (config.velocityDeceleration * decayTime [milliseconds 100]) ∧
        machine.run middle again = some final ∧
        final.setpoints.velocity ≠ decayed 1
          (config.velocityDeceleration * decayTime [milliseconds 100, milliseconds 100]) := by
  intro bench config decaying again
  refine ⟨_, _, _, rfl, rfl, ?_, rfl, ?_⟩
  · decide +kernel
  · decide +kernel

/-- A command that nobody renews is held for its timeout, and decays after it. -/
theorem setpoints_obey_dead_man_late :
    let moment (count : Int) : Bench ℚ := ⟨⟨0, 0⟩, milliseconds count, []⟩
    let config : Config ℚ := .default
    let events : List (Bench ℚ × Request ℚ) :=
      [(moment 0, .engage), (moment 0, .move ⟨1 / 2, -1 / 10⟩), (moment 500, .steer (milliseconds 20)),
        (moment 520, .steer (milliseconds 20)), (moment 560, .steer (milliseconds 40))]
    ∃ start final : BalanceControlImpl ℚ (HostedStrategy (GainRow ℚ) (VelocityPid ℚ) ℚ) (Bench ℚ),
      ∃ session, construct (hosted .default .default) (moment 0) config = some start ∧
        (machine.observed Session.observe).run (start, .fresh) events = some (final, session) ∧
        session.decays = [milliseconds 20, milliseconds 40] ∧
        final.setpoints = session.law config ∧ final.setpoints ≠ noSetpoints := by
  intro moment config events
  let built : Option (BalanceControlImpl ℚ (HostedStrategy (GainRow ℚ) (VelocityPid ℚ) ℚ) (Bench ℚ)) :=
    construct (hosted .default .default) (moment 0) config
  have evaluated : (built.bind fun start =>
      (machine.observed Session.observe).run (start, .fresh) events).any (fun final =>
        final.2.decays = [milliseconds 20, milliseconds 40] ∧
          final.1.setpoints ≠ noSetpoints) = true := by
    decide +kernel
  obtain ⟨⟨final, session⟩, ran, ends⟩ := (Option.any_eq_true _ _).mp evaluated
  obtain ⟨start, constructed, ran⟩ := Option.bind_eq_some_iff.mp ran
  obtain ⟨decays, moving⟩ := of_decide_eq_true ends
  have nonnegative : config.NonNegative := by
    constructor <;> decide +kernel
  have ordered : (events.map fun event => Clock.now event.1).IsChain (· ≤ ·) := by decide
  have lawful := setpoints_obey_dead_man constructed nonnegative ordered
  exact ⟨start, final, session, constructed, ran, decays, (lawful.2 _ ran).2.2, moving⟩

end BalanceControlImpl
end InvertedPendulum.Balance
