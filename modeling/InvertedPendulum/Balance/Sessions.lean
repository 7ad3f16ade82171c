import InvertedPendulum.Balance.Configuration
import InvertedPendulum.Balance.StrategySession

namespace InvertedPendulum.Balance
open Estimation Motion Odometry Control Reactive Machine

/-- A session consists of these requests. -/
def Request.InSession {F : Type} : Request F → Prop
  | .move _ | .cancelMotion | .balance _ _ | .steer _ => True
  | .engage | .disengage | .select _ | .setParameter _ _ => False

/-- An operation shows its answer, the efforts that it applied and the effort that it reports. -/
structure Observation (F : Type) where
  accepted : Bool
  efforts : List (Effort F)
  applied : Effort F
  deriving DecidableEq

namespace BalanceControlImpl
variable {F S σ : Type} [FloatArithmetic F] [ControlStrategy S F]

/-- The transcript of some operations shows what each of them shows. -/
def transcript (control : BalanceControlImpl F S (Bench F)) :
    List (Bench F × Request F) → List (Observation F)
  | [] => []
  | event :: rest =>
      match (control.attend event.1).perform event.2 with
      | none => []
      | some (accepted, next) =>
          ⟨accepted, next.peers.efforts, next.applied⟩ :: next.transcript rest

section Everywhere
omit [FloatArithmetic F] [ControlStrategy S F]

/-- Every strategy has the property of its index. -/
def Everywhere (holds : Nat → S → Prop) (control : BalanceControlImpl F S σ) : Prop :=
  ∀ index strategy, control.strategies[index]? = some strategy → holds index strategy

/-- The active strategy has the property of the active index. -/
theorem Everywhere.active {holds : Nat → S → Prop} {control : BalanceControlImpl F S σ}
    (everywhere : control.Everywhere holds) : holds control.active control.strategy :=
  everywhere control.active control.strategy (List.getElem?_eq_getElem control.activeInRange)

/-- A call that keeps the property of the active strategy keeps it everywhere. -/
theorem Everywhere.update {holds : Nat → S → Prop} {control : BalanceControlImpl F S σ}
    (everywhere : control.Everywhere holds) {strategy : S} (kept : holds control.active strategy) :
    (control.update strategy).Everywhere holds := by
  intro index found listed
  change (control.strategies.set control.active strategy)[index]? = some found at listed
  rw [List.getElem?_set] at listed
  split at listed
  · rename_i addressed
    split at listed
    · obtain rfl := Option.some.inj listed
      rwa [← addressed]
    · cases listed
  · exact everywhere index found listed

end Everywhere

section Runs
variable [MotionActuation σ F] [WheelOdometry σ F] [Clock σ]

/-- No request breaks a property that no call on a strategy breaks. -/
theorem perform_everywhere {holds : Nat → S → Prop} (preserved : ∀ index, Preserved (holds index))
    {before after : BalanceControlImpl F S σ} {request : Request F} {accepted : Bool}
    (everywhere : before.Everywhere holds)
    (performed : before.perform request = some (accepted, after)) : after.Everywhere holds := by
  have active := everywhere.active
  cases request with
  | engage =>
      obtain ⟨-, rfl⟩ := Prod.mk.inj (Option.some.inj performed)
      exact everywhere.update ((preserved _).reset _ active)
  | select index =>
      cases accepted with
      | false => rwa [select_refused (Option.some.inj performed)]
      | true =>
          obtain ⟨-, -, -, strategies⟩ := select_accepted (Option.some.inj performed)
          unfold Everywhere
          rwa [strategies]
  | setParameter index value =>
      cases accepted with
      | false => rwa [setParameter_refused performed]
      | true =>
          obtain ⟨-, descriptor, written, -, -, -, stored, rfl⟩ := setParameter_accepted performed
          exact everywhere.update ((preserved _).setParameter _ _ _ _ active stored)
  | balance estimate interval =>
      obtain ⟨-, rfl⟩ := Prod.mk.inj (Option.some.inj performed)
      simp only [balance]
      split
      · exact everywhere
      · split
        · exact everywhere
        · apply everywhere.update
          have balanced := (preserved _).balance _ estimate (intervalSeconds interval) active
          split
          · exact (preserved _).saturated _ _ balanced
          · exact balanced
  | steer interval =>
      obtain ⟨-, rfl⟩ := Prod.mk.inj (Option.some.inj performed)
      simp only [steer]
      split
      · exact everywhere
      · have decayed : (before.decayUnlessCommanded (intervalSeconds interval)).Everywhere holds := by
          unfold decayUnlessCommanded
          split <;> exact everywhere
        exact decayed.update ((preserved _).steer _ _ _ _ decayed.active)
  | move setpoints =>
      have moved : (before.move setpoints).2 = after := congrArg Prod.snd (Option.some.inj performed)
      rw [← moved]
      rcases before.move_cases setpoints with refused | ⟨-, accepted⟩
      · rw [refused]
        exact everywhere
      · rw [accepted]
        exact everywhere
  | disengage | cancelMotion =>
      obtain ⟨-, rfl⟩ := Prod.mk.inj (Option.some.inj performed)
      exact everywhere

/-- No request changes the configuration that the control was built with. -/
theorem perform_config {before after : BalanceControlImpl F S σ} {request : Request F}
    {accepted : Bool} (performed : before.perform request = some (accepted, after)) :
    after.config = before.config := by
  cases request with
  | setParameter index value =>
      cases accepted with
      | false => rw [setParameter_refused performed]
      | true =>
          obtain ⟨-, descriptor, written, -, -, -, -, rfl⟩ := setParameter_accepted performed
          rfl
  | engage | disengage | cancelMotion =>
      obtain ⟨-, rfl⟩ := Prod.mk.inj (Option.some.inj performed)
      rfl
  | select | balance | steer | move =>
      have answered : _ = after := congrArg Prod.snd (Option.some.inj performed)
      rw [← answered]
      simp only [select, balance, steer, decayUnlessCommanded, move]
      split_ifs <;> rfl

/-- A control that is not engaged reports no effort. -/
def Rested (control : BalanceControlImpl F S σ) : Prop :=
  control.engaged = false → control.applied = noEffort

/-- No request leaves an effort behind a disengaged control. -/
theorem perform_rested {before after : BalanceControlImpl F S σ} {request : Request F}
    {accepted : Bool} (rested : before.Rested)
    (performed : before.perform request = some (accepted, after)) : after.Rested := by
  cases request with
  | engage =>
      obtain ⟨-, rfl⟩ := Prod.mk.inj (Option.some.inj performed)
      intro disengaged
      cases disengaged
  | disengage =>
      obtain ⟨-, rfl⟩ := Prod.mk.inj (Option.some.inj performed)
      exact fun _ => rfl
  | select index =>
      have selected : (before.select index).2 = after := congrArg Prod.snd (Option.some.inj performed)
      rw [← selected]
      unfold select
      split <;> exact rested
  | setParameter index value =>
      cases accepted with
      | false => rwa [setParameter_refused performed]
      | true =>
          obtain ⟨-, descriptor, written, -, -, -, -, rfl⟩ := setParameter_accepted performed
          exact rested
  | balance estimate interval =>
      obtain ⟨-, rfl⟩ := Prod.mk.inj (Option.some.inj performed)
      intro disengaged
      rw [balance_engaged] at disengaged
      simp only [balance, disengaged, Bool.not_false, if_true]
      exact rested disengaged
  | steer interval =>
      obtain ⟨-, rfl⟩ := Prod.mk.inj (Option.some.inj performed)
      intro disengaged
      rw [steer_engaged] at disengaged
      simp only [steer, disengaged, Bool.not_false, if_true]
      exact rested disengaged
  | move setpoints =>
      have moved : (before.move setpoints).2 = after := congrArg Prod.snd (Option.some.inj performed)
      rw [← moved]
      rcases before.move_cases setpoints with refused | ⟨-, accepted⟩
      · rw [refused]
        exact rested
      · rw [accepted]
        exact rested
  | cancelMotion =>
      obtain ⟨-, rfl⟩ := Prod.mk.inj (Option.some.inj performed)
      exact rested

end Runs

section Session
variable {R P : Type} [IncrementalPid P F] [IncrementalPidState P] [Clock σ]

/-- Two controls answer a session alike when they differ only in what no request of it reads. -/
structure Alike (first second : BalanceControlImpl F (HostedStrategy R P F) σ) : Prop where
  strategy : first.strategy.Alike second.strategy
  config : first.config = second.config
  engaged : first.engaged = second.engaged
  setpoints : first.setpoints = second.setpoints
  cancelled : first.cancelled = second.cancelled
  commandedAt : first.cancelled = false → first.commandedAt = second.commandedAt
  applied : first.applied = second.applied

/-- A motion command is answered alike. -/
theorem Alike.move {first second : BalanceControlImpl F (HostedStrategy R P F) σ}
    (alike : first.Alike second) (peers : first.peers = second.peers) (commanded : Setpoints F) :
    (first.move commanded).1 = (second.move commanded).1 ∧
      (first.move commanded).2.peers = (second.move commanded).2.peers ∧
      (first.move commanded).2.Alike (second.move commanded).2 := by
  simp only [BalanceControlImpl.move, alike.engaged, alike.config, peers]
  split
  · exact ⟨rfl, peers, alike⟩
  · exact ⟨rfl, rfl, alike.strategy, rfl, rfl, rfl, rfl, fun _ => rfl, alike.applied⟩

/-- Setpoints decay alike. -/
theorem Alike.decay {first second : BalanceControlImpl F (HostedStrategy R P F) σ}
    (alike : first.Alike second) (peers : first.peers = second.peers) (intervalSeconds : F) :
    (first.decayUnlessCommanded intervalSeconds).peers =
        (second.decayUnlessCommanded intervalSeconds).peers ∧
      (first.decayUnlessCommanded intervalSeconds).Alike
        (second.decayUnlessCommanded intervalSeconds) := by
  have stamps : (! first.cancelled ∧ Clock.now first.peers - first.commandedAt ≤
        first.config.commandTimeout) ↔
      (! second.cancelled ∧ Clock.now second.peers - second.commandedAt ≤
        second.config.commandTimeout) := by
    rw [← alike.cancelled, ← alike.config, ← peers]
    apply and_congr_right
    intro uncancelled
    rw [alike.commandedAt (by simpa using uncancelled)]
  unfold decayUnlessCommanded
  by_cases commanded : ! first.cancelled ∧ Clock.now first.peers - first.commandedAt ≤
      first.config.commandTimeout
  · rw [if_pos commanded, if_pos (stamps.mp commanded)]
    exact ⟨peers, alike⟩
  · rw [if_neg commanded, if_neg (mt stamps.mpr commanded)]
    refine ⟨peers, alike.strategy, alike.config, alike.engaged, ?_, alike.cancelled,
      alike.commandedAt, alike.applied⟩
    simp only [alike.setpoints, alike.config]

variable [Regulator R F] [WheelOdometry σ F]

/-- An outer iteration keeps two controls alike. -/
theorem Alike.steer {first second : BalanceControlImpl F (HostedStrategy R P F) σ}
    (alike : first.Alike second) (peers : first.peers = second.peers) (interval : Duration) :
    (first.steer interval).peers = (second.steer interval).peers ∧
      (first.steer interval).Alike (second.steer interval) := by
  obtain ⟨samePeers, decayed⟩ := alike.decay peers (intervalSeconds interval)
  simp only [BalanceControlImpl.steer, alike.engaged]
  split
  · exact ⟨peers, alike⟩
  · refine ⟨samePeers, ?_, decayed.config, decayed.engaged, decayed.setpoints, decayed.cancelled,
      decayed.commandedAt, decayed.applied⟩
    rw [update_strategy, update_strategy, decayed.setpoints, samePeers]
    exact decayed.strategy.steer _ _ _

variable [MotionActuation σ F]

omit [Clock σ] [WheelOdometry σ F] in
/-- A balance iteration applies the same efforts and keeps two controls alike. -/
theorem Alike.balance {first second : BalanceControlImpl F (HostedStrategy R P F) σ}
    (alike : first.Alike second) (peers : first.peers = second.peers) (estimate : Estimate F)
    (interval : Duration) :
    (first.balance estimate interval).peers = (second.balance estimate interval).peers ∧
      (first.balance estimate interval).Alike (second.balance estimate interval) := by
  obtain ⟨effort, balanced, saturated⟩ := alike.strategy.balance estimate (intervalSeconds interval)
  simp only [BalanceControlImpl.balance, alike.engaged]
  split
  · exact ⟨peers, alike⟩
  · split
    · exact ⟨by rw [peers], alike.strategy, alike.config, rfl, alike.setpoints, alike.cancelled,
        alike.commandedAt, rfl⟩
    · rw [effort]
      refine ⟨by rw [peers], ?_, alike.config, alike.engaged, alike.setpoints, alike.cancelled,
        alike.commandedAt, rfl⟩
      change (BalanceControlImpl.update first _).strategy.Alike
        (BalanceControlImpl.update second _).strategy
      rw [update_strategy, update_strategy]
      split
      · exact saturated _
      · exact balanced

/-- A request of a session is answered alike and keeps two controls alike. -/
theorem Alike.perform {first second : BalanceControlImpl F (HostedStrategy R P F) σ}
    (alike : first.Alike second) (peers : first.peers = second.peers) {request : Request F}
    (inSession : request.InSession) :
    ∃ accepted firstNext secondNext, first.perform request = some (accepted, firstNext) ∧
      second.perform request = some (accepted, secondNext) ∧
      firstNext.peers = secondNext.peers ∧ firstNext.Alike secondNext := by
  cases request with
  | move setpoints =>
      obtain ⟨answer, samePeers, still⟩ := alike.move peers setpoints
      refine ⟨(first.move setpoints).1, (first.move setpoints).2, (second.move setpoints).2, rfl, ?_,
        samePeers, still⟩
      rw [answer]
      rfl
  | cancelMotion =>
      exact ⟨true, _, _, rfl, rfl, peers, alike.strategy, alike.config, alike.engaged,
        alike.setpoints, rfl, fun uncancelled => absurd uncancelled (by simp [BalanceControlImpl.cancelMotion]),
        alike.applied⟩
  | balance estimate interval =>
      exact ⟨true, _, _, rfl, rfl, alike.balance peers estimate interval⟩
  | steer interval => exact ⟨true, _, _, rfl, rfl, alike.steer peers interval⟩
  | engage | disengage | select | setParameter => exact absurd inSession (by simp [Request.InSession])

omit [Clock σ] [WheelOdometry σ F] [MotionActuation σ F] in
/-- Controls on the same frame with the same gains and without effort are alike once engaged. -/
theorem engage_alike {frame : Frame F} {first second : BalanceControlImpl F (HostedStrategy R P F) σ}
    (firstBuilt : first.strategy.BuiltOn frame) (secondBuilt : second.strategy.BuiltOn frame)
    (gains : ControlStrategy.parameter first.strategy = ControlStrategy.parameter second.strategy)
    (config : first.config = second.config) (applied : first.applied = second.applied) :
    first.engage.Alike second.engage := by
  refine ⟨?_, config, rfl, rfl, rfl, fun uncancelled => absurd uncancelled (by simp [engage, update]),
    applied⟩
  change (BalanceControlImpl.update _ (ControlStrategy.reset first.strategy)).strategy.Alike
    (BalanceControlImpl.update _ (ControlStrategy.reset second.strategy)).strategy
  rw [update_strategy, update_strategy]
  exact HostedStrategy.reset_alike firstBuilt secondBuilt gains

/-- A reachable control keeps what its construction fixed and rests while it is disengaged. -/
def Inherits (start : BalanceControlImpl F (HostedStrategy R P F) σ) (frames : Nat → Frame F)
    (control : BalanceControlImpl F (HostedStrategy R P F) σ) : Prop :=
  control.Everywhere (fun index => HostedStrategy.BuiltOn (frames index)) ∧ control.Rested ∧
    control.config = start.config

/-- A step of the machine keeps the inheritance. -/
theorem inherits_kept (start : BalanceControlImpl F (HostedStrategy R P F) σ) (frames : Nat → Frame F)
    (control : BalanceControlImpl F (HostedStrategy R P F) σ) (event : σ × Request F)
    (next : BalanceControlImpl F (HostedStrategy R P F) σ) (inherits : Inherits start frames control)
    (stepped : machine.step control event = some next) : Inherits start frames next := by
  obtain ⟨built, rested, config⟩ := inherits
  obtain ⟨accepted, performed⟩ := step_iff.mp stepped
  have attended : (control.attend event.1).Everywhere
      (fun index => HostedStrategy.BuiltOn (frames index)) := built
  have resting : (control.attend event.1).Rested := rested
  exact ⟨perform_everywhere (fun index => HostedStrategy.builtOn_preserved (frames index)) attended
    performed, perform_rested resting performed, (perform_config performed).trans config⟩

end Session

section Bench
variable {R P : Type} [IncrementalPid P F] [IncrementalPidState P] [Regulator R F]

/-- Alike controls show the same transcript of a session. -/
theorem Alike.transcript {first second : BalanceControlImpl F (HostedStrategy R P F) (Bench F)}
    (alike : first.Alike second) {session : List (Bench F × Request F)}
    (inSession : ∀ event ∈ session, event.2.InSession) :
    first.transcript session = second.transcript session := by
  induction session generalizing first second with
  | nil => rfl
  | cons event rest ih =>
      have attended : (first.attend event.1).Alike (second.attend event.1) :=
        ⟨alike.strategy, alike.config, alike.engaged, alike.setpoints, alike.cancelled,
          alike.commandedAt, alike.applied⟩
      have later : ∀ event ∈ rest, event.2.InSession := by
        intro event listed
        exact inSession event (by simp [listed])
      obtain ⟨accepted, firstNext, secondNext, firstPerformed, secondPerformed, peers, still⟩ :=
        attended.perform rfl (inSession event (by simp))
      simp only [BalanceControlImpl.transcript, firstPerformed, secondPerformed, peers, still.applied,
        ih still later]

/-- The hosted strategies are built on their frames. -/
theorem hosted_built (pid : CascadedPidStrategy.Config F) (lqr : LqrStrategy.Config F) :
    ∃ frames : Nat → Frame F, ∀ index (strategy : HostedStrategy R P F),
      (hosted pid lqr)[index]? = some strategy → strategy.BuiltOn (frames index) := by
  refine ⟨fun index => match index with
    | 0 => (HostedStrategy.cascadedPid (R := R) (P := P) (.construct pid)).frame
    | _ => (HostedStrategy.lqr (R := R) (P := P) (.construct lqr)).frame, ?_⟩
  intro index strategy listed
  match index with
  | 0 =>
      obtain rfl := Option.some.inj listed
      exact ⟨rfl, trivial⟩
  | 1 =>
      obtain rfl := Option.some.inj listed
      exact ⟨rfl, rfl⟩
  | later + 2 => cases listed

/-- A session after an engagement shows the same whatever went before it, given the active strategy
and its gains. -/
theorem sessions_independent {pid : CascadedPidStrategy.Config F} {lqr : LqrStrategy.Config F}
    {bench : Bench F} {config : Config F}
    {start first second : BalanceControlImpl F (HostedStrategy R P F) (Bench F)}
    (constructed : construct (hosted pid lqr) bench config = some start)
    (firstReached : machine.Reachable start first) (secondReached : machine.Reachable start second)
    (firstDisengaged : first.engaged = false) (secondDisengaged : second.engaged = false)
    (active : first.active = second.active)
    (gains : ControlStrategy.parameter first.strategy = ControlStrategy.parameter second.strategy)
    (moment : Bench F) {session : List (Bench F × Request F)}
    (inSession : ∀ event ∈ session, event.2.InSession) :
    first.transcript ((moment, .engage) :: session) =
      second.transcript ((moment, .engage) :: session) := by
  obtain ⟨frames, built⟩ := hosted_built (R := R) (P := P) pid lqr
  have initially : Inherits start frames start := by
    unfold construct at constructed
    split at constructed
    · obtain rfl := Option.some.inj constructed
      exact ⟨built, fun _ => rfl, rfl⟩
    · cases constructed
  obtain ⟨firstBuilt, firstRested, firstConfig⟩ :=
    firstReached.invariant (inherits_kept start frames) initially
  obtain ⟨secondBuilt, secondRested, secondConfig⟩ :=
    secondReached.invariant (inherits_kept start frames) initially
  have applied : first.applied = second.applied :=
    (firstRested firstDisengaged).trans (secondRested secondDisengaged).symm
  have onFrame : second.strategy.BuiltOn (frames first.active) := by
    rw [active]
    exact secondBuilt.active
  have engaged : (first.attend moment).engage.Alike (second.attend moment).engage :=
    engage_alike (show (first.attend moment).strategy.BuiltOn _ from firstBuilt.active)
      (show (second.attend moment).strategy.BuiltOn _ from onFrame) gains
      (firstConfig.trans secondConfig.symm) applied
  have onward := engaged.transcript inSession
  simp only [BalanceControlImpl.transcript, perform, onward, engaged.applied]
  rfl

/-- A flight that has filled the loops with history leaves no trace in the next one. -/
theorem sessions_independent_default :
    let bench : Bench ℚ := ⟨⟨1 / 5, 1 / 10⟩, 0, []⟩
    let flight : List (Bench ℚ × Request ℚ) :=
      [(bench, .engage), (bench, .steer (milliseconds 10)), (bench, .disengage)]
    let session : List (Bench ℚ × Request ℚ) :=
      [(bench, .balance ⟨1 / 20, 0, true, .none⟩ (milliseconds 2))]
    ∃ start flown : BalanceControlImpl ℚ (HostedStrategy (GainRow ℚ) (VelocityPid ℚ) ℚ) (Bench ℚ),
      construct (hosted .default .default) bench Config.default = some start ∧
        machine.run start flight = some flown ∧
        start.transcript ((bench, .engage) :: session) =
          flown.transcript ((bench, .engage) :: session) := by
  intro bench flight session
  refine ⟨_, _, rfl, rfl, ?_⟩
  refine sessions_independent
    (rfl : construct (hosted .default .default) bench Config.default = some _)
    (Reachable.refl machine _) ⟨flight, rfl⟩ rfl rfl rfl rfl bench ?_
  intro event listed
  obtain rfl := List.mem_singleton.mp listed
  trivial

end Bench

end BalanceControlImpl
end InvertedPendulum.Balance
