import InvertedPendulum.Application.MainRefinement
import InvertedPendulum.Balance.Configuration

namespace InvertedPendulum.Application
open Platform Motion Odometry Estimation Sensing Control Balance Safety Telemetry Link Cli Reactive
  Machine

/-- A list is mapped where every entry of it is. -/
theorem mapM_answers {A B : Type} {map : A → Option B} {list : List A}
    (answers : ∀ entry ∈ list, (map entry).isSome = true) : (list.mapM map).isSome = true := by
  induction list with
  | nil => rfl
  | cons first rest ih =>
      obtain ⟨head, mapped⟩ := Option.isSome_iff_exists.mp (answers first (by simp))
      have later : ∀ entry ∈ rest, (map entry).isSome = true := by
        intro entry member
        exact answers entry (List.mem_cons_of_mem _ member)
      obtain ⟨tail, listed⟩ := Option.isSome_iff_exists.mp (ih later)
      simp [List.mapM_cons, mapped, listed]

section Requests
variable {F S : Type} [FloatArithmetic F] [FloatRounding F] [ControlStrategy S F]

/-- The control answers the requests in order, and its peers change before and after each. -/
inductive Obeys (start : BalanceControlImpl F S (Hardware F)) :
    List (Balance.Request F) → BalanceControlImpl F S (Hardware F) → Prop
  | attended (peers : Hardware F) : Obeys start [] (start.attend peers)
  | answered {requests control after} (obeys : Obeys start requests control)
      {request : Balance.Request F} {accepted : Bool}
      (performed : control.perform request = some (accepted, after)) (peers : Hardware F) :
      Obeys start (requests ++ [request]) (after.attend peers)

variable {start middle final : BalanceControlImpl F S (Hardware F)}
  {requests later : List (Balance.Request F)}

/-- The peers may change once more. -/
theorem Obeys.attend (obeys : Obeys start requests middle) (peers : Hardware F) :
    Obeys start requests (middle.attend peers) := by
  cases obeys with
  | attended => exact .attended peers
  | answered obeys performed => exact .answered obeys performed peers

theorem Obeys.single {request : Balance.Request F} {accepted : Bool}
    (performed : start.perform request = some (accepted, final)) : Obeys start [request] final :=
  .answered (.attended start.peers) performed final.peers

theorem Obeys.trans (before : Obeys start requests middle) (after : Obeys middle later final) :
    Obeys start (requests ++ later) final := by
  induction after with
  | attended peers =>
      rw [List.append_nil]
      exact before.attend peers
  | answered _ performed peers ih =>
      rw [← List.append_assoc]
      exact .answered ih performed peers

/-- What each of the requests keeps, and the peers have no part in, is kept. -/
theorem Obeys.kept (holds : BalanceControlImpl F S (Hardware F) → Prop)
    (attended : ∀ control peers, holds control → holds (control.attend peers))
    (kept : ∀ control request accepted after, request ∈ requests → holds control →
      control.perform request = some (accepted, after) → holds after)
    (initially : holds start) (obeys : Obeys start requests final) : holds final := by
  induction obeys with
  | attended peers => exact attended start peers initially
  | answered obeys performed peers ih =>
      refine attended _ peers (kept _ _ _ _ (by simp) (ih ?_) performed)
      intro control request accepted after member
      exact kept control request accepted after (List.mem_append_left _ member)

end Requests

variable {F S : Type}

/-- An operation makes these requests of the control. -/
def Operation.Makes : Operation F → Balance.Request F → Prop
  | .balance estimate interval, made => made = .balance estimate interval ∨ made = .disengage
  | .steer interval, made => made = .steer interval
  | .supervise, made => made = .disengage
  | .arm, made => made = .engage
  | .disarm, made => made = .disengage
  | .move setpoints, made => made = .move setpoints
  | .cancelMotion, made => made = .cancelMotion
  | .select index, made => made = .select index
  | .setParameter index value, made => made = .setParameter index value
  | _, _ => False

namespace Firmware
variable {τ : Type} [FloatArithmetic F] [FloatRounding F] [ControlStrategy S F] [InertialSensing τ]

omit [InertialSensing τ] in
/-- Entering a fault makes at most the request to disengage. -/
theorem enterFault_obeys (supervisor : SafetySupervisorImpl F (Plant F S τ))
    (cause : Safety.FaultCause) : ∃ requests, (∀ made ∈ requests, made = .disengage) ∧
      Obeys supervisor.peers.control requests (supervisor.enterFault cause).peers.control := by
  unfold SafetySupervisorImpl.enterFault
  split
  · refine ⟨[.disengage], by simp, ?_⟩
    have disengaged : (supervisor.peers.control.attend
        { supervisor.peers.control.peers with
          actuation := supervisor.peers.actuation.disable .tristate }).perform .disengage =
        some (true, (supervisor.leaveArmed).peers.control) := rfl
    exact (Obeys.attended _).trans (.single disengaged)
  · exact ⟨[], by simp, .attended _⟩

/-- Every row of the table makes the requests of its operation. -/
theorem outcome_obeys {before after : SafetySupervisorImpl F (Plant F S τ)}
    {operation : Operation F} {request : Safety.Request F}
    (requested : operation.request? = some request) (outcome : before.Outcome request after) :
    ∃ requests, (∀ made ∈ requests, operation.Makes made) ∧
      Obeys before.peers.control requests after.peers.control := by
  have nothing : ∃ requests, (∀ made ∈ requests, operation.Makes made) ∧
      Obeys before.peers.control requests before.peers.control :=
    ⟨[], by simp, .attended before.peers.control.peers⟩
  have single {made : Balance.Request F} {control : BalanceControlImpl F S (Hardware F)}
      (makes : operation.Makes made)
      (performed : before.peers.control.perform made = some (true, control)) :
      ∃ requests, (∀ made ∈ requests, operation.Makes made) ∧
        Obeys before.peers.control requests control := by
    refine ⟨[made], ?_, .single performed⟩
    intro other member
    rw [List.mem_singleton.mp member]
    exact makes
  have faulted (supervisor : SafetySupervisorImpl F (Plant F S τ)) (cause : Safety.FaultCause)
      (same : supervisor.peers.control = before.peers.control) (makes : operation.Makes .disengage) :
      ∃ requests, (∀ made ∈ requests, operation.Makes made) ∧
        Obeys before.peers.control requests (supervisor.enterFault cause).peers.control := by
    obtain ⟨requests, disengages, obeys⟩ := enterFault_obeys supervisor cause
    rw [same] at obeys
    refine ⟨requests, ?_, obeys⟩
    intro made member
    rw [disengages made member]
    exact makes
  cases outcome with
  | fed | notSteered | selfTestPassed | selfTestPending | calibrated | calibrationPending | counted |
    latched | notArmed | notDisarmed | notCleared | recalibrated | notRecalibrated => exact nothing
  | invalid | fell | failed =>
      cases operation <;> cases requested
      exact faulted _ _ rfl (.inr rfl)
  | selfTestOverdue | calibrationFailed | polled | stalled =>
      cases operation <;> cases requested
      exact faulted _ _ rfl rfl
  | balanced =>
      cases operation <;> cases requested
      exact single (.inl rfl) rfl
  | steered =>
      cases operation <;> cases requested
      exact single rfl rfl
  | armed =>
      cases operation <;> cases requested
      exact single rfl rfl
  | disarmed =>
      cases operation <;> cases requested
      refine ⟨[.disengage], ?_, ?_⟩
      · intro made member
        exact List.mem_singleton.mp member
      · have disengaged : (before.peers.control.attend
            { before.peers.control.peers with
              actuation := before.peers.actuation.disable .tristate }).perform .disengage =
            some (true, before.leaveArmed.peers.control) := rfl
        exact (Obeys.attended _).trans (.single disengaged)
  | cleared => exact ⟨[], by simp, .attended _⟩

/-- Every operation makes its requests of the control. -/
theorem perform_obeys {before after : Firmware F S τ} {operation : Operation F}
    (performed : before.perform operation = some after) :
    ∃ requests, (∀ made ∈ requests, operation.Makes made) ∧
      Obeys before.control requests after.control := by
  have single {made : Balance.Request F} {accepted : Bool} (makes : operation.Makes made)
      (answered : before.control.perform made = some (accepted, after.control)) :
      ∃ requests, (∀ made ∈ requests, operation.Makes made) ∧
        Obeys before.control requests after.control := by
    refine ⟨[made], ?_, .single answered⟩
    intro other member
    rw [List.mem_singleton.mp member]
    exact makes
  have outside {actuation : MotionActuationImpl}
      (same : after.control = before.control.attend { before.control.peers with actuation }) :
      ∃ requests, (∀ made ∈ requests, operation.Makes made) ∧
        Obeys before.control requests after.control := by
    rw [same]
    exact ⟨[], by simp, .attended _⟩
  cases operation with
  | balance | steer | supervise | arm | disarm | clearFault | calibrate =>
      exact outcome_obeys rfl (requested_outcome rfl performed)
  | move setpoints =>
      obtain rfl := Option.some.inj performed
      exact single rfl rfl
  | cancelMotion =>
      obtain rfl := Option.some.inj performed
      exact single rfl rfl
  | select index =>
      obtain rfl := Option.some.inj performed
      exact single rfl rfl
  | setParameter index value =>
      obtain ⟨written, stored, rfl⟩ := Option.map_eq_some_iff.mp performed
      exact single rfl stored
  | tristate | brake | driverFault =>
      obtain rfl := Option.some.inj performed
      exact outside rfl
  | configured verified =>
      obtain ⟨-, answered⟩ := Option.ite_none_right_eq_some.mp performed
      obtain rfl := Option.some.inj answered
      exact outside rfl

end Firmware

namespace Main

/-- An event makes these requests of the control. -/
def Event.Makes {F : Type} (event : Event F) : Balance.Request F → Prop
  | .move _ => event.Commands
  | .select _ => event.Tunes
  | .setParameter _ _ => event.Tunes
  | .steer _ => ∃ sample, event = .sample sample
  | _ => ¬ event.Tunes

/-- An operation that was asked for makes requests of its event. -/
theorem Event.Asks.makes {F : Type} {event : Event F} {operation : Operation F}
    (asks : event.Asks operation) {made : Balance.Request F} (makes : operation.Makes made) :
    event.Makes made := by
  cases operation with
  | balance | steer => exact asks.elim
  | supervise | arm | disarm | move | cancelMotion | select | setParameter =>
      obtain rfl := makes
      exact asks
  | clearFault | calibrate | tristate | brake | driverFault | configured => exact makes.elim

/-- A tuning event makes no other request than to select a strategy or to write a parameter. -/
theorem Event.tunes_makes {F : Type} {event : Event F} (tunes : event.Tunes) {made : Balance.Request F}
    (makes : event.Makes made) :
    (∃ index, made = .select index) ∨ ∃ index value, made = .setParameter index value := by
  cases made with
  | select index => exact .inl ⟨index, rfl⟩
  | setParameter index value => exact .inr ⟨index, value, rfl⟩
  | steer =>
      obtain ⟨sample, rfl⟩ := makes
      exact tunes.elim
  | move =>
      have commands : event.Commands := makes
      cases event with
      | typed command params => cases command <;> first | exact tunes.elim | exact commands.elim
      | radio event =>
          cases event with
          | served event remote =>
              cases event <;> first | exact tunes.elim | exact commands.elim
          | stateChanged | maxAttMtuSizeChanged => exact tunes.elim
      | sample | wheels | supervise | driverFault | configured | radioReady => exact tunes.elim
  | engage | disengage | balance | cancelMotion => exact absurd tunes makes

variable {F S C K : Type} [FloatArithmetic F] [FloatRounding F] [FloatGeometry F] [FloatPi F]
  [FloatBits F] [FloatImage F] [TextInput F] [ControlStrategy S F] [PitchFilter C F]
  [PitchFilter K F]

/-- Every step makes requests of its event. -/
theorem step_obeys {main next : Main F S C K} {now : TimePoint} {event : Event F}
    (stepped : machine.step main (now, event) = some next) :
    ∃ requests, (∀ made ∈ requests, event.Makes made) ∧
      Obeys main.balanceControl requests next.balanceControl := by
  by_cases sampled : ∃ sample, event = .sample sample
  · obtain ⟨sample, rfl⟩ := sampled
    have chained {firmware : Firmware F S (Gyroscope F)} (same : next.firmware = firmware) :
        next.balanceControl = firmware.control := congrArg Firmware.control same
    have balances (moment : Moment F (Gyroscope F)) (estimate : Estimate F) (interval : Duration) :
        ∃ requests, (∀ made ∈ requests, (Event.sample sample).Makes made) ∧ Obeys main.balanceControl
          requests (balanced (main.firmware.begin moment) estimate interval).control := by
      have performed : (main.firmware.begin moment).perform (.balance estimate interval) =
          some (balanced (main.firmware.begin moment) estimate interval) := rfl
      obtain ⟨requests, makes, obeys⟩ := Firmware.perform_obeys performed
      refine ⟨requests, ?_, (Obeys.attended _).trans obeys⟩
      intro made member
      rcases makes made member with rfl | rfl
      · exact not_false
      · exact not_false
    cases sample_runs stepped with
    | rested moment same =>
        rw [chained same]
        exact ⟨[], by simp, .attended _⟩
    | balanced moment estimate interval same =>
        rw [chained same]
        exact balances moment estimate interval
    | steered moment estimate interval sampledAt same =>
        rw [chained same]
        obtain ⟨requests, makes, obeys⟩ := balances moment estimate interval
        have performed : (balanced (main.firmware.begin moment) estimate interval).perform
            (.steer (main.robot.outerInterval sampledAt)) = some _ := rfl
        obtain ⟨steers, steered, follows⟩ := Firmware.perform_obeys performed
        refine ⟨requests ++ steers, ?_, obeys.trans follows⟩
        intro made member
        rcases List.mem_append.mp member with earlier | later
        · exact makes made earlier
        · obtain rfl := steered made later
          exact ⟨sample, rfl⟩
  · rw [not_exists] at sampled
    obtain ⟨operation, asked, performed⟩ := perform_performs sampled stepped
    have begun : Obeys main.balanceControl [] (main.begin now).balanceControl := .attended _
    cases operation with
    | none =>
        have same : (main.begin now).balanceControl = next.balanceControl :=
          congrArg Firmware.control (Option.some.inj performed)
        rw [← same]
        exact ⟨[], by simp, begun⟩
    | some operation =>
        obtain ⟨requests, makes, obeys⟩ := Firmware.perform_obeys performed
        have asks := asked operation rfl
        exact ⟨requests, fun made member => asks.makes (makes made member), begun.trans obeys⟩

section Configuration
variable {start main next : Main F S C K} {now : TimePoint} {event : Event F}

/-- A tuning event neither engages nor disengages the control. -/
theorem tuned_engaged (stepped : machine.step main (now, event) = some next) (tunes : event.Tunes) :
    next.balanceControl.engaged = main.balanceControl.engaged := by
  obtain ⟨requests, makes, obeys⟩ := step_obeys stepped
  refine Obeys.kept (fun control => control.engaged = main.balanceControl.engaged) ?_ ?_ rfl obeys
  · intro control peers same
    exact same
  · intro control request accepted after member same performed
    rcases Event.tunes_makes tunes (makes request member) with ⟨index, rfl⟩ | ⟨index, value, rfl⟩
    · have selected : (control.select index).2 = after :=
        congrArg Prod.snd (Option.some.inj performed)
      rw [← selected]
      exact (Firmware.select_prepares control index).2.1.trans same
    · exact (Firmware.setParameter_prepares performed).2.1.trans same

variable [StrategyContract S]

/-- A step that changes the configuration tunes a control that is not engaged. -/
theorem configuration_changed (stepped : machine.step main (now, event) = some next)
    (changed : next.balanceControl.configuration ≠ main.balanceControl.configuration) :
    event.Tunes ∧ main.balanceControl.engaged = false := by
  obtain ⟨requests, makes, obeys⟩ := step_obeys stepped
  have tunes : event.Tunes := by
    by_contra untuned
    refine changed (Obeys.kept (fun control =>
      control.configuration = main.balanceControl.configuration) ?_ ?_ rfl obeys)
    · intro control peers same
      exact same
    · intro control request accepted after member same performed
      rcases BalanceControlImpl.perform_frozen performed with
        frozen | ⟨-, -, ⟨index, rfl⟩ | ⟨index, value, rfl⟩⟩
      · exact frozen.1.trans same
      · exact absurd (makes _ member) untuned
      · exact absurd (makes _ member) untuned
  refine ⟨tunes, ?_⟩
  by_contra engaged
  rw [Bool.not_eq_false] at engaged
  have kept := Obeys.kept (fun control => control.engaged = true ∧
    control.configuration = main.balanceControl.configuration) ?_ ?_ ⟨engaged, rfl⟩ obeys
  · exact changed kept.2
  · intro control peers same
    exact same
  · intro control request accepted after member same performed
    have flying : request ≠ .disengage := by
      rintro rfl
      exact absurd tunes (makes _ member)
    refine ⟨BalanceControlImpl.perform_engaged same.1 flying performed, ?_⟩
    rcases BalanceControlImpl.perform_frozen performed with frozen | ⟨-, disengaged, -⟩
    · exact frozen.1.trans same.2
    · rw [same.1] at disengaged
      cases disengaged

/-- Every step keeps the parameters in the ranges that were published at the start. -/
theorem ranged_kept (start main : Main F S C K) (event : TimePoint × Event F) (next : Main F S C K)
    (ranged : main.balanceControl.Ranged ∧
      main.balanceControl.published = start.balanceControl.published)
    (stepped : machine.step main event = some next) :
    next.balanceControl.Ranged ∧
      next.balanceControl.published = start.balanceControl.published := by
  obtain ⟨requests, -, obeys⟩ := step_obeys stepped
  refine Obeys.kept (fun control => control.Ranged ∧
    control.published = start.balanceControl.published) ?_ ?_ ranged obeys
  · intro control peers same
    exact same
  · intro control request accepted after _ same performed
    exact ⟨BalanceControlImpl.perform_ranged same.1 performed,
      (BalanceControlImpl.perform_published performed).trans same.2⟩

omit [FloatArithmetic F] [FloatRounding F] [FloatGeometry F] [FloatPi F] [FloatBits F]
  [FloatImage F] [TextInput F] [PitchFilter C F] [PitchFilter K F] in
/-- Every parameter of the active strategy is listed with its value. -/
theorem listParameters_answers (control : BalanceControlImpl F S (Hardware F)) :
    (Cli.listParameters control).isSome = true := by
  refine mapM_answers ?_
  rintro ⟨descriptor, index⟩ member
  rw [Option.isSome_map, StrategyContract.stored]
  have inside := (List.mem_zipIdx member).2.1
  rwa [Nat.zero_add] at inside

omit [FloatGeometry F] [FloatPi F] [FloatBits F] [FloatImage F] [PitchFilter C F] [PitchFilter K F] in
/-- No line of the terminal trips an assertion. -/
theorem run_answers (main : Main F S C K) (command : Command) (params : String) :
    (command.run main params).isSome = true := by
  cases command with
  | ping | identify | releaseBridges | brake | odometry | imu | calibrate | clearFault |
    driverStatus | attitude | selectFilter | loopTiming | arm | disarm | reportMode | move |
    strategy | bluetooth => rfl
  | param =>
      show (Cli.param main params).isSome = true
      unfold Cli.param
      split
      · rw [Option.isSome_map]
        exact listParameters_answers main.balanceControl
      · split
        · rfl
        · rename_i index value read
          obtain ⟨⟨accepted, control⟩, stored⟩ := Option.isSome_iff_exists.mp
            (BalanceControlImpl.setParameter_answers main.balanceControl index.toNat value)
          cases accepted with
          | false => simp [stored]
          | true =>
              obtain ⟨-, descriptor, written, published, -, -, wrote, rfl⟩ :=
                BalanceControlImpl.setParameter_accepted stored
              have same := (StrategyContract.addressed _ _ _ _ wrote).1
              simp [stored, same, published]

/-- The configuration is safe in every run of the application from here. -/
structure ConfigurationSafe (start : Main F S C K) : Prop where
  ranged : ∀ main, machine.Reachable start main → main.balanceControl.Ranged ∧
    main.balanceControl.published = start.balanceControl.published
  frozen : ∀ main now event next, machine.Reachable start main →
    machine.step main (now, event) = some next →
    next.balanceControl.configuration ≠ main.balanceControl.configuration →
    event.Tunes ∧ main.supervisor.mode ≠ .armed ∧ next.supervisor.mode ≠ .armed
  answered : ∀ main now command params, machine.Reachable start main →
    (machine.step main (now, .typed command params)).isSome = true

/-- In every run of the application the parameters stay in range, only a tuning event changes the
configuration, never from or into an armed drive, and no line of the terminal stops the firmware. -/
theorem application_configuration_safe {fullScale : DutyCycle} {decay : Decay}
    {sensingConfig : InertialSensingImpl.Config F} {estimationConfig : AttitudeEstimationImpl.Config F}
    {complementary : C} {kalman : K} {strategies : List S}
    {odometryConfig : WheelOdometryImpl.Config F} {balanceConfig : BalanceControlImpl.Config F}
    {safetyConfig : SafetySupervisorImpl.Config F} {identityAddress : MacAddress} {now : TimePoint}
    {start : Main F S C K}
    (constructed : construct fullScale decay sensingConfig estimationConfig complementary kalman
      strategies odometryConfig balanceConfig safetyConfig identityAddress now = some start)
    (ranged : ∀ strategy ∈ strategies, InRange strategy) : start.ConfigurationSafe := by
  obtain ⟨moment, built⟩ := construct_wires constructed
  have initially := (Firmware.construct_starts built).1
  have within : start.balanceControl.Ranged := by
    obtain ⟨control, controlled, supervised⟩ := Option.bind_eq_some_iff.mp built
    obtain ⟨supervisor, supervises, wired⟩ := Option.map_eq_some_iff.mp supervised
    have same : start.balanceControl = supervisor.peers.control :=
      congrArg Firmware.control wired.symm
    rw [same]
    unfold BalanceControlImpl.construct at controlled
    unfold SafetySupervisorImpl.construct at supervises
    split at controlled
    · obtain rfl := Option.some.inj controlled
      split at supervises
      · obtain rfl := Option.some.inj supervises
        exact ranged
      · cases supervises
    · cases controlled
  refine ⟨?_, ?_, ?_⟩
  · intro main reached
    exact reached.invariant (ranged_kept start) ⟨within, rfl⟩
  · intro main now event next reached stepped changed
    obtain ⟨tunes, disengaged⟩ := configuration_changed stepped changed
    have disarmed {state : Main F S C K} (reached : machine.Reachable start state)
        (rests : state.balanceControl.engaged = false) : state.supervisor.mode ≠ .armed := by
      intro armed
      obtain ⟨caller, coherent⟩ := reachable_coherent initially reached
      have flying : state.balanceControl.engaged = true := coherent.engaged.mpr armed
      rw [rests] at flying
      cases flying
    refine ⟨tunes, disarmed reached disengaged, disarmed (reached.trans (.single stepped)) ?_⟩
    exact (tuned_engaged stepped tunes).trans disengaged
  · intro main now command params _
    have answered := run_answers (main.begin now) command params
    exact Option.isSome_map.trans answered

end Configuration

section Bench
open Bench

/-- The powered application keeps its configuration safe. -/
theorem powered_application_configuration_safe :
    ∃ start, powered = some start ∧ start.ConfigurationSafe := by
  obtain ⟨start, constructed⟩ := powered_starts
  refine ⟨start, constructed, application_configuration_safe constructed ?_⟩
  intro strategy member
  rcases List.mem_pair.mp member with rfl | rfl
  · have within : Within (CascadedPidStrategy.Config.default (F := Extended)).gains
        CascadedPidStrategy.descriptors := by decide +kernel
    exact within.inRange rfl fun _ => rfl
  · have within : Within (LqrStrategy.Config.default (F := Extended)).gains
        LqrStrategy.descriptors := by decide +kernel
    exact within.inRange rfl fun _ => rfl

end Bench
end Main
end InvertedPendulum.Application
