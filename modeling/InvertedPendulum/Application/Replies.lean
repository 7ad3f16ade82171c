import InvertedPendulum.Application.ControlRequests

namespace InvertedPendulum.Application
open Platform Motion Odometry Estimation Sensing Control Balance Safety Telemetry Link Cli Reactive
  Machine

/-- The terminal answers a line that it cannot read with the usage of its command. -/
def usage : Command → Option String
  | .selectFilter => some "usage: filter [complementary|kalman]"
  | .move => some "usage: move <velocity> <yawRate>, decimals such as 0.2 or -0.5"
  | .strategy => some "usage: strategy [<name>]"
  | .param => some "usage: param <index> <value>, value a decimal such as 2.0"
  | _ => none

/-- The robot answers a line that it does not obey with the refusal of its command. -/
def refusal : Command → Option String
  | .calibrate => some "refused: calibrate only from idle"
  | .clearFault => some "refused: no fault latched"
  | .arm => some
      "refused: arming needs idle, upright within 5 deg, a valid estimate and a healthy driver"
  | .disarm => some "refused: not armed"
  | .move => some
      "refused: move needs armed, |velocity| <= 1.0 m/s and |yaw rate| <= 1.6 rad/s"
  | .strategy => some "refused: strategy changes need disarmed"
  | .param => some
      "refused: parameter writes need disarmed, a known index and a value in range"
  | _ => none

/-- The reply is the text that is fixed for the command. -/
def Says {F : Type} (text : Option String) (reply : Reply F) : Prop :=
  ∃ said, text = some said ∧ reply = say said

/-- A usage is no refusal. -/
theorem usage_ne_refusal {command : Command} {used refused : String}
    (usages : usage command = some used) (refusals : refusal command = some refused) :
    used ≠ refused := by
  cases command <;> cases usages <;> cases refusals <;> decide

/-- A reply whose lines have several pieces is no fixed text. -/
theorem unsaid_several {F : Type} {reply : Reply F} (text : Option String)
    (several : ∀ line ∈ reply, line.length ≠ 1) : ¬ Says text reply := by
  rintro ⟨said, -, rfl⟩
  exact several [.text said] (List.mem_singleton.mpr rfl) rfl

/-- Another text is not the fixed one. -/
theorem unsaid_other {F : Type} {text : Option String} {said : String}
    (other : text ≠ some said) : ¬ Says text (say said : Reply F) := by
  rintro ⟨fixed, rfl, same⟩
  obtain ⟨rfl⟩ : said = fixed := by
    injection same with line
    injection line with piece
    injection piece
  exact other rfl

/-- A mapped list answers at an index what the entry there is mapped to. -/
theorem mapM_getElem? {A B : Type} {map : A → Option B} {list : List A} {lines : List B}
    (mapped : list.mapM map = some lines) (index : Nat) : lines[index]? = list[index]?.bind map := by
  induction list generalizing lines index with
  | nil =>
      obtain rfl := Option.some.inj mapped
      rfl
  | cons first rest ih =>
      rw [List.mapM_cons] at mapped
      obtain ⟨head, headed, others⟩ := Option.bind_eq_some_iff.mp mapped
      obtain ⟨tail, tailed, both⟩ := Option.bind_eq_some_iff.mp others
      obtain rfl := Option.some.inj both
      cases index with
      | zero => exact headed.symm
      | succ index => exact ih tailed index

namespace Main
variable {F S C K : Type} [FloatArithmetic F] [FloatRounding F] [ControlStrategy S F] [TextInput F]

/-- The line of the terminal does not fit its command. -/
def Misread (main : Main F S C K) (params : String) : Command → Prop
  | .selectFilter => params ≠ "" ∧ parseFilter params = none
  | .move => (readSetpoints params : Option (Setpoints F)) = none
  | .strategy => params ≠ "" ∧
      ∀ strategy ∈ main.balanceControl.strategies, params ≠ ControlStrategy.name strategy
  | .param => params ≠ "" ∧ (readParameter params : Option (UInt32 × F)) = none
  | _ => False

/-- The mode of the robot or the range of a number forbids what the line asks for. -/
def Forbids (main : Main F S C K) (params : String) : Command → Prop
  | .calibrate => main.supervisor.mode ≠ .idle
  | .clearFault => main.supervisor.mode ≠ .fault
  | .arm => ¬ main.supervisor.Armable
  | .disarm => main.supervisor.mode ≠ .armed
  | .move => ∃ setpoints : Setpoints F, readSetpoints params = some setpoints ∧
      ¬ (main.supervisor.mode = .armed ∧
        fabs setpoints.velocity ≤ main.balanceControl.config.maximumVelocity ∧
        fabs setpoints.yawRate ≤ main.balanceControl.config.maximumYawRate)
  | .strategy => params ≠ "" ∧ main.supervisor.mode = .armed ∧
      ∃ strategy ∈ main.balanceControl.strategies, params = ControlStrategy.name strategy
  | .param => params ≠ "" ∧ ∃ (index : UInt32) (value : F), readParameter params = some (index, value) ∧
      ¬ (main.supervisor.mode ≠ .armed ∧ ∃ descriptor : ParameterDescriptor F,
        (ControlStrategy.parameters main.balanceControl.strategy)[index.toNat]? = some descriptor ∧
        descriptor.minimum ≤ value ∧ value ≤ descriptor.maximum)
  | _ => False

/-- The line has the effect that its reply tells; without parameters it only reports. -/
def Does (main next : Main F S C K) (params : String) : Command → Prop
  | .releaseBridges => next.firmware.motors.last = MotionActuationImpl.released
  | .brake => next.firmware.motors.last =
      if main.motionActuation.drivePermitted then
        MotionActuationImpl.braked main.motionActuation.fullScale
      else MotionActuationImpl.released
  | .calibrate => next.supervisor.mode = .calibrating
  | .clearFault => next.supervisor.mode = .idle ∧ next.supervisor.cause = .none ∧
      next.motionActuation.fault = .none
  | .arm => next.supervisor.mode = .armed ∧ next.balanceControl.engaged = true
  | .disarm => next.supervisor.mode = .idle ∧ next.balanceControl.engaged = false ∧
      next.firmware.motors.last = MotionActuationImpl.released
  | .move => ∃ setpoints : Setpoints F, readSetpoints params = some setpoints ∧
      next.balanceControl.setpoints = setpoints ∧ next.balanceControl.cancelled = false
  | .selectFilter => if params = "" then next = main else
      parseFilter params = some next.attitudeEstimation.selected ∧
        next.attitudeEstimation.latest.valid = false
  | .loopTiming =>
      if params = "reset" then next.robot = main.robot.resetStatistics else next = main
  | .strategy => if params = "" then next = main else
      ControlStrategy.name next.balanceControl.strategy = params
  | .param => if params = "" then next = main else
      ∃ (index : UInt32) (value : F), readParameter params = some (index, value) ∧
        ControlStrategy.parameter next.balanceControl.strategy index.toNat = some value
  | .ping | .identify | .odometry | .imu | .driverStatus | .attitude | .reportMode | .bluetooth =>
      next = main

/-- The reply tells which of the three happened to the line. -/
inductive Answered (main : Main F S C K) (params : String) (command : Command) :
    Reply F → Main F S C K → Prop
  | misread {text : String} (fixed : usage command = some text)
      (unread : main.Misread params command) (allowed : ¬ main.Forbids params command) :
      Answered main params command (say text) main
  | refused {text : String} (fixed : refusal command = some text)
      (read : ¬ main.Misread params command) (forbidden : main.Forbids params command) :
      Answered main params command (say text) main
  | done {reply : Reply F} {next : Main F S C K} (noUsage : ¬ Says (usage command) reply)
      (noRefusal : ¬ Says (refusal command) reply) (read : ¬ main.Misread params command)
      (allowed : ¬ main.Forbids params command) (effect : main.Does next params command) :
      Answered main params command reply next

/-- What the terminal replies is true of the robot. -/
structure Truthful (main next : Main F S C K) (params : String) (command : Command)
    (reply : Reply F) : Prop where
  misread : Says (usage command) reply ↔ main.Misread params command
  refused : Says (refusal command) reply ↔ main.Forbids params command
  unchanged : Says (usage command) reply ∨ Says (refusal command) reply → next = main
  done : ¬ Says (usage command) reply → ¬ Says (refusal command) reply →
    main.Does next params command

/-- An answered line has a truthful reply. -/
theorem Answered.truthful {main next : Main F S C K} {params : String} {command : Command}
    {reply : Reply F} (answered : main.Answered params command reply next) :
    main.Truthful next params command reply := by
  cases answered with
  | @misread text fixed unread allowed =>
      have unrefused : ¬ Says (refusal command) (say text : Reply F) :=
        unsaid_other fun same => usage_ne_refusal fixed same rfl
      exact ⟨iff_of_true ⟨text, fixed, rfl⟩ unread, iff_of_false unrefused allowed, fun _ => rfl,
        fun unused => absurd ⟨text, fixed, rfl⟩ unused⟩
  | @refused text fixed read forbidden =>
      have unused : ¬ Says (usage command) (say text : Reply F) :=
        unsaid_other fun same => usage_ne_refusal same fixed rfl
      exact ⟨iff_of_false unused read, iff_of_true ⟨text, fixed, rfl⟩ forbidden, fun _ => rfl,
        fun _ unrefused => absurd ⟨text, fixed, rfl⟩ unrefused⟩
  | done noUsage noRefusal read allowed effect =>
      refine ⟨iff_of_false noUsage read, iff_of_false noRefusal allowed, ?_, fun _ _ => effect⟩
      rintro (used | refused)
      · exact absurd used noUsage
      · exact absurd refused noRefusal

/-- A line that only reports is truthful. -/
theorem Answered.reports {main next : Main F S C K} {params : String} {command : Command}
    {reply : Reply F} (noUsage : usage command = none) (noRefusal : refusal command = none)
    (read : ¬ main.Misread params command) (allowed : ¬ main.Forbids params command)
    (effect : main.Does next params command) : main.Answered params command reply next := by
  refine .done ?_ ?_ read allowed effect
  · rintro ⟨said, same, -⟩
    rw [noUsage] at same
    cases same
  · rintro ⟨said, same, -⟩
    rw [noRefusal] at same
    cases same

/-- A reply whose lines have several pieces tells that the line was obeyed. -/
theorem Answered.listed {main next : Main F S C K} {params : String} {command : Command}
    {reply : Reply F} (several : ∀ line ∈ reply, line.length ≠ 1)
    (read : ¬ main.Misread params command) (allowed : ¬ main.Forbids params command)
    (effect : main.Does next params command) : main.Answered params command reply next :=
  .done (unsaid_several _ several) (unsaid_several _ several) read allowed effect

/-- A command of the supervisor tells whether it was obeyed. -/
theorem supervised_answered {main : Main F S C K} {params : String} {command : Command}
    {answer : Bool × SafetySupervisorImpl F (Plant F S (Gyroscope F))} {text success : String}
    (noUsage : usage command = none) (fixed : refusal command = some text) (other : text ≠ success)
    (read : ¬ main.Misread params command)
    (accepted : answer.1 = true → ¬ main.Forbids params command ∧
      main.Does (main.withFirmware (main.firmware.withSupervisor answer.2)) params command)
    (refused : answer.1 = false → main.Forbids params command ∧ answer.2 = main.supervisor) :
    main.Answered params command (Cli.supervised main answer text success).1
      (Cli.supervised main answer text success).2 := by
  obtain ⟨verdict, supervisor⟩ := answer
  cases verdict with
  | true =>
      obtain ⟨allowed, effect⟩ := accepted rfl
      refine .done ?_ ?_ read allowed effect
      · rintro ⟨said, same, -⟩
        rw [noUsage] at same
        cases same
      · rw [fixed]
        exact unsaid_other fun same => other (Option.some.inj same)
  | false =>
      obtain ⟨forbidden, rfl⟩ := refused rfl
      exact .refused fixed read forbidden

section Commands
variable {main next : Main F S C K} {params : String} {reply : Reply F}

/-- The filter that a reply names is selected. -/
theorem selectFilter_answered (ran : Cli.selectFilter main params = (reply, next)) :
    main.Answered params .selectFilter reply next := by
  unfold Cli.selectFilter at ran
  split at ran
  · rename_i bare
    have empty := String.isEmpty_iff.mp bare
    obtain ⟨rfl, rfl⟩ := Prod.mk.inj ran
    refine .listed (by simp) (fun unread => unread.1 empty) not_false ?_
    exact (if_pos empty).mpr rfl
  · rename_i named
    have filled : params ≠ "" := mt String.isEmpty_iff.mpr named
    split at ran
    · rename_i unknown
      obtain ⟨rfl, rfl⟩ := Prod.mk.inj ran
      exact .misread rfl ⟨filled, unknown⟩ not_false
    · rename_i filter known
      obtain ⟨rfl, rfl⟩ := Prod.mk.inj ran
      refine .listed (by simp) ?_ not_false ?_
      · rintro ⟨-, unknown⟩
        rw [known] at unknown
        cases unknown
      · exact (if_neg filled).mpr ⟨known, rfl⟩

variable (coherent : main.balanceControl.engaged = true ↔ main.supervisor.mode = .armed)
include coherent

/-- A reply to a command of motion tells whether the robot is commanded. -/
theorem move_answered (ran : Cli.move main params = (reply, next)) :
    main.Answered params .move reply next := by
  unfold Cli.move at ran
  split at ran
  · rename_i unread
    obtain ⟨rfl, rfl⟩ := Prod.mk.inj ran
    refine .misread rfl unread ?_
    rintro ⟨setpoints, read, -⟩
    rw [unread] at read
    cases read
  · rename_i setpoints known
    have read : ¬ main.Misread params .move := by
      intro unread
      rw [show readSetpoints params = none from unread] at known
      cases known
    rcases main.balanceControl.move_cases setpoints with refused | ⟨allowed, accepted⟩
    · have kept : ¬ (main.balanceControl.engaged = true ∧
          fabs setpoints.velocity ≤ main.balanceControl.config.maximumVelocity ∧
          fabs setpoints.yawRate ≤ main.balanceControl.config.maximumYawRate) := by
        rintro ⟨engaged, velocity, yawRate⟩
        simp [BalanceControlImpl.move, engaged, velocity, yawRate] at refused
      rw [refused] at ran
      obtain ⟨rfl, rfl⟩ := Prod.mk.inj ran
      rw [coherent] at kept
      exact .refused rfl read ⟨setpoints, known, kept⟩
    · rw [accepted] at ran
      obtain ⟨rfl, rfl⟩ := Prod.mk.inj ran
      rw [coherent] at allowed
      refine .done (unsaid_other (by decide)) (unsaid_other (by decide)) read ?_
        ⟨setpoints, known, rfl, rfl⟩
      rintro ⟨other, same, forbidden⟩
      rw [known] at same
      obtain rfl := Option.some.inj same
      exact forbidden allowed

/-- A reply to a selection tells whether the named strategy is active. -/
theorem strategy_answered (ran : Cli.strategy main params = (reply, next)) :
    main.Answered params .strategy reply next := by
  unfold Cli.strategy at ran
  split at ran
  · rename_i bare
    have empty := String.isEmpty_iff.mp bare
    obtain ⟨rfl, rfl⟩ := Prod.mk.inj ran
    refine .listed ?_ (fun unread => unread.1 empty) (fun forbidden => forbidden.1 empty)
      ((if_pos empty).mpr rfl)
    intro line member
    obtain ⟨index, inside, rfl⟩ := List.mem_mapIdx.mp member
    simp
  · rename_i named
    have filled : params ≠ "" := mt String.isEmpty_iff.mpr named
    split at ran
    · rename_i unknown
      obtain ⟨rfl, rfl⟩ := Prod.mk.inj ran
      have other : ∀ strategy ∈ main.balanceControl.strategies,
          params ≠ ControlStrategy.name strategy := by
        simpa using List.findIdx?_eq_none_iff.mp unknown
      refine .misread rfl ⟨filled, other⟩ ?_
      rintro ⟨-, -, strategy, member, same⟩
      exact other strategy member same
    · rename_i index known
      obtain ⟨inside, same, -⟩ := List.findIdx?_eq_some_iff_getElem.mp known
      have same := of_decide_eq_true same
      have read : ¬ main.Misread params .strategy :=
        fun unread => unread.2 _ (List.getElem_mem inside) same
      cases selected : main.balanceControl.select index with
      | mk accepted control =>
        rw [selected] at ran
        obtain ⟨rfl, rfl⟩ := Prod.mk.inj ran
        cases accepted with
        | true =>
            obtain ⟨disengaged, -, active, strategies⟩ :=
              BalanceControlImpl.select_accepted selected
            refine .listed (by simp) read ?_ ((if_neg filled).mpr ?_)
            · rintro ⟨-, armed, -⟩
              rw [coherent.mpr armed] at disengaged
              cases disengaged
            · show ControlStrategy.name control.strategy = params
              unfold BalanceControlImpl.strategy
              simp only [List.get_eq_getElem, active, strategies]
              exact same.symm
        | false =>
            obtain rfl := BalanceControlImpl.select_refused selected
            have engaged : main.balanceControl.engaged = true := by
              unfold BalanceControlImpl.select at selected
              split at selected
              · rename_i disallowed
                exact disallowed.resolve_right (not_le.mpr inside)
              · cases selected
            exact .refused rfl read
              ⟨filled, coherent.mp engaged, _, List.getElem_mem inside, same⟩

/-- A reply to a parameter write tells whether the parameter has its value. -/
theorem param_answered [StrategyContract S] (ran : Cli.param main params = some (reply, next)) :
    main.Answered params .param reply next := by
  unfold Cli.param at ran
  split at ran
  · rename_i bare
    have empty := String.isEmpty_iff.mp bare
    obtain ⟨listed, told, both⟩ := Option.map_eq_some_iff.mp ran
    obtain ⟨rfl, rfl⟩ := Prod.mk.inj both
    refine .listed ?_ (fun unread => unread.1 empty) (fun forbidden => forbidden.1 empty)
      ((if_pos empty).mpr rfl)
    intro line member
    obtain ⟨place, found⟩ := List.mem_iff_getElem?.mp member
    rw [mapM_getElem? told] at found
    obtain ⟨⟨descriptor, index⟩, -, written⟩ := Option.bind_eq_some_iff.mp found
    obtain ⟨value, -, rfl⟩ := Option.map_eq_some_iff.mp written
    simp
  · rename_i named
    have filled : params ≠ "" := mt String.isEmpty_iff.mpr named
    split at ran
    · rename_i unread
      obtain ⟨rfl, rfl⟩ := Prod.mk.inj (Option.some.inj ran)
      refine .misread rfl ⟨filled, unread⟩ ?_
      rintro ⟨-, index, value, read, -⟩
      rw [unread] at read
      cases read
    · rename_i index value known
      have read : ¬ main.Misread params .param := by
        rintro ⟨-, unread⟩
        rw [known] at unread
        cases unread
      obtain ⟨⟨accepted, control⟩, stored, told⟩ := Option.bind_eq_some_iff.mp ran
      cases accepted with
      | true =>
          obtain ⟨descriptor, -, both⟩ := Option.bind_eq_some_iff.mp told
          obtain ⟨rfl, rfl⟩ := Prod.mk.inj (Option.some.inj both)
          obtain ⟨disengaged, range, written, published, low, high, wrote, rfl⟩ :=
            BalanceControlImpl.setParameter_accepted stored
          refine .listed (by simp) read ?_ ((if_neg filled).mpr ⟨index, value, known, ?_⟩)
          · rintro ⟨-, other, asked, same, forbidden⟩
            rw [known] at same
            obtain ⟨rfl, rfl⟩ := Prod.mk.inj (Option.some.inj same)
            refine forbidden ⟨?_, range, published, low, high⟩
            intro armed
            rw [coherent.mpr armed] at disengaged
            cases disengaged
          · show ControlStrategy.parameter (main.balanceControl.update written).strategy _ = _
            rw [BalanceControlImpl.update_strategy,
              (StrategyContract.addressed _ _ _ _ wrote).2]
            exact Function.update_self _ _ _
      | false =>
          obtain ⟨rfl, rfl⟩ := Prod.mk.inj (Option.some.inj told)
          obtain rfl := BalanceControlImpl.setParameter_refused stored
          refine .refused rfl read ⟨filled, index, value, known, ?_⟩
          rintro ⟨disarmed, range, published, low, high⟩
          have rests : main.balanceControl.engaged = false :=
            Bool.eq_false_iff.mpr (mt coherent.mp disarmed)
          simp [BalanceControlImpl.setParameter, published, rests, low, high] at stored

end Commands

variable [StrategyContract S]

/-- The terminal answers every line by what happened to it. -/
theorem run_answered {main next : Main F S C K}
    (coherent : main.balanceControl.engaged = true ↔ main.supervisor.mode = .armed)
    {command : Command} {params : String} {reply : Reply F}
    (ran : command.run main params = some (reply, next)) :
    main.Answered params command reply next := by
  cases command with
  | ping | identify | odometry | imu | driverStatus | attitude | reportMode | bluetooth =>
      obtain ⟨rfl, rfl⟩ := Prod.mk.inj (Option.some.inj ran)
      exact .reports rfl rfl not_false not_false rfl
  | releaseBridges =>
      obtain ⟨rfl, rfl⟩ := Prod.mk.inj (Option.some.inj ran)
      exact .reports rfl rfl not_false not_false rfl
  | brake =>
      obtain ⟨rfl, rfl⟩ := Prod.mk.inj (Option.some.inj ran)
      refine .reports rfl rfl not_false not_false ?_
      show (main.motionActuation.disable .brake).motors.last = _
      unfold MotionActuationImpl.disable
      cases main.motionActuation.drivePermitted <;> rfl
  | calibrate =>
      obtain ⟨rfl, rfl⟩ := Prod.mk.inj (Option.some.inj ran)
      refine supervised_answered rfl rfl (by decide) not_false ?_ ?_
      · unfold SafetySupervisorImpl.calibrate
        split
        · rintro ⟨⟩
        · rename_i idle
          exact fun _ => ⟨idle, rfl⟩
      · unfold SafetySupervisorImpl.calibrate
        split
        · rename_i busy
          exact fun _ => ⟨busy, rfl⟩
        · rintro ⟨⟩
  | clearFault =>
      obtain ⟨rfl, rfl⟩ := Prod.mk.inj (Option.some.inj ran)
      refine supervised_answered rfl rfl (by decide) not_false ?_ ?_
      · unfold SafetySupervisorImpl.clearFault
        split
        · rintro ⟨⟩
        · rename_i latched
          exact fun _ => ⟨latched, rfl, rfl, rfl⟩
      · unfold SafetySupervisorImpl.clearFault
        split
        · rename_i clear
          exact fun _ => ⟨clear, rfl⟩
        · rintro ⟨⟩
  | arm =>
      obtain ⟨rfl, rfl⟩ := Prod.mk.inj (Option.some.inj ran)
      refine supervised_answered rfl rfl (by decide) not_false ?_ ?_
      · intro accepted
        have armable := SafetySupervisorImpl.arm_accepted.mp accepted
        rw [armable.arm_eq]
        exact ⟨not_not_intro armable, rfl, rfl⟩
      · intro refused
        have unarmable : ¬ main.supervisor.Armable := by
          rw [← SafetySupervisorImpl.arm_accepted, refused]
          exact Bool.false_ne_true
        refine ⟨unarmable, ?_⟩
        unfold SafetySupervisorImpl.arm at refused ⊢
        split at refused
        · rename_i disallowed
          rw [if_pos disallowed]
        · cases refused
  | disarm =>
      obtain ⟨rfl, rfl⟩ := Prod.mk.inj (Option.some.inj ran)
      refine supervised_answered rfl rfl (by decide) not_false ?_ ?_
      · unfold SafetySupervisorImpl.disarm
        split
        · rintro ⟨⟩
        · rename_i armed
          exact fun _ => ⟨armed, rfl, rfl, rfl⟩
      · unfold SafetySupervisorImpl.disarm
        split
        · rename_i disarmed
          exact fun _ => ⟨disarmed, rfl⟩
        · rintro ⟨⟩
  | selectFilter => exact selectFilter_answered (Option.some.inj ran)
  | loopTiming =>
      have ran := Option.some.inj ran
      unfold Cli.loopTiming at ran
      split at ran
      · rename_i reset
        obtain ⟨rfl, rfl⟩ := Prod.mk.inj ran
        exact .reports rfl rfl not_false not_false ((if_pos reset).mpr rfl)
      · rename_i plain
        obtain ⟨rfl, rfl⟩ := Prod.mk.inj ran
        exact .reports rfl rfl not_false not_false ((if_neg plain).mpr rfl)
  | move => exact move_answered coherent (Option.some.inj ran)
  | strategy => exact strategy_answered coherent (Option.some.inj ran)
  | param => exact param_answered coherent ran

variable [FloatGeometry F] [FloatPi F] [FloatBits F] [FloatImage F] [PitchFilter C F]
  [PitchFilter K F]

/-- Every line that is typed in a run from here is answered, and its reply is true. -/
def TellsTruth (start : Main F S C K) : Prop :=
  ∀ main now command params, machine.Reachable start main →
    ∃ reply next, command.run (main.begin now) params = some (reply, next) ∧
      machine.step main (now, .typed command params) = some next ∧
      (main.begin now).Truthful next params command reply

/-- The application answers every line with a usage exactly when it cannot be read, with a refusal
exactly when the robot does not obey, both without an effect, and otherwise with what was done. -/
theorem replies_truthful {fullScale : DutyCycle} {decay : Decay}
    {sensingConfig : InertialSensingImpl.Config F} {estimationConfig : AttitudeEstimationImpl.Config F}
    {complementary : C} {kalman : K} {strategies : List S}
    {odometryConfig : WheelOdometryImpl.Config F} {balanceConfig : BalanceControlImpl.Config F}
    {safetyConfig : SafetySupervisorImpl.Config F} {identityAddress : MacAddress} {now : TimePoint}
    {start : Main F S C K}
    (constructed : construct fullScale decay sensingConfig estimationConfig complementary kalman
      strategies odometryConfig balanceConfig safetyConfig identityAddress now = some start) :
    start.TellsTruth := by
  intro main now command params reached
  obtain ⟨moment, built⟩ := construct_wires constructed
  obtain ⟨caller, coherent⟩ := reachable_coherent (Firmware.construct_starts built).1 reached
  obtain ⟨⟨reply, next⟩, ran⟩ := Option.isSome_iff_exists.mp
    (run_answers (main.begin now) command params)
  refine ⟨reply, next, ran, congrArg (Option.map Prod.snd) ran, ?_⟩
  have engaged : (main.begin now).balanceControl.engaged = true ↔
      (main.begin now).supervisor.mode = .armed := coherent.engaged
  exact (run_answered engaged ran).truthful

section Bench
open Bench

/-- The powered application tells the truth. -/
theorem powered_replies_truthful : ∃ start, powered = some start ∧ start.TellsTruth := by
  obtain ⟨start, constructed⟩ := powered_starts
  exact ⟨start, constructed, replies_truthful constructed⟩

end Bench
end Main
end InvertedPendulum.Application
