import InvertedPendulum.Motion.BridgeGate
import InvertedPendulum.Motion.CurrentScaling

namespace InvertedPendulum.Motion
open Platform Reactive Machine CurrentScaling

/-- The firmware sets these fields of `drivers::StepperMotorControllerDrv8711::Configuration`. The
dead times and the decay modes are those of the driver. -/
structure Drv8711Configuration (T M : Type) where
  dtime : T
  isgain : Isgain
  torque : UInt8
  decayMode : M
  pwmMode : Bool
  enable : Bool

structure Drv8711DriverConfiguration.Config (T M : Type) where
  senseResistanceMilliOhm : UInt32
  tripCurrentMilliAmpere : UInt32
  deadTime : T
  currentDecay : M
  wakeUpDelay : Duration

/-- The timer runs out at its time. -/
structure Drv8711DriverConfiguration (T M : Type) where
  configuration : Drv8711Configuration T M
  wakeUpDelay : Duration
  wakeUpTimer : Option TimePoint

namespace Drv8711DriverConfiguration
variable {T M : Type}

def driverConfigurationFor (config : Config T M) : Drv8711Configuration T M :=
  let scaling := scaleCurrent config.senseResistanceMilliOhm config.tripCurrentMilliAmpere
  { dtime := config.deadTime
    isgain := scaling.senseGain
    torque := scaling.torque
    decayMode := config.currentDecay
    pwmMode := true
    enable := true }

def construct (config : Config T M) : Drv8711DriverConfiguration T M where
  configuration := driverConfigurationFor config
  wakeUpDelay := config.wakeUpDelay
  wakeUpTimer := none

/-- `Configure` starts the timer. -/
def configure (configuring : Drv8711DriverConfiguration T M) (now : TimePoint) :
    Drv8711DriverConfiguration T M :=
  { configuring with wakeUpTimer := some (now + configuring.wakeUpDelay) }

end Drv8711DriverConfiguration

/-- The actuation waits for the configuration of its driver, which owes an answer once it was asked.
The requests of the event under way are listed. -/
structure PoweredDriver (T M : Type) where
  configuring : Drv8711DriverConfiguration T M
  owing : Bool
  gate : ConfiguredActuation
  requests : List (Drv8711Configuration T M)

/-- The timer runs out, the driver answers, or the actuation is used. -/
inductive PoweredDriver.Event (F : Type) where
  | apply (effortLeft effortRight : F)
  | disable (disableState : DisableState)
  | clearFault
  | driverFault
  | wakeUp
  | answered (verified : Bool)

namespace PoweredDriver
variable {F T M : Type}

/-- The actuation asks for its configuration when it is constructed. -/
def construct (fullScale : DutyCycle) (decay : Decay) (config : Drv8711DriverConfiguration.Config T M)
    (now : TimePoint) : PoweredDriver T M where
  configuring := (Drv8711DriverConfiguration.construct config).configure now
  owing := false
  gate := .construct fullScale decay
  requests := []

variable [FloatArithmetic F] [FloatRounding F]

def use (driver : PoweredDriver T M) (input : ActuationInput F) : Option (PoweredDriver T M) :=
  (driver.gate.accept input).map fun gate => { driver with gate, requests := [] }

/-- The timer has no early end, and the driver answers only what it was asked. -/
def perform (driver : PoweredDriver T M) (now : TimePoint) : Event F → Option (PoweredDriver T M)
  | .apply effortLeft effortRight => driver.use (.apply effortLeft effortRight)
  | .disable disableState => driver.use (F := F) (.disable disableState)
  | .clearFault => driver.use (F := F) .clearFault
  | .driverFault => driver.use (F := F) .driverFault
  | .wakeUp =>
      match driver.configuring.wakeUpTimer with
      | some due =>
          if due ≤ now then
            some {
              configuring := { driver.configuring with wakeUpTimer := none }
              owing := true
              gate := { driver.gate with actuation := driver.gate.begin }
              requests := [driver.configuring.configuration] }
          else none
      | none => none
  | .answered verified =>
      if driver.owing then { driver with owing := false }.use (F := F) (.configured verified) else none

def machine : Machine (PoweredDriver T M) (TimePoint × Event F) where
  step driver event := driver.perform event.1 event.2

/-- An observer logs what the driver was asked, when, and what it answered. -/
structure Log (T M : Type) where
  asked : List (TimePoint × Drv8711Configuration T M)
  answer : Option Bool

omit [FloatArithmetic F] [FloatRounding F] in
def Event.answer : Event F → Option Bool
  | .answered verified => some verified
  | _ => none

omit [FloatArithmetic F] [FloatRounding F] in
def Log.observe (log : Log T M) (_ : PoweredDriver T M) (event : TimePoint × Event F)
    (after : PoweredDriver T M) : Log T M where
  asked := log.asked ++ after.requests.map fun configuration => (event.1, configuration)
  answer := event.2.answer.or log.answer

/-- The driver wakes up, then takes the one configuration, and then answers. -/
inductive Stage (config : Drv8711DriverConfiguration.Config T M) (start : TimePoint) :
    PoweredDriver T M → Log T M → Prop
  | waking {driver} (set : driver.configuring =
        (Drv8711DriverConfiguration.construct config).configure start)
      (silent : driver.owing = false) (state : driver.gate.actuation.state = .configuring)
      (outstanding : driver.gate.outstanding = true) : Stage config start driver ⟨[], none⟩
  | asked {driver} (time : TimePoint) (awake : start + config.wakeUpDelay ≤ time)
      (past : driver.configuring.wakeUpTimer = none) (owing : driver.owing = true)
      (state : driver.gate.actuation.state = .configuring)
      (outstanding : driver.gate.outstanding = true) :
      Stage config start driver
        ⟨[(time, Drv8711DriverConfiguration.driverConfigurationFor config)], none⟩
  | answered {driver} (time : TimePoint) (awake : start + config.wakeUpDelay ≤ time)
      (past : driver.configuring.wakeUpTimer = none) (silent : driver.owing = false)
      (verified : Bool) (state : driver.gate.actuation.state = if verified then .ready else .failed)
      (outstanding : driver.gate.outstanding = false) :
      Stage config start driver
        ⟨[(time, Drv8711DriverConfiguration.driverConfigurationFor config)], some verified⟩

/-- The bridges are driven only after a driver that was awake has verified the one configuration that
it was asked to take, and this one trips within the requested current. -/
structure Energized (config : Drv8711DriverConfiguration.Config T M) (start : TimePoint)
    (log : Log T M) : Prop where
  verified : log.answer = some true
  once : ∃ time, start + config.wakeUpDelay ≤ time ∧
    log.asked = [(time, Drv8711DriverConfiguration.driverConfigurationFor config)]
  within : WithinRequest config.senseResistanceMilliOhm config.tripCurrentMilliAmpere
    ⟨(Drv8711DriverConfiguration.driverConfigurationFor config).isgain,
      (Drv8711DriverConfiguration.driverConfigurationFor config).torque⟩

variable {config : Drv8711DriverConfiguration.Config T M} {start : TimePoint}
  {driver next : PoweredDriver T M} {log : Log T M}

/-- An event uses the actuation, wakes the driver up or brings its answer. -/
theorem step_cases {now : TimePoint} {event : Event F}
    (stepped : machine.step driver (now, event) = some next) :
    (event.answer = none ∧ next = { driver with gate := next.gate, requests := [] } ∧
        ∃ input : ActuationInput F, (∀ verified, input ≠ .configured verified) ∧
          driver.gate.accept input = some next.gate) ∨
      (event.answer = none ∧ ∃ due, driver.configuring.wakeUpTimer = some due ∧ due ≤ now ∧
        next = {
          configuring := { driver.configuring with wakeUpTimer := none }
          owing := true
          gate := { driver.gate with actuation := driver.gate.begin }
          requests := [driver.configuring.configuration] }) ∨
      ∃ verified, event.answer = some verified ∧ driver.owing = true ∧
        next = { driver with owing := false, gate := next.gate, requests := [] } ∧
        driver.gate.accept (.configured verified : ActuationInput F) = some next.gate := by
  have used : ∀ input : ActuationInput F, driver.use input = some next →
      next = { driver with gate := next.gate, requests := [] } ∧
        driver.gate.accept input = some next.gate := by
    intro input uses
    obtain ⟨gate, accepted, rfl⟩ := Option.map_eq_some_iff.mp uses
    exact ⟨rfl, accepted⟩
  cases event with
  | apply effortLeft effortRight =>
      obtain ⟨same, accepted⟩ := used (.apply effortLeft effortRight) stepped
      exact .inl ⟨rfl, same, _, by rintro _ ⟨⟩, accepted⟩
  | disable disableState =>
      obtain ⟨same, accepted⟩ := used (.disable disableState) stepped
      exact .inl ⟨rfl, same, _, by rintro _ ⟨⟩, accepted⟩
  | clearFault =>
      obtain ⟨same, accepted⟩ := used .clearFault stepped
      exact .inl ⟨rfl, same, _, by rintro _ ⟨⟩, accepted⟩
  | driverFault =>
      obtain ⟨same, accepted⟩ := used .driverFault stepped
      exact .inl ⟨rfl, same, _, by rintro _ ⟨⟩, accepted⟩
  | wakeUp =>
      simp only [machine, perform] at stepped
      split at stepped
      · rename_i due set
        obtain ⟨awake, same⟩ := Option.ite_none_right_eq_some.mp stepped
        exact .inr (.inl ⟨rfl, due, set, awake, (Option.some.inj same).symm⟩)
      · cases stepped
  | answered verified =>
      obtain ⟨owing, told⟩ := Option.ite_none_right_eq_some.mp stepped
      obtain ⟨gate, accepted, rfl⟩ := Option.map_eq_some_iff.mp told
      exact .inr (.inr ⟨verified, rfl, owing, rfl, accepted⟩)

/-- A use keeps the state of the driver. -/
theorem accept_still {gate after : ConfiguredActuation} {input : ActuationInput F}
    (unanswered : ∀ verified, input ≠ .configured verified)
    (accepted : gate.accept input = some after) :
    after.actuation.state = gate.actuation.state ∧ after.outstanding = gate.outstanding := by
  have still : after.outstanding = gate.outstanding := by
    cases input with
    | configured verified => exact absurd rfl (unanswered verified)
    | apply | disable | clearFault | driverFault =>
        obtain rfl := Option.some.inj accepted
        rfl
  rcases ConfiguredActuation.accept_state accepted with kept | ⟨before, answered⟩
  · exact kept
  · rw [still, before] at answered
    cases answered

/-- Every event keeps the driver in its stage. -/
theorem stage_kept {event : TimePoint × Event F} (staged : Stage config start driver log)
    (stepped : machine.step driver event = some next) :
    Stage config start next (log.observe driver event next) := by
  obtain ⟨now, event⟩ := event
  unfold Log.observe
  rcases step_cases stepped with
    ⟨silent, same, input, unanswered, accepted⟩ | ⟨silent, due, set, awake, rfl⟩ |
    ⟨verified, told, owing, same, accepted⟩
  · obtain ⟨state, still⟩ := accept_still unanswered accepted
    rw [silent, Option.none_or, same, List.map_nil, List.append_nil]
    cases staged with
    | waking set silent configuring owed =>
        exact .waking set silent (state.trans configuring) (still.trans owed)
    | asked time awake past owing configuring owed =>
        exact .asked time awake past owing (state.trans configuring) (still.trans owed)
    | answered time awake past silent verified told once =>
        refine .answered time awake ?_ ?_ verified ?_ ?_
        · exact past
        · exact silent
        · exact state.trans told
        · exact still.trans once
  · rw [silent, Option.none_or]
    cases staged with
    | waking begun silent configuring owed =>
        rw [begun] at set ⊢
        obtain rfl := Option.some.inj set
        exact .asked now awake rfl rfl configuring owed
    | asked time woke past =>
        rw [past] at set
        cases set
    | answered time woke past =>
        rw [past] at set
        cases set
  · rw [told, same, List.map_nil, List.append_nil, Option.some_or]
    cases staged with
    | waking begun silent =>
        rw [silent] at owing
        cases owing
    | asked time awake past owes configuring owed =>
        obtain ⟨-, answered⟩ := Option.ite_none_right_eq_some.mp accepted
        have taken := (Option.some.inj answered).symm
        refine .answered time awake ?_ ?_ verified ?_ ?_
        · exact past
        · rfl
        · show next.gate.actuation.state = _
          rw [taken]
          rfl
        · show next.gate.outstanding = _
          rw [taken]
    | answered time awake past silent =>
        rw [silent] at owing
        cases owing

omit [FloatArithmetic F] [FloatRounding F] in
/-- A driver that permits the drive has verified its configuration. -/
theorem Stage.energized (staged : Stage config start driver log)
    (permitted : ¬ driver.gate.Refused) : Energized config start log := by
  have ready : driver.gate.actuation.state = .ready := by
    by_contra other
    exact permitted (.inl other)
  cases staged with
  | waking _ _ configuring =>
      rw [configuring] at ready
      cases ready
  | asked _ _ _ _ configuring =>
      rw [configuring] at ready
      cases ready
  | answered time awake past silent verified told =>
      rw [told] at ready
      cases verified with
      | false => cases ready
      | true => exact ⟨rfl, ⟨time, awake, rfl⟩, scaleCurrent_within _ _⟩

/-- A driver that is not energized sees releases alone and rests released, and it is asked at most
once, while it is awake. -/
structure Cautious (config : Drv8711DriverConfiguration.Config T M) (start : TimePoint)
    (pair : PoweredDriver T M × Log T M) (event : TimePoint × Event F) : Prop where
  rests : Energized config start pair.2 ∨ pair.1.gate.BridgesReleased
  drives : ∀ next, machine.step pair.1 event = some next →
    ∀ call ∈ next.gate.actuation.motors.calls,
      call = MotionActuationImpl.released ∨ Energized config start pair.2
  once : pair.2.asked.length ≤ 1
  awake : ∀ request ∈ pair.2.asked, start + config.wakeUpDelay ≤ request.1 ∧
    request.2 = Drv8711DriverConfiguration.driverConfigurationFor config

omit [FloatArithmetic F] [FloatRounding F] in
theorem construct_staged (fullScale : DutyCycle) (decay : Decay)
    (config : Drv8711DriverConfiguration.Config T M) (start : TimePoint) :
    Stage config start (construct fullScale decay config start) ⟨[], none⟩ :=
  .waking rfl rfl rfl rfl

/-- The gate of the driver stays guarded, and drives the bridges only where it is open. -/
theorem gate_kept {event : TimePoint × Event F} (guarded : driver.gate.Guarded)
    (stepped : machine.step driver event = some next) :
    next.gate.Guarded ∧ ∀ call ∈ next.gate.actuation.motors.calls,
      call = MotionActuationImpl.released ∨ ¬ driver.gate.Refused := by
  have accepts : ∀ {input : ActuationInput F}, driver.gate.accept input = some next.gate →
      next.gate.Guarded ∧ ∀ call ∈ next.gate.actuation.motors.calls,
        call = MotionActuationImpl.released ∨ ¬ driver.gate.Refused := by
    intro input accepted
    refine ⟨ConfiguredActuation.guarded_kept driver.gate input next.gate guarded accepted, ?_⟩
    intro call listed
    cases guarded.effect accepted with
    | quiet _ uncalled _ =>
        rw [uncalled] at listed
        cases listed
    | released _ called _ =>
        rw [called] at listed
        exact .inl (List.mem_singleton.mp listed)
    | driven opened _ => exact .inr opened
  obtain ⟨now, event⟩ := event
  rcases step_cases stepped with
    ⟨-, -, input, -, accepted⟩ | ⟨-, due, -, -, rfl⟩ | ⟨verified, -, -, -, accepted⟩
  · exact accepts accepted
  · exact ⟨⟨guarded.released, guarded.configuring⟩, List.forall_mem_nil _⟩
  · exact accepts accepted

/-- A driver in its stage has a guarded gate. -/
structure Underway (config : Drv8711DriverConfiguration.Config T M) (start : TimePoint)
    (pair : PoweredDriver T M × Log T M) : Prop where
  staged : Stage config start pair.1 pair.2
  guarded : pair.1.gate.Guarded

theorem underway_kept (pair : PoweredDriver T M × Log T M) (event : TimePoint × Event F)
    (later : PoweredDriver T M × Log T M) (underway : Underway config start pair)
    (both : (machine.observed Log.observe).step pair event = some later) :
    Underway config start later := by
  obtain ⟨driver, log⟩ := pair
  obtain ⟨next, after⟩ := later
  obtain ⟨stepped, rfl⟩ := observed_step.mp both
  exact ⟨stage_kept underway.staged stepped, (gate_kept underway.guarded stepped).1⟩

/-- Along every run no bridge is driven before the driver has woken up and has verified its
configuration. -/
theorem drive_awaits_configuration (fullScale : DutyCycle) (decay : Decay)
    (config : Drv8711DriverConfiguration.Config T M) (start : TimePoint)
    (events : List (TimePoint × Event F)) :
    (machine.observed Log.observe).Along (Cautious config start)
      (construct fullScale decay config start, ⟨[], none⟩) events := by
  refine along_iff_prefix.mpr ?_
  rintro front event back _ ⟨driver, log⟩ ran
  have constructed : Underway config start (construct fullScale decay config start, ⟨[], none⟩) :=
    ⟨construct_staged fullScale decay config start,
      ConfiguredActuation.construct_guarded fullScale decay⟩
  obtain ⟨staged, guarded⟩ := run_invariant underway_kept constructed ran
  constructor
  · by_cases refused : driver.gate.Refused
    · exact .inr (guarded.released refused)
    · exact .inl (staged.energized refused)
  · intro next stepped call listed
    rcases (gate_kept guarded stepped).2 call listed with released | opened
    · exact .inl released
    · exact .inr (staged.energized opened)
  · cases staged with
    | waking => exact Nat.zero_le 1
    | asked | answered => exact le_refl 1
  · cases staged with
    | waking => exact List.forall_mem_nil _
    | asked time awake =>
        intro request listed
        obtain rfl := List.mem_singleton.mp listed
        exact ⟨awake, rfl⟩
    | answered time awake =>
        intro request listed
        obtain rfl := List.mem_singleton.mp listed
        exact ⟨awake, rfl⟩

end PoweredDriver
end InvertedPendulum.Motion
