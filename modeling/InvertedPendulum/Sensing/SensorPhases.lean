import InvertedPendulum.Sensing.InertialSensorStm

namespace InvertedPendulum.Sensing
open Platform Odometry Reactive Machine

namespace Mpu9250Core

/-- The device is in one of these conditions, which its requests and notices change. -/
inductive Condition where
  | asleep
  | initializing
  | awake
  | stopping
  deriving DecidableEq

/-- The device takes a request only in some conditions. -/
def Condition.Admits : Condition → Request → Prop
  | .asleep, .initializeDevice => True
  | .initializing, .stop => True
  | .awake, .startAccelerometer | .awake, .startGyroscope | .awake, .stop => True
  | _, _ => False

def Condition.after (condition : Condition) : Request → Condition
  | .initializeDevice => .initializing
  | .startAccelerometer | .startGyroscope => condition
  | .stop => .stopping

/-- A device is lawful when it promises these conditions wherever it takes a request. A stop abandons
the initialization that it finds under way, and samples come in any condition. -/
structure Lawful {D : Type} [Mpu9250Core D] (condition : D → Condition) : Prop where
  requested {device : D} {request : Request} : (condition device).Admits request →
    condition (Mpu9250Core.request device request) = (condition device).after request
  initialized {device after : D} {success : Bool} :
    notify device (.initialized success) = some after →
      condition device = .initializing ∧ condition after = if success then .awake else .asleep
  stopped {device after : D} : notify device .stopped = some after →
    condition device = .stopping ∧ condition after = .asleep
  accelerated {device after : D} {samples : List Int32} :
    notify device (.acceleration samples) = some after → condition after = condition device
  turned {device after : D} {samples : List Int32} :
    notify device (.angularVelocity samples) = some after → condition after = condition device

/-- A device that is nothing but its condition samples in every condition. -/
instance : Mpu9250Core Condition where
  request := Condition.after
  notify condition
    | .initialized success =>
        if condition = .initializing then some (if success then .awake else .asleep) else none
    | .stopped => if condition = .stopping then some .asleep else none
    | .acceleration _ | .angularVelocity _ => some condition

theorem condition_lawful : Lawful (id : Condition → Condition) where
  requested _ := rfl
  initialized given := by
    obtain ⟨due, same⟩ := Option.ite_none_right_eq_some.mp given
    exact ⟨due, (Option.some.inj same).symm⟩
  stopped given := by
    obtain ⟨due, same⟩ := Option.ite_none_right_eq_some.mp given
    exact ⟨due, (Option.some.inj same).symm⟩
  accelerated given := (Option.some.inj given).symm
  turned given := (Option.some.inj given).symm

end Mpu9250Core

namespace InertialSensorStm
open Mpu9250Core

/-- The service that the sensor gives is the condition of the device and the client that waits for
samples. -/
structure Service (C : Type) where
  condition : Condition
  client : Option C

def beginSampling : List Request := [.startAccelerometer, .startGyroscope]

/-- The service answers each event with its next state and its requests of the device. -/
def Service.serve {C : Type} (service : Service C) : Event C → Option (Service C × List Request)
  | .start onSample => match service.condition with
    | .asleep => some (⟨.initializing, some onSample⟩, [.initializeDevice])
    | .initializing => some (⟨.initializing, some onSample⟩, [])
    | .awake => some (⟨.awake, some onSample⟩, beginSampling)
    | .stopping => some (⟨.stopping, some onSample⟩, [])
  | .stop => match service.condition with
    | .asleep => some (⟨.asleep, none⟩, [])
    | .initializing | .awake => some (⟨.stopping, none⟩, [.stop])
    | .stopping => some (⟨.stopping, none⟩, [])
  | .notice (.initialized success) => match service.condition with
    | .initializing =>
        if success then some (⟨.awake, service.client⟩, beginSampling)
        else some (⟨.asleep, service.client⟩, [])
    | _ => none
  | .notice .stopped => match service.condition, service.client with
    | .stopping, some onSample => some (⟨.initializing, some onSample⟩, [.initializeDevice])
    | .stopping, none => some (⟨.asleep, none⟩, [])
    | _, _ => none
  | .notice (.acceleration _) | .notice (.angularVelocity _) => some (service, [])

variable {F C D : Type}

/-- The flags of the sensor tell the condition of the device. -/
def phase (sensor : InertialSensorStm F C D) : Condition :=
  if sensor.stopping then .stopping
  else if sensor.initializing then .initializing
  else if sensor.sampling then .awake
  else .asleep

def service (sensor : InertialSensorStm F C D) : Service C := ⟨sensor.phase, sensor.onSample⟩

/-- The flags agree with the device, and a device at work has a client. -/
structure Synchronized (condition : D → Condition) (sensor : InertialSensorStm F C D) : Prop where
  device : condition sensor.device = sensor.phase
  sampling : sensor.sampling = true → sensor.stopping = false ∧ sensor.initializing = false
  identified : sensor.stopping = false → sensor.identified = sensor.sampling
  client : sensor.onSample = none → sensor.phase = .asleep ∨ sensor.phase = .stopping

/-- The sensor follows its service over an event, and makes only requests that the device admits. -/
structure Serves (condition : D → Condition) (sensor : InertialSensorStm F C D) (event : Event C)
    (next : InertialSensorStm F C D) : Prop where
  served : sensor.service.serve event = some (next.service, next.requests.map Prod.snd)
  admitted : ∀ made ∈ next.requests, (condition made.1).Admits made.2
  synchronized : next.Synchronized condition

section Steps
variable [Mpu9250Core D] {condition : D → Condition} {sensor : InertialSensorStm F C D}

omit [Mpu9250Core D] in
/-- The flags of a synchronized sensor have four meanings. -/
theorem Synchronized.standing (synchronized : sensor.Synchronized condition) :
    (sensor.phase = .asleep ∧ sensor.stopping = false ∧ sensor.initializing = false ∧
        sensor.sampling = false ∧ sensor.identified = false) ∨
      (sensor.phase = .initializing ∧ sensor.stopping = false ∧ sensor.initializing = true ∧
        sensor.sampling = false ∧ sensor.identified = false) ∨
      (sensor.phase = .awake ∧ sensor.stopping = false ∧ sensor.initializing = false ∧
        sensor.sampling = true ∧ sensor.identified = true) ∨
      (sensor.phase = .stopping ∧ sensor.stopping = true ∧ sensor.sampling = false) := by
  obtain ⟨-, alone, known, -⟩ := synchronized
  unfold phase
  cases stopping : sensor.stopping with
  | true =>
      have quiet : sensor.sampling = false := by
        by_contra sampling
        have moving := (alone (eq_true_of_ne_false sampling)).1
        rw [stopping] at moving
        cases moving
      simp [quiet]
  | false =>
      have identified := known stopping
      cases sampling : sensor.sampling with
      | true => simp [identified, sampling, (alone sampling).2]
      | false => cases initializing : sensor.initializing <;> simp [identified, sampling]

/-- A device that is awake takes both requests for samples and stays awake. -/
theorem startSampling_awake (lawful : Lawful condition) (sensor : InertialSensorStm F C D)
    (awake : condition sensor.device = .awake) (fresh : sensor.requests = []) :
    condition sensor.startSampling.device = .awake ∧
      sensor.startSampling.requests.map Prod.snd = beginSampling ∧
      ∀ made ∈ sensor.startSampling.requests, (condition made.1).Admits made.2 := by
  have accelerometer : (condition sensor.device).Admits .startAccelerometer := by
    rw [awake]
    trivial
  have stays := (lawful.requested accelerometer).trans awake
  have gyroscope : (condition (Mpu9250Core.request sensor.device .startAccelerometer)).Admits
      .startGyroscope := by
    rw [stays]
    trivial
  refine ⟨(lawful.requested gyroscope).trans stays, ?_, ?_⟩
  · simp [startSampling, requesting, beginSampling, fresh]
  · simp [startSampling, requesting, fresh, accelerometer, gyroscope]

theorem start_serves (lawful : Lawful condition) (synchronized : sensor.Synchronized condition)
    (fresh : sensor.requests = []) (onSample : C) :
    sensor.Serves condition (.start onSample) (sensor.start onSample) := by
  have agreed := synchronized.device
  rcases synchronized.standing with
    ⟨phase, stopping, initializing, sampling, identified⟩ |
    ⟨phase, stopping, initializing, sampling, identified⟩ |
    ⟨phase, stopping, initializing, sampling, identified⟩ | ⟨phase, stopping, sampling⟩
  · have admits : (condition sensor.device).Admits .initializeDevice := by
      rw [agreed, phase]
      trivial
    have requested := lawful.requested admits
    constructor
    · simp [start, requesting, service, Service.serve, InertialSensorStm.phase, *]
    · simpa [start, requesting, *] using admits
    · constructor <;> simp [start, requesting, InertialSensorStm.phase, Condition.after, *]
  · constructor
    · simp [start, service, Service.serve, InertialSensorStm.phase, *]
    · simp [start, *]
    · constructor <;> simp [start, InertialSensorStm.phase, *]
  · let started := { sensor with onSample := some onSample, accelerationReceived := false }
    obtain ⟨awake, made, admitted⟩ := startSampling_awake lawful started
      (agreed.trans phase) fresh
    have starts : sensor.start onSample = started.startSampling := by
      simp [start, started, stopping, identified]
    rw [starts]
    constructor
    · rw [made]
      simp [started, startSampling, requesting, service, Service.serve, InertialSensorStm.phase, *]
    · exact admitted
    · constructor
      · rw [awake]
        simp [started, startSampling, requesting, InertialSensorStm.phase, *]
      all_goals simp [started, startSampling, requesting, InertialSensorStm.phase, *]
  · constructor
    · simp [start, service, Service.serve, InertialSensorStm.phase, *]
    · simp [start, *]
    · constructor <;> simp [start, InertialSensorStm.phase, *]

theorem stop_serves (lawful : Lawful condition) (synchronized : sensor.Synchronized condition)
    (fresh : sensor.requests = []) : sensor.Serves condition .stop sensor.stop := by
  have agreed := synchronized.device
  rcases synchronized.standing with
    ⟨phase, stopping, initializing, sampling, identified⟩ |
    ⟨phase, stopping, initializing, sampling, identified⟩ |
    ⟨phase, stopping, initializing, sampling, identified⟩ | ⟨phase, stopping, sampling⟩
  · constructor
    · simp [stop, service, Service.serve, InertialSensorStm.phase, *]
    · simp [stop, *]
    · constructor <;> simp [stop, InertialSensorStm.phase, *]
  · have admits : (condition sensor.device).Admits .stop := by
      rw [agreed, phase]
      trivial
    have requested := lawful.requested admits
    constructor
    · simp [stop, requesting, service, Service.serve, InertialSensorStm.phase, *]
    · simpa [stop, requesting, *] using admits
    · constructor <;> simp [stop, requesting, InertialSensorStm.phase, Condition.after, *]
  · have admits : (condition sensor.device).Admits .stop := by
      rw [agreed, phase]
      trivial
    have requested := lawful.requested admits
    constructor
    · simp [stop, requesting, service, Service.serve, InertialSensorStm.phase, *]
    · simpa [stop, requesting, *] using admits
    · constructor <;> simp [stop, requesting, InertialSensorStm.phase, Condition.after, *]
  · constructor
    · simp [stop, service, Service.serve, InertialSensorStm.phase, *]
    · simp [stop, *]
    · constructor <;> simp [stop, InertialSensorStm.phase, *]

/-- The end of an initialization starts the samples of the client that waits, or ends in sleep. -/
theorem initialized_serves (lawful : Lawful condition) (synchronized : sensor.Synchronized condition)
    (fresh : sensor.requests = []) {success : Bool} {device : D}
    (notified : Mpu9250Core.notify sensor.device (.initialized success) = some device) :
    sensor.Serves condition (.notice (.initialized success))
      ({ sensor with device }.onInitialized success) := by
  obtain ⟨initializing, ended⟩ := lawful.initialized notified
  have phase : sensor.phase = .initializing := synchronized.device.symm.trans initializing
  rcases synchronized.standing with other | standing | other | other
  · rw [phase] at other
    cases other.1
  · obtain ⟨-, stopping, initializing, sampling, identified⟩ := standing
    obtain ⟨onSample, client⟩ : ∃ onSample, sensor.onSample = some onSample := by
      cases waiting : sensor.onSample with
      | none =>
          rcases synchronized.client waiting with asleep | left
          · rw [phase] at asleep
            cases asleep
          · rw [phase] at left
            cases left
      | some onSample => exact ⟨onSample, rfl⟩
    cases success with
    | false =>
        constructor
        · simp [onInitialized, service, Service.serve, InertialSensorStm.phase, *]
        · simp [onInitialized, *]
        · constructor <;> simp [onInitialized, InertialSensorStm.phase, *]
    | true =>
        let answered := { sensor with device, initializing := false, identified := true }
        obtain ⟨awake, made, admitted⟩ := startSampling_awake lawful answered ended fresh
        have starts : { sensor with device }.onInitialized true = answered.startSampling := by
          simp [onInitialized, answered, client]
        rw [starts]
        constructor
        · rw [made]
          simp [answered, startSampling, requesting, service, Service.serve,
            InertialSensorStm.phase, *]
        · exact admitted
        · constructor
          · rw [awake]
            simp [answered, startSampling, requesting, InertialSensorStm.phase, *]
          all_goals simp [answered, startSampling, requesting, InertialSensorStm.phase, *]
  · rw [phase] at other
    cases other.1
  · rw [phase] at other
    cases other.1

/-- The end of a stop initializes the device again for a client that waits. -/
theorem stopped_serves (lawful : Lawful condition) (synchronized : sensor.Synchronized condition)
    (fresh : sensor.requests = []) {device : D}
    (notified : Mpu9250Core.notify sensor.device .stopped = some device) :
    sensor.Serves condition (.notice .stopped) { sensor with device }.onStopped := by
  obtain ⟨stopping, asleep⟩ := lawful.stopped notified
  have phase : sensor.phase = .stopping := synchronized.device.symm.trans stopping
  rcases synchronized.standing with other | other | other | standing
  · rw [phase] at other
    cases other.1
  · rw [phase] at other
    cases other.1
  · rw [phase] at other
    cases other.1
  · obtain ⟨-, stopping, sampling⟩ := standing
    cases client : sensor.onSample with
    | none =>
        constructor
        · simp [onStopped, service, Service.serve, InertialSensorStm.phase, *]
        · simp [onStopped, *]
        · constructor <;> simp [onStopped, InertialSensorStm.phase, *]
    | some onSample =>
        have admits : (condition device).Admits .initializeDevice := by
          rw [asleep]
          trivial
        have requested := lawful.requested admits
        constructor
        · simp [onStopped, start, requesting, service, Service.serve, InertialSensorStm.phase, *]
        · simpa [onStopped, start, requesting, *] using admits
        · constructor <;>
            simp [onStopped, start, requesting, InertialSensorStm.phase, Condition.after, *]

end Steps

/-- A sample changes nothing but what is pending and delivered. -/
structure Unmoved (before after : InertialSensorStm F C D) : Prop where
  device : after.device = before.device
  sampling : after.sampling = before.sampling
  onSample : after.onSample = before.onSample
  identified : after.identified = before.identified
  initializing : after.initializing = before.initializing
  stopping : after.stopping = before.stopping
  requests : after.requests = before.requests

section Samples
variable [FloatArithmetic F] {sensor next : InertialSensorStm F C D} {samples : List Int32}

theorem onAcceleration_unmoved {now : TimePoint}
    (sampled : sensor.onAcceleration now samples = some next) : Unmoved sensor next := by
  unfold onAcceleration at sampled
  split at sampled
  · obtain ⟨acceleration, framed, rfl⟩ := Option.map_eq_some_iff.mp sampled
    exact ⟨rfl, rfl, rfl, rfl, rfl, rfl, rfl⟩
  · cases sampled

theorem onAngularVelocity_unmoved [FloatPi F]
    (sampled : sensor.onAngularVelocity samples = some next) : Unmoved sensor next := by
  unfold onAngularVelocity at sampled
  split at sampled
  · split at sampled
    · obtain rfl := Option.some.inj sampled
      exact ⟨rfl, rfl, rfl, rfl, rfl, rfl, rfl⟩
    · obtain ⟨angularRate, framed, rfl⟩ := Option.map_eq_some_iff.mp sampled
      exact ⟨rfl, rfl, rfl, rfl, rfl, rfl, rfl⟩
  · cases sampled

omit [FloatArithmetic F] in
theorem Unmoved.service {before after : InertialSensorStm F C D} (unmoved : Unmoved before after) :
    after.service = before.service := by
  unfold InertialSensorStm.service phase
  rw [unmoved.stopping, unmoved.initializing, unmoved.sampling, unmoved.onSample]

omit [FloatArithmetic F] in
/-- A sample finds and leaves the sensor synchronized. -/
theorem Synchronized.unmoved {condition : D → Condition} {before after : InertialSensorStm F C D}
    (synchronized : before.Synchronized condition) {device : D}
    (same : condition device = condition before.device)
    (unmoved : Unmoved { before with device } after) : after.Synchronized condition := by
  have phase : after.phase = before.phase := congrArg Service.condition unmoved.service
  constructor
  · rw [phase, unmoved.device]
    exact same.trans synchronized.device
  · rw [unmoved.sampling, unmoved.stopping, unmoved.initializing]
    exact synchronized.sampling
  · rw [unmoved.stopping, unmoved.identified, unmoved.sampling]
    exact synchronized.identified
  · rw [phase, unmoved.onSample]
    exact synchronized.client

end Samples

section Runs
variable [FloatArithmetic F] [FloatPi F] [Mpu9250Core D] {condition : D → Condition}
  {sensor next : InertialSensorStm F C D}

/-- Every event of a synchronized sensor is served. -/
theorem step_serves (lawful : Lawful condition) (synchronized : sensor.Synchronized condition)
    {event : TimePoint × Event C} (stepped : machine.step sensor event = some next) :
    sensor.Serves condition event.2 next := by
  obtain ⟨now, event⟩ := event
  let begun := { sensor with requests := [], delivered := [] }
  have begunSynchronized : begun.Synchronized condition :=
    ⟨synchronized.device, synchronized.sampling, synchronized.identified, synchronized.client⟩
  suffices serves : begun.Serves condition event next from
    ⟨serves.served, serves.admitted, serves.synchronized⟩
  cases event with
  | start onSample =>
      obtain rfl := Option.some.inj stepped
      exact start_serves lawful begunSynchronized rfl onSample
  | stop =>
      obtain rfl := Option.some.inj stepped
      exact stop_serves lawful begunSynchronized rfl
  | notice notice =>
      obtain ⟨device, noticed, handled⟩ := Option.bind_eq_some_iff.mp stepped
      cases notice with
      | initialized success =>
          obtain rfl := Option.some.inj handled
          exact initialized_serves lawful begunSynchronized rfl noticed
      | stopped =>
          obtain rfl := Option.some.inj handled
          exact stopped_serves lawful begunSynchronized rfl noticed
      | acceleration samples =>
          have unmoved := onAcceleration_unmoved handled
          have requests : next.requests = [] := unmoved.requests
          constructor
          · rw [unmoved.service, requests]
            rfl
          · rw [requests]
            exact List.forall_mem_nil _
          · exact begunSynchronized.unmoved (lawful.accelerated noticed) unmoved
      | angularVelocity samples =>
          have unmoved := onAngularVelocity_unmoved handled
          have requests : next.requests = [] := unmoved.requests
          constructor
          · rw [unmoved.service, requests]
            rfl
          · rw [requests]
            exact List.forall_mem_nil _
          · exact begunSynchronized.unmoved (lawful.turned noticed) unmoved

omit [FloatPi F] [Mpu9250Core D] in
theorem construct_synchronized (axisMap : AxisMap F) {device : D}
    (asleep : condition device = .asleep) :
    (construct axisMap device : InertialSensorStm F C D).Synchronized condition where
  device := asleep
  sampling := by
    intro sampling
    cases sampling
  identified _ := rfl
  client _ := .inl rfl

theorem synchronized_kept (lawful : Lawful condition) (sensor : InertialSensorStm F C D)
    (event : TimePoint × Event C) (next : InertialSensorStm F C D)
    (synchronized : sensor.Synchronized condition)
    (stepped : machine.step sensor event = some next) : next.Synchronized condition :=
  (step_serves lawful synchronized stepped).synchronized

/-- Along every run the sensor follows its service, its flags agree with the device, and it makes no
request that the device does not admit. -/
theorem sensor_serves (lawful : Lawful condition) (axisMap : AxisMap F) {device : D}
    (asleep : condition device = .asleep) (events : List (TimePoint × Event C)) :
    machine.Along (fun sensor event => ∀ next, machine.step sensor event = some next →
      sensor.Serves condition event.2 next) (construct axisMap device) events := by
  refine along_iff_prefix.mpr ?_
  intro front event back _ sensor ran next stepped
  exact step_serves lawful (run_invariant (synchronized_kept lawful)
    (construct_synchronized axisMap asleep) ran) stepped

/-- The sensor with the default map reads gravity, and restarts a client that comes during a stop. -/
theorem restarted_sensor_serves :
    let _ : FloatPi ℚ := ⟨13176795 / 4194304⟩
    machine.Along (fun sensor event => ∀ next, machine.step sensor event = some next →
      sensor.Serves id event.2 next)
      (construct AxisMap.default Condition.asleep : InertialSensorStm ℚ Nat Condition)
      [(0, .start 1), (0, .stop), (0, .start 2), (1, .notice .stopped),
        (2, .notice (.initialized true)), (3, .notice (.acceleration [0, 0, -9807])),
        (3, .notice (.angularVelocity [0, 0, 0]))] :=
  let _ : FloatPi ℚ := ⟨13176795 / 4194304⟩
  sensor_serves condition_lawful AxisMap.default rfl _

/-- An observer knows whether the last thing that the sensor was asked for has failed. -/
def failedLast (failed : Bool) (_ : InertialSensorStm F C D) (event : TimePoint × Event C)
    (_ : InertialSensorStm F C D) : Bool :=
  match event.2 with
  | .notice (.initialized success) => ! success
  | .start _ | .stop | .notice .stopped => false
  | .notice (.acceleration _) | .notice (.angularVelocity _) => failed

/-- A client waits for this many answers of the device. -/
def awaited : Condition → Nat
  | .stopping => 2
  | .initializing => 1
  | .asleep | .awake => 0

def Event.Answers : Event C → Bool
  | .notice (.initialized _) | .notice .stopped => true
  | _ => false

/-- The device succeeds while the client waits. -/
def Event.Succeeds : Event C → Prop
  | .start _ | .stop | .notice (.initialized false) => False
  | _ => True

omit [FloatArithmetic F] [FloatPi F] [Mpu9250Core D] in
/-- Each answer that succeeds brings a waiting client closer to its samples. -/
theorem Service.recovers {service next : Service C} {event : Event C} {requests : List Request}
    (served : service.serve event = some (next, requests)) (working : service.condition ≠ .asleep)
    {client : C} (waiting : service.client = some client) (succeeds : event.Succeeds) :
    next.client = some client ∧ next.condition ≠ .asleep ∧
      awaited next.condition + (if event.Answers then 1 else 0) = awaited service.condition := by
  obtain ⟨condition, waits⟩ := service
  obtain rfl : waits = some client := waiting
  cases event with
  | start | stop => exact succeeds.elim
  | notice notice =>
      cases notice with
      | acceleration | angularVelocity =>
          obtain ⟨rfl, -⟩ := Prod.mk.inj (Option.some.inj served)
          exact ⟨rfl, working, rfl⟩
      | initialized success =>
          cases success with
          | false => exact succeeds.elim
          | true =>
              cases condition with
              | initializing =>
                  obtain ⟨rfl, -⟩ := Prod.mk.inj (Option.some.inj served)
                  exact ⟨rfl, Condition.noConfusion, rfl⟩
              | asleep | awake | stopping => cases served
      | stopped =>
          cases condition with
          | stopping =>
              obtain ⟨rfl, -⟩ := Prod.mk.inj (Option.some.inj served)
              exact ⟨rfl, Condition.noConfusion, rfl⟩
          | asleep | awake | initializing => cases served

/-- A client that waits on a device at work keeps waiting, and is served after as many answers as it
awaits. -/
theorem Synchronized.recovers (lawful : Lawful condition)
    (synchronized : sensor.Synchronized condition) (working : sensor.phase ≠ .asleep) {client : C}
    (waiting : sensor.onSample = some client) {final : InertialSensorStm F C D}
    {events : List (TimePoint × Event C)} (succeeds : ∀ event ∈ events, event.2.Succeeds)
    (ran : machine.run sensor events = some final) :
    final.onSample = some client ∧ final.phase ≠ .asleep ∧
      awaited final.phase + events.countP (fun event => event.2.Answers) = awaited sensor.phase := by
  induction events generalizing sensor with
  | nil =>
      obtain rfl := Option.some.inj ran
      exact ⟨waiting, working, rfl⟩
  | cons event rest ih =>
      obtain ⟨next, stepped, ran⟩ := run_cons.mp ran
      have serves := step_serves lawful synchronized stepped
      obtain ⟨still, works, answered⟩ := Service.recovers serves.served working waiting
        (succeeds event List.mem_cons_self)
      obtain ⟨served, ended, later⟩ := ih serves.synchronized works still
        (fun event member => succeeds event (List.mem_cons_of_mem _ member)) ran
      refine ⟨served, ended, ?_⟩
      rw [List.countP_cons, ← add_assoc, later]
      exact answered

/-- Without a client the device rests, a client is left without samples only by a failure, and every
other client that waits is served after at most two answers of the device. -/
structure Attends (sensor : InertialSensorStm F C D) (failed : Bool) : Prop where
  resting : sensor.onSample = none → sensor.phase = .asleep ∨ sensor.phase = .stopping
  failed : ∀ client, sensor.onSample = some client → sensor.phase = .asleep → failed = true
  served : ∀ client events final, sensor.onSample = some client → sensor.phase ≠ .asleep →
    (∀ event ∈ events, event.2.Succeeds) → machine.run sensor events = some final →
    final.onSample = some client ∧ final.phase ≠ .asleep ∧
      awaited final.phase + events.countP (fun event => event.2.Answers) = awaited sensor.phase

omit [FloatArithmetic F] [FloatPi F] [Mpu9250Core D] in
/-- Only a failure leaves a client with a device asleep. -/
theorem Service.failed {service next : Service C} {event : Event C} {requests : List Request}
    (served : service.serve event = some (next, requests)) {client : C}
    (waiting : next.client = some client) (asleep : next.condition = .asleep) :
    event = .notice (.initialized false) ∨
      (∃ samples, event = .notice (.acceleration samples) ∨
        event = .notice (.angularVelocity samples)) ∧ next = service := by
  obtain ⟨condition, waits⟩ := service
  cases event with
  | start onSample =>
      cases condition <;> obtain ⟨rfl, -⟩ := Prod.mk.inj (Option.some.inj served) <;> cases asleep
  | stop =>
      cases condition <;> obtain ⟨rfl, -⟩ := Prod.mk.inj (Option.some.inj served) <;> cases waiting
  | notice notice =>
      cases notice with
      | acceleration samples =>
          obtain ⟨rfl, -⟩ := Prod.mk.inj (Option.some.inj served)
          exact .inr ⟨⟨samples, .inl rfl⟩, rfl⟩
      | angularVelocity samples =>
          obtain ⟨rfl, -⟩ := Prod.mk.inj (Option.some.inj served)
          exact .inr ⟨⟨samples, .inr rfl⟩, rfl⟩
      | initialized success =>
          cases success with
          | false => exact .inl rfl
          | true =>
              cases condition with
              | initializing =>
                  obtain ⟨rfl, -⟩ := Prod.mk.inj (Option.some.inj served)
                  cases asleep
              | asleep | awake | stopping => cases served
      | stopped =>
          cases condition with
          | stopping =>
              cases waits with
              | none =>
                  obtain ⟨rfl, -⟩ := Prod.mk.inj (Option.some.inj served)
                  cases waiting
              | some onSample =>
                  obtain ⟨rfl, -⟩ := Prod.mk.inj (Option.some.inj served)
                  cases asleep
          | asleep | awake | initializing => cases served

/-- A synchronized sensor leaves a client without samples only where the device has failed. -/
structure Watched (condition : D → Condition) (pair : InertialSensorStm F C D × Bool) : Prop where
  synchronized : pair.1.Synchronized condition
  failed : ∀ client, pair.1.onSample = some client → pair.1.phase = .asleep → pair.2 = true

theorem watched_kept (lawful : Lawful condition) (pair : InertialSensorStm F C D × Bool)
    (event : TimePoint × Event C) (later : InertialSensorStm F C D × Bool)
    (watched : Watched condition pair)
    (both : (machine.observed failedLast).step pair event = some later) :
    Watched condition later := by
  obtain ⟨before, marked⟩ := pair
  obtain ⟨next, after⟩ := later
  obtain ⟨stepped, rfl⟩ := observed_step.mp both
  have serves := step_serves lawful watched.synchronized stepped
  constructor
  · exact serves.synchronized
  · intro client waiting sleeps
    show failedLast marked before event next = true
    unfold failedLast
    rcases Service.failed serves.served waiting sleeps with fails | ⟨⟨samples, sampled⟩, same⟩
    · rw [fails]
      rfl
    · have failed := watched.failed client ((congrArg Service.client same).symm.trans waiting)
        ((congrArg Service.condition same).symm.trans sleeps)
      rcases sampled with sampled | sampled
      · rw [sampled]
        exact failed
      · rw [sampled]
        exact failed

omit [FloatPi F] [Mpu9250Core D] in
theorem watched_initial (axisMap : AxisMap F) {device : D} (asleep : condition device = .asleep) :
    Watched condition ((construct axisMap device : InertialSensorStm F C D), false) where
  synchronized := construct_synchronized axisMap asleep
  failed := by
    intro client waiting
    cases waiting

/-- In every reachable state the sensor attends to its client. -/
theorem sensor_attends (lawful : Lawful condition) (axisMap : AxisMap F) {device : D}
    (asleep : condition device = .asleep) {events : List (TimePoint × Event C)}
    {sensor : InertialSensorStm F C D} {failed : Bool}
    (ran : (machine.observed failedLast).run (construct axisMap device, false) events =
      some (sensor, failed)) : sensor.Attends failed := by
  have watched := run_invariant (watched_kept lawful) (watched_initial axisMap asleep) ran
  constructor
  · exact watched.synchronized.client
  · exact watched.failed
  · intro client later final waiting working succeeds ran
    exact watched.synchronized.recovers lawful working waiting succeeds ran

/-- A client that comes during a stop is attended to. -/
theorem restarted_client_attended :
    let _ : FloatPi ℚ := ⟨13176795 / 4194304⟩
    ∃ (sensor : InertialSensorStm ℚ Nat Condition) (failed : Bool),
      (machine.observed failedLast).run (construct AxisMap.default .asleep, false)
        [(0, .start 1), (1, .stop), (2, .start 2), (3, .notice .stopped)] = some (sensor, failed) ∧
      sensor.Attends failed := by
  intro _
  obtain ⟨⟨sensor, failed⟩, ran⟩ : ∃ reached : InertialSensorStm ℚ Nat Condition × Bool,
      (machine.observed failedLast).run (construct AxisMap.default .asleep, false)
        [(0, .start 1), (1, .stop), (2, .start 2), (3, .notice .stopped)] = some reached := ⟨_, rfl⟩
  exact ⟨sensor, failed, ran, sensor_attends condition_lawful AxisMap.default rfl ran⟩

end Runs
end InertialSensorStm
end InvertedPendulum.Sensing
