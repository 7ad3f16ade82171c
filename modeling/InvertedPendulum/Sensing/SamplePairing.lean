import InvertedPendulum.Sensing.SensorPhases

namespace InvertedPendulum.Sensing
open Platform Odometry Reactive Machine

namespace InertialSensorStm
open Mpu9250Core

/-- The client that waits, and the acceleration of the body with the time of it, until a rate comes. -/
structure Pairing (F C : Type) where
  client : Option C
  acceleration : Option (InertialAxes F × TimePoint)

/-- A sample has three values, which are converted and go to the body frame. -/
def inBody {F : Type} [FloatArithmetic F] (axisMap : AxisMap F) (convert : Int32 → F) :
    List Int32 → Option (InertialAxes F)
  | [first, second, third] => toBodyFrame axisMap (convert first) (convert second) (convert third)
  | _ => none

section Pairs
variable {F C D : Type} [FloatArithmetic F] [FloatPi F]

/-- Every start forgets the acceleration, that of a client that has waited for a stop included. -/
def Pairing.observe (axisMap : AxisMap F) (pairing : Pairing F C) (_ : InertialSensorStm F C D)
    (event : TimePoint × Event C) (_ : InertialSensorStm F C D) : Pairing F C :=
  match event.2 with
  | .start onSample => ⟨some onSample, none⟩
  | .stop => ⟨none, none⟩
  | .notice (.initialized _) => pairing
  | .notice .stopped => if pairing.client.isSome then ⟨pairing.client, none⟩ else pairing
  | .notice (.acceleration samples) =>
      { pairing with
        acceleration :=
          (inBody axisMap milliMeterPerSecondSquaredToMeterPerSecondSquared samples).map
            fun acceleration => (acceleration, event.1) }
  | .notice (.angularVelocity _) => { pairing with acceleration := none }

/-- A rate goes out with the acceleration that came before it, and nothing else goes out. -/
def Pairing.sends (axisMap : AxisMap F) (pairing : Pairing F C) :
    Event C → List (C × InertialSample F)
  | .notice (.angularVelocity samples) =>
      match pairing.client, pairing.acceleration,
        inBody axisMap milliDegreePerSecondToRadianPerSecond samples with
      | some client, some (acceleration, sampledAt), some angularRate =>
          [(client, ⟨angularRate, acceleration, sampledAt, true⟩)]
      | _, _, _ => []
  | _ => []

/-- The sensor holds the pending acceleration for the client of its pairing. -/
structure Paired (axisMap : AxisMap F) (pair : InertialSensorStm F C D × Pairing F C) : Prop where
  axisMap : pair.1.axisMap = axisMap
  client : pair.1.onSample = pair.2.client
  received : pair.1.accelerationReceived = pair.2.acceleration.isSome
  pending : ∀ acceleration sampledAt, pair.2.acceleration = some (acceleration, sampledAt) →
    pair.1.pending.acceleration = acceleration ∧ pair.1.pending.sampledAt = sampledAt

omit [FloatPi F] in
theorem onAcceleration_inBody {sensor next : InertialSensorStm F C D} {now : TimePoint}
    {samples : List Int32} (sampled : sensor.onAcceleration now samples = some next) :
    ∃ acceleration,
      inBody sensor.axisMap milliMeterPerSecondSquaredToMeterPerSecondSquared samples =
        some acceleration ∧
      next = { sensor with
        pending := { sensor.pending with acceleration, sampledAt := now }
        accelerationReceived := true } := by
  unfold onAcceleration at sampled
  split at sampled
  · obtain ⟨acceleration, framed, rfl⟩ := Option.map_eq_some_iff.mp sampled
    exact ⟨acceleration, framed, rfl⟩
  · cases sampled

theorem onAngularVelocity_inBody {sensor next : InertialSensorStm F C D} {samples : List Int32}
    (sampled : sensor.onAngularVelocity samples = some next) :
    (sensor.accelerationReceived = false ∧ next = sensor) ∨
      sensor.accelerationReceived = true ∧ ∃ angularRate,
        inBody sensor.axisMap milliDegreePerSecondToRadianPerSecond samples = some angularRate ∧
        next = { sensor with
          accelerationReceived := false
          pending := { sensor.pending with angularRate, valid := true }
          delivered := sensor.delivered ++ (sensor.onSample.map fun onSample =>
            (onSample, { sensor.pending with angularRate, valid := true })).toList } := by
  unfold onAngularVelocity at sampled
  split at sampled
  · split at sampled
    · rename_i missing
      obtain rfl := Option.some.inj sampled
      exact .inl ⟨by simpa using missing, rfl⟩
    · rename_i received
      obtain ⟨angularRate, framed, rfl⟩ := Option.map_eq_some_iff.mp sampled
      exact .inr ⟨by simpa using received, angularRate, framed, rfl⟩
  · cases sampled

end Pairs

section Requests
variable {F C D : Type} [Mpu9250Core D]

/-- Requests and flags keep what is pending and delivered. -/
structure SamePending (before after : InertialSensorStm F C D) : Prop where
  axisMap : after.axisMap = before.axisMap
  pending : after.pending = before.pending
  delivered : after.delivered = before.delivered

theorem start_pending (sensor : InertialSensorStm F C D) (onSample : C) :
    SamePending sensor (sensor.start onSample) ∧
      (sensor.start onSample).onSample = some onSample ∧
      (sensor.start onSample).accelerationReceived = false := by
  unfold start
  dsimp only
  split_ifs <;> exact ⟨⟨rfl, rfl, rfl⟩, rfl, rfl⟩

theorem stop_pending (sensor : InertialSensorStm F C D) :
    SamePending sensor sensor.stop ∧ sensor.stop.onSample = none ∧
      sensor.stop.accelerationReceived = false := by
  unfold stop
  dsimp only
  split_ifs <;> exact ⟨⟨rfl, rfl, rfl⟩, rfl, rfl⟩

theorem onInitialized_pending (sensor : InertialSensorStm F C D) (success : Bool) :
    SamePending sensor (sensor.onInitialized success) ∧
      (sensor.onInitialized success).onSample = sensor.onSample ∧
      (sensor.onInitialized success).accelerationReceived = sensor.accelerationReceived := by
  unfold onInitialized
  dsimp only
  split_ifs <;> exact ⟨⟨rfl, rfl, rfl⟩, rfl, rfl⟩

/-- The end of a stop is a start for the client that waits. -/
theorem onStopped_pending (sensor : InertialSensorStm F C D) :
    SamePending sensor sensor.onStopped ∧ sensor.onStopped.onSample = sensor.onSample ∧
      sensor.onStopped.accelerationReceived =
        if sensor.onSample.isSome then false else sensor.accelerationReceived := by
  obtain ⟨device, axisMap, sampling, client, pending, received, identified, initializing, stopping,
    requests, delivered⟩ := sensor
  cases client with
  | none => exact ⟨⟨rfl, rfl, rfl⟩, rfl, rfl⟩
  | some onSample =>
      obtain ⟨same, waits, received⟩ := start_pending (⟨device, axisMap, sampling, some onSample,
        pending, received, false, false, false, requests, delivered⟩ : InertialSensorStm F C D)
        onSample
      exact ⟨⟨same.axisMap, same.pending, same.delivered⟩, waits, received⟩

end Requests

section Runs
variable {F C D : Type} [FloatArithmetic F] [FloatPi F] [Mpu9250Core D] {axisMap : AxisMap F}
  {sensor next : InertialSensorStm F C D} {pairing : Pairing F C}

/-- An event of a paired sensor sends what its pairing sends. -/
theorem Paired.step (paired : Paired axisMap (sensor, pairing)) {event : TimePoint × Event C}
    (stepped : machine.step sensor event = some next) :
    next.delivered = pairing.sends axisMap event.2 ∧
      Paired axisMap (next, pairing.observe axisMap sensor event next) := by
  obtain ⟨now, event⟩ := event
  obtain ⟨mounted, client, received, pending⟩ := paired
  have forgotten : ∀ acceleration sampledAt,
      (none : Option (InertialAxes F × TimePoint)) = some (acceleration, sampledAt) →
        next.pending.acceleration = acceleration ∧ next.pending.sampledAt = sampledAt := by
    intro acceleration sampledAt held
    cases held
  cases event with
  | start onSample =>
      obtain rfl := Option.some.inj stepped
      obtain ⟨same, waits, cleared⟩ := start_pending
        { sensor with requests := [], delivered := [] } onSample
      exact ⟨same.delivered, same.axisMap.trans mounted, waits, cleared, forgotten⟩
  | stop =>
      obtain rfl := Option.some.inj stepped
      obtain ⟨same, waits, cleared⟩ := stop_pending { sensor with requests := [], delivered := [] }
      exact ⟨same.delivered, same.axisMap.trans mounted, waits, cleared, forgotten⟩
  | notice notice =>
      obtain ⟨device, noticed, handled⟩ := Option.bind_eq_some_iff.mp stepped
      cases notice with
      | initialized success =>
          obtain rfl := Option.some.inj handled
          obtain ⟨same, waits, kept⟩ := onInitialized_pending
            { sensor with requests := [], delivered := [], device } success
          refine ⟨same.delivered, same.axisMap.trans mounted, waits.trans client,
            kept.trans received, ?_⟩
          rw [same.pending]
          exact pending
      | stopped =>
          obtain rfl := Option.some.inj handled
          obtain ⟨same, waits, kept⟩ := onStopped_pending
            { sensor with requests := [], delivered := [], device }
          refine ⟨same.delivered, ?_⟩
          show Paired axisMap (_, if pairing.client.isSome then ⟨pairing.client, none⟩ else pairing)
          have waiting : sensor.onSample = pairing.client := client
          split
          · rename_i restarted
            rw [← waiting] at restarted
            exact ⟨same.axisMap.trans mounted, waits.trans client, kept.trans (if_pos restarted),
              forgotten⟩
          · rename_i idle
            rw [← waiting] at idle
            refine ⟨same.axisMap.trans mounted, waits.trans client,
              (kept.trans (if_neg idle)).trans received, ?_⟩
            rw [same.pending]
            exact pending
      | acceleration samples =>
          obtain ⟨acceleration, framed, rfl⟩ := onAcceleration_inBody handled
          have body : inBody axisMap milliMeterPerSecondSquaredToMeterPerSecondSquared samples =
              some acceleration := mounted ▸ framed
          refine ⟨rfl, mounted, client, ?_, ?_⟩
          · show true = ((inBody axisMap _ samples).map _).isSome
            rw [body]
            rfl
          · show ∀ held sampledAt, (inBody axisMap _ samples).map _ = some (held, sampledAt) → _
            rw [body]
            intro held sampledAt same
            obtain ⟨rfl, rfl⟩ := Prod.mk.inj (Option.some.inj same)
            exact ⟨rfl, rfl⟩
      | angularVelocity samples =>
          have accelerations : sensor.accelerationReceived = pairing.acceleration.isSome := received
          have waiting : sensor.onSample = pairing.client := client
          rcases onAngularVelocity_inBody handled with ⟨missing, rfl⟩ | ⟨ready, turned⟩
          · have absent : pairing.acceleration = none := by
              rw [← Option.not_isSome_iff_eq_none, ← accelerations]
              exact Bool.eq_false_iff.mp missing
            refine ⟨?_, mounted, client, missing, forgotten⟩
            simp only [Pairing.sends, absent]
            cases pairing.client <;> rfl
          · obtain ⟨angularRate, framed, rfl⟩ := turned
            have body : inBody axisMap milliDegreePerSecondToRadianPerSecond samples =
                some angularRate := mounted ▸ framed
            obtain ⟨⟨acceleration, sampledAt⟩, held⟩ : ∃ held, pairing.acceleration = some held := by
              rw [← Option.isSome_iff_exists, ← accelerations]
              exact ready
            obtain ⟨sameAcceleration, sameTime⟩ := pending acceleration sampledAt held
            have sent : pairing.sends axisMap (.notice (.angularVelocity samples)) =
                (pairing.client.map fun client =>
                  (client, (⟨angularRate, acceleration, sampledAt, true⟩ : InertialSample F))).toList := by
              simp only [Pairing.sends, held, body]
              cases pairing.client <;> rfl
            refine ⟨?_, mounted, client, rfl, forgotten⟩
            rw [sent, ← waiting, ← sameAcceleration, ← sameTime]
            rfl

omit [FloatPi F] [Mpu9250Core D] in
theorem construct_paired (axisMap : AxisMap F) (device : D) :
    Paired axisMap ((construct axisMap device : InertialSensorStm F C D), ⟨none, none⟩) where
  axisMap := rfl
  client := rfl
  received := rfl
  pending := by
    intro acceleration sampledAt held
    cases held

/-- Along every run, whatever the device does, the sensor sends a sample exactly when a rate follows an
acceleration with no start, stop or other rate between them, to the client that waits, with both
readings in the body frame and the time of the acceleration. -/
theorem samples_are_paired (axisMap : AxisMap F) (device : D)
    (events : List (TimePoint × Event C)) :
    (machine.observed (Pairing.observe axisMap)).Along
      (fun pair event => ∀ next, machine.step pair.1 event = some next →
        next.delivered = pair.2.sends axisMap event.2)
      ((construct axisMap device : InertialSensorStm F C D), ⟨none, none⟩) events := by
  refine along_iff_prefix.mpr ?_
  rintro front event back _ ⟨sensor, pairing⟩ ran next stepped
  have paired : Paired axisMap (sensor, pairing) := by
    refine run_invariant ?_ (construct_paired axisMap device) ran
    rintro ⟨before, earlier⟩ event ⟨after, later⟩ paired both
    obtain ⟨stepped, rfl⟩ := observed_step.mp both
    exact (paired.step stepped).2
  exact (paired.step stepped).1

end Runs
end InertialSensorStm
end InvertedPendulum.Sensing
