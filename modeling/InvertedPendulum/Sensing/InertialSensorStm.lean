import InvertedPendulum.Platform.InertialFrame
import InvertedPendulum.Reactive.Machine

namespace InvertedPendulum.Sensing
open Platform Odometry Reactive

/-- The device tells its driver that an initialization or a stop has ended, or that it has sampled. -/
inductive Mpu9250Core.Notice where
  | initialized (success : Bool)
  | stopped
  | acceleration (samples : List Int32)
  | angularVelocity (samples : List Int32)

inductive Mpu9250Core.Request where
  | initializeDevice
  | startAccelerometer
  | startGyroscope
  | stop
  deriving DecidableEq

/-- `drivers::Mpu9250Core` takes requests, and has no notice to give where it is not due. -/
class Mpu9250Core (D : Type) where
  request : D → Mpu9250Core.Request → D
  notify : D → Mpu9250Core.Notice → Option D

/-- A client is known by the function that it passes to `Start`. The requests of the event under way
are listed with the device that they find, and the samples with the client that they go to. -/
structure InertialSensorStm (F C D : Type) where
  device : D
  axisMap : AxisMap F
  sampling : Bool
  onSample : Option C
  pending : InertialSample F
  accelerationReceived : Bool
  identified : Bool
  initializing : Bool
  stopping : Bool
  requests : List (D × Mpu9250Core.Request)
  delivered : List (C × InertialSample F)

namespace InertialSensorStm
variable {F C D : Type} [FloatArithmetic F] [Mpu9250Core D]

omit [Mpu9250Core D] in
def construct (axisMap : AxisMap F) (device : D) : InertialSensorStm F C D where
  device
  axisMap
  sampling := false
  onSample := none
  pending := ⟨⟨0, 0, 0⟩, ⟨0, 0, 0⟩, 0, false⟩
  accelerationReceived := false
  identified := false
  initializing := false
  stopping := false
  requests := []
  delivered := []

section Requests
omit [FloatArithmetic F]

def requesting (sensor : InertialSensorStm F C D) (request : Mpu9250Core.Request) :
    InertialSensorStm F C D :=
  { sensor with
    device := Mpu9250Core.request sensor.device request
    requests := sensor.requests ++ [(sensor.device, request)] }

def startSampling (sensor : InertialSensorStm F C D) : InertialSensorStm F C D :=
  ({ sensor with sampling := true }.requesting .startAccelerometer).requesting .startGyroscope

def start (sensor : InertialSensorStm F C D) (onSample : C) : InertialSensorStm F C D :=
  let started := { sensor with onSample := some onSample, accelerationReceived := false }
  if started.stopping then started
  else if started.identified then started.startSampling
  else if ! started.initializing then { started with initializing := true }.requesting .initializeDevice
  else started

/-- The device ends an initialization by this function. -/
def onInitialized (sensor : InertialSensorStm F C D) (success : Bool) : InertialSensorStm F C D :=
  let answered := { sensor with initializing := false, identified := success }
  if answered.identified ∧ answered.onSample.isSome then answered.startSampling else answered

def stop (sensor : InertialSensorStm F C D) : InertialSensorStm F C D :=
  let left := { sensor with onSample := none, accelerationReceived := false }
  if left.stopping ∨ (! left.sampling ∧ ! left.initializing) then left
  else { left with sampling := false, stopping := true }.requesting .stop

/-- The device ends a stop by this function. -/
def onStopped (sensor : InertialSensorStm F C D) : InertialSensorStm F C D :=
  let ended := { sensor with stopping := false, initializing := false, identified := false }
  match ended.onSample with
  | some onSample => ended.start onSample
  | none => ended

end Requests

variable [FloatPi F]

omit [Mpu9250Core D] [FloatPi F] in
/-- The assertions on the number of samples and on the map of the axes stop the firmware. -/
def onAcceleration (sensor : InertialSensorStm F C D) (now : TimePoint) :
    List Int32 → Option (InertialSensorStm F C D)
  | [first, second, third] =>
      (toBodyFrame sensor.axisMap (milliMeterPerSecondSquaredToMeterPerSecondSquared first)
        (milliMeterPerSecondSquaredToMeterPerSecondSquared second)
        (milliMeterPerSecondSquaredToMeterPerSecondSquared third)).map fun acceleration =>
          { sensor with
            pending := { sensor.pending with acceleration, sampledAt := now }
            accelerationReceived := true }
  | _ => none

omit [Mpu9250Core D] in
def onAngularVelocity (sensor : InertialSensorStm F C D) :
    List Int32 → Option (InertialSensorStm F C D)
  | [first, second, third] =>
      if ! sensor.accelerationReceived then some sensor
      else
        (toBodyFrame sensor.axisMap (milliDegreePerSecondToRadianPerSecond first)
          (milliDegreePerSecondToRadianPerSecond second)
          (milliDegreePerSecondToRadianPerSecond third)).map fun angularRate =>
            let pending := { sensor.pending with angularRate, valid := true }
            { sensor with
              accelerationReceived := false
              pending
              delivered := sensor.delivered ++
                (sensor.onSample.map fun onSample => (onSample, pending)).toList }
  | _ => none

/-- The client starts or stops the sensor, or the device gives notice. -/
inductive Event (C : Type) where
  | start (onSample : C)
  | stop
  | notice (notice : Mpu9250Core.Notice)

def notified (sensor : InertialSensorStm F C D) (now : TimePoint) :
    Mpu9250Core.Notice → Option (InertialSensorStm F C D)
  | .initialized success => some (sensor.onInitialized success)
  | .stopped => some sensor.onStopped
  | .acceleration samples => sensor.onAcceleration now samples
  | .angularVelocity samples => sensor.onAngularVelocity samples

def perform (sensor : InertialSensorStm F C D) (now : TimePoint) :
    Event C → Option (InertialSensorStm F C D)
  | .start onSample => some (sensor.start onSample)
  | .stop => some sensor.stop
  | .notice notice =>
      (Mpu9250Core.notify sensor.device notice).bind fun device =>
        { sensor with device }.notified now notice

/-- An event starts with empty lists of requests and samples. -/
def machine : Machine (InertialSensorStm F C D) (TimePoint × Event C) where
  step sensor event := { sensor with requests := [], delivered := [] }.perform event.1 event.2

end InertialSensorStm
end InvertedPendulum.Sensing
