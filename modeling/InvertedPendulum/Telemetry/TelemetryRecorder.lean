import InvertedPendulum.Balance.BalanceControl
import InvertedPendulum.Safety.SafetySupervisor

namespace InvertedPendulum.Telemetry
open Estimation Odometry Control Balance Safety

structure Sample (F : Type) where
  pitch : F
  pitchRate : F
  forwardVelocity : F
  yawRate : F
  effortLeft : F
  effortRight : F
  mode : Mode
  cause : FaultCause

/-- The link reads the latest sample. -/
class TelemetrySource (σ : Type) (F : outParam Type) where
  latest : σ → Sample F

/-- All four references of the recorder lead into one state. -/
structure TelemetryRecorder (F σ : Type) where
  next : σ
  latest : Sample F

namespace TelemetryRecorder
variable {F σ : Type}

def construct [FloatArithmetic F] (next : σ) : TelemetryRecorder F σ where
  next
  latest := ⟨0, 0, 0, 0, 0, 0, .init, .none⟩

variable [BalanceStage σ F] [BalanceControl σ F] [WheelOdometry σ F] [SafetySupervisor σ]

/-- The sample is taken after the iteration has gone down the chain. -/
def balance (recorder : TelemetryRecorder F σ) (estimate : Estimate F) (interval : Duration) :
    TelemetryRecorder F σ :=
  let next := BalanceStage.balance recorder.next estimate interval
  let chassis := WheelOdometry.chassis next
  let effort := BalanceControl.appliedEffort next
  { next
    latest := ⟨estimate.pitch, estimate.pitchRate, chassis.forwardVelocity, chassis.yawRate,
      effort.left, effort.right, SafetySupervisor.current next, SafetySupervisor.latchedCause next⟩ }

instance : BalanceStage (TelemetryRecorder F σ) F where
  balance := balance

omit [BalanceStage σ F] [BalanceControl σ F] [WheelOdometry σ F] [SafetySupervisor σ] in
instance : TelemetrySource (TelemetryRecorder F σ) F where
  latest := latest

end TelemetryRecorder
end InvertedPendulum.Telemetry
