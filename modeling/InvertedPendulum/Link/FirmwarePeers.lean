import InvertedPendulum.Application.Robot
import InvertedPendulum.Link.Service

namespace InvertedPendulum.Application
open Platform Odometry Sensing Control Balance Safety Telemetry Link

namespace Firmware
variable {F S τ : Type} [FloatArithmetic F] [FloatRounding F] [ControlStrategy S F]
  [InertialSensing τ]

instance : SafetySupervisor (Firmware F S τ) where
  arm firmware := firmware.supervisor.arm.map id firmware.withSupervisor
  disarm firmware := firmware.supervisor.disarm.map id firmware.withSupervisor
  clearFault firmware := firmware.supervisor.clearFault.map id firmware.withSupervisor
  calibrate firmware := firmware.supervisor.calibrate.map id firmware.withSupervisor
  current firmware := firmware.supervisor.mode
  latchedCause firmware := firmware.supervisor.cause

instance : OperatedControl (Firmware F S τ) F where
  strategyCount firmware := OperatedControl.strategyCount firmware.control
  strategyName firmware := OperatedControl.strategyName firmware.control
  activeStrategy firmware := OperatedControl.activeStrategy firmware.control
  select firmware index :=
    (OperatedControl.select firmware.control index).map id firmware.withControl
  parameters firmware := OperatedControl.parameters firmware.control
  parameter firmware := OperatedControl.parameter firmware.control
  setParameter firmware index value :=
    (OperatedControl.setParameter firmware.control index value).map
      (Prod.map id firmware.withControl)
  move firmware setpoints :=
    (OperatedControl.move firmware.control setpoints).map id firmware.withControl
  cancelMotion firmware := firmware.withControl (OperatedControl.cancelMotion firmware.control)

instance : TelemetrySource (Firmware F S τ) F where
  latest firmware := firmware.recorder.latest

/-- The firmware keeps the contract that its balance control keeps. -/
instance [StrategyContract S] : OperatedContract (Firmware F S τ) where
  named firmware := OperatedContract.named firmware.control
  valued firmware := OperatedContract.valued firmware.control
  answered firmware index value inRange := by
    show Option.isSome (Option.map _ _) = true
    rw [Option.isSome_map]
    exact OperatedContract.answered firmware.control index value inRange
  kept firmware written index value answer wrote := by
    obtain ⟨⟨_, control⟩, stored, same⟩ := Option.map_eq_some_iff.mp wrote
    obtain ⟨-, rfl⟩ := Prod.mk.inj same
    exact OperatedContract.kept firmware.control control index value _ stored

/-- The firmware of `Main.cpp` right after it is powered. -/
def powered : Option (Firmware Extended (HostedStrategy (GainRow Extended) (VelocityPid Extended)
    Extended) (Gyroscope Extended)) :=
  (InertialSensingImpl.construct .default).bind fun sensing => main 1000 ⟨0, ⟨0, 0⟩, ⟨sensing, 0⟩⟩

end Firmware
end InvertedPendulum.Application
