import InvertedPendulum.Application.Firmware
import InvertedPendulum.Safety.ModeMachine

namespace InvertedPendulum.Application
open Platform Motion Odometry Estimation Sensing Control Balance Safety Telemetry Reactive Machine

variable {F S τ : Type} [FloatArithmetic F]

/-- These operations are requests to the supervisor. -/
def Operation.request? : Operation F → Option (Safety.Request F)
  | .balance estimate interval => some (.balance estimate interval)
  | .steer interval => some (.steer interval)
  | .supervise => some .supervise
  | .arm => some .arm
  | .disarm => some .disarm
  | .clearFault => some .clearFault
  | .calibrate => some .calibrate
  | _ => none

namespace Firmware

/-- A command to balance control that only prepares later iterations. -/
def Prepares (before after : BalanceControlImpl F S (Hardware F)) : Prop :=
  after.peers = before.peers ∧ after.engaged = before.engaged ∧ after.applied = before.applied

theorem move_prepares (control : BalanceControlImpl F S (Hardware F)) (commanded : Setpoints F) :
    Prepares control (control.move commanded).2 := by
  unfold BalanceControlImpl.move
  split <;> exact ⟨rfl, rfl, rfl⟩

omit [FloatArithmetic F] in
theorem select_prepares (control : BalanceControlImpl F S (Hardware F)) (index : Nat) :
    Prepares control (control.select index).2 := by
  unfold BalanceControlImpl.select
  split <;> exact ⟨rfl, rfl, rfl⟩

theorem setParameter_prepares [ControlStrategy S F]
    {control : BalanceControlImpl F S (Hardware F)} {index : Nat} {value : F}
    {written : Bool × BalanceControlImpl F S (Hardware F)}
    (stored : control.setParameter index value = some written) : Prepares control written.2 := by
  simp only [BalanceControlImpl.setParameter] at stored
  split at stored
  · obtain rfl := Option.some.inj stored
    exact ⟨rfl, rfl, rfl⟩
  · split at stored
    · obtain rfl := Option.some.inj stored
      exact ⟨rfl, rfl, rfl⟩
    · obtain ⟨strategy, -, rfl⟩ := Option.map_eq_some_iff.mp stored
      exact ⟨rfl, rfl, rfl⟩

variable [FloatRounding F] [ControlStrategy S F] [InertialSensing τ]

/-- An operation does one of these things to the chain. -/
inductive Performs (before : Firmware F S τ) : Operation F → Firmware F S τ → Prop where
  | requested (operation : Operation F) (request : Safety.Request F) (after : Firmware F S τ)
      (requested : operation.request? = some request)
      (supervisor : after.supervisor = before.supervisor.perform request)
      (outstanding : after.configurationOutstanding = before.configurationOutstanding) :
      Performs before operation after
  | prepared (operation : Operation F) (control : BalanceControlImpl F S (Hardware F))
      (prepares : Prepares before.control control) :
      Performs before operation (before.withControl control)
  | tristate : Performs before .tristate (before.withActuation (before.actuation.disable .tristate))
  | brake : Performs before .brake (before.withActuation (before.actuation.disable .brake))
  | driverFault : Performs before .driverFault (before.withActuation before.actuation.onFault)
  | configured (verified : Bool) (outstanding : before.configurationOutstanding = true) :
      Performs before (.configured verified)
        { before.withActuation (before.actuation.onConfigured verified) with
          configurationOutstanding := false }

/-- A request to the supervisor runs on the supervisor alone. -/
theorem perform_request {before after : Firmware F S τ} {operation : Operation F}
    {request : Safety.Request F} (requested : operation.request? = some request)
    (performed : before.perform operation = some after) :
    after.supervisor = before.supervisor.perform request ∧
      after.configurationOutstanding = before.configurationOutstanding := by
  cases operation <;> cases requested <;> obtain rfl := Option.some.inj performed <;> exact ⟨rfl, rfl⟩

/-- Every operation does one of these things. -/
theorem perform_performs {before after : Firmware F S τ} {operation : Operation F}
    (performed : before.perform operation = some after) : before.Performs operation after := by
  cases operation with
  | balance | steer | supervise | arm | disarm | clearFault | calibrate =>
      obtain ⟨supervisor, outstanding⟩ := perform_request rfl performed
      exact .requested _ _ _ rfl supervisor outstanding
  | move setpoints =>
      obtain rfl := Option.some.inj performed
      exact .prepared _ _ (move_prepares before.control setpoints)
  | cancelMotion =>
      obtain rfl := Option.some.inj performed
      exact .prepared _ _ ⟨rfl, rfl, rfl⟩
  | select index =>
      obtain rfl := Option.some.inj performed
      exact .prepared _ _ (select_prepares before.control index)
  | setParameter index value =>
      obtain ⟨written, stored, rfl⟩ := Option.map_eq_some_iff.mp performed
      exact .prepared _ _ (setParameter_prepares stored)
  | tristate =>
      obtain rfl := Option.some.inj performed
      exact .tristate
  | brake =>
      obtain rfl := Option.some.inj performed
      exact .brake
  | driverFault =>
      obtain rfl := Option.some.inj performed
      exact .driverFault
  | configured verified =>
      simp only [perform] at performed
      split at performed
      · rename_i outstanding
        obtain rfl := Option.some.inj performed
        exact .configured verified outstanding
      · cases performed

/-- The supervisor stays well formed and keeps its configuration. -/
theorem supervised_kept (config : SafetySupervisorImpl.Config F) (state : Firmware F S τ)
    (event : Moment F τ × Operation F) (next : Firmware F S τ)
    (supervised : state.supervisor.WellFormed ∧ state.supervisor.config = config)
    (stepped : machine.step state event = some next) :
    next.supervisor.WellFormed ∧ next.supervisor.config = config := by
  obtain ⟨formed, same⟩ := supervised
  obtain ⟨moment, operation⟩ := event
  have began : (state.begin moment).supervisor.WellFormed := ⟨formed.cause, formed.limit, formed.count⟩
  cases perform_performs stepped with
  | requested _ request _ _ supervisor =>
      rw [supervisor]
      have outcome := (state.begin moment).supervisor.perform_outcome request
      exact ⟨outcome.wellFormed began, outcome.config.1.trans same⟩
  | prepared | tristate | brake | driverFault | configured =>
      exact ⟨⟨began.cause, began.limit, began.count⟩, same⟩

end Firmware
end InvertedPendulum.Application
