import InvertedPendulum.Estimation.AttitudeEstimation

namespace InvertedPendulum.Control
open Estimation

/-- The loop hands every balance iteration to this stage. -/
class BalanceStage (σ : Type) (F : outParam Type) where
  balance : σ → Estimate F → Duration → σ

/-- The loop hands every outer iteration to this stage. -/
class OuterStage (σ : Type) where
  steer : σ → Duration → σ

/-- The supervisor engages and disengages the stages that it owns. -/
class SupervisedControl (σ : Type) (F : outParam Type) extends BalanceStage σ F, OuterStage σ where
  engage : σ → σ
  disengage : σ → σ

end InvertedPendulum.Control
