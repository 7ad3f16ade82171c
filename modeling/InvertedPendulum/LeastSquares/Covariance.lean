import Mathlib.LinearAlgebra.Matrix.NonsingularInverse
import Mathlib.Algebra.Order.Field.Basic
import Mathlib.Tactic.FieldSimp
import Mathlib.Tactic.Linarith
import Mathlib.Tactic.Positivity

namespace LeastSquares
open Matrix
variable {ι F : Type*} [Fintype ι] [Field F] [LinearOrder F]

/-- A covariance is a symmetric and positive definite matrix. -/
@[ext] structure Covariance (ι F : Type*) [Fintype ι] [Field F] [LinearOrder F] where
  matrix : Matrix ι ι F
  symmetric : matrixᵀ = matrix
  positive : ∀ weight, weight ≠ 0 → 0 < weight ⬝ᵥ matrix *ᵥ weight

namespace Covariance
variable (covariance noise : Covariance ι F)

theorem spread_comm (first second : ι → F) :
    first ⬝ᵥ covariance.matrix *ᵥ second = second ⬝ᵥ covariance.matrix *ᵥ first := by
  rw [← dotProduct_transpose_mulVec, covariance.symmetric]

theorem spread_nonneg (weight : ι → F) : 0 ≤ weight ⬝ᵥ covariance.matrix *ᵥ weight := by
  by_cases nothing : weight = 0
  · rw [nothing, zero_dotProduct]
  · exact (covariance.positive weight nothing).le

/-- The spread of a sum has a mixed term. -/
theorem spread_add (first second : ι → F) :
    (first + second) ⬝ᵥ covariance.matrix *ᵥ (first + second) =
      first ⬝ᵥ covariance.matrix *ᵥ first + 2 * (first ⬝ᵥ covariance.matrix *ᵥ second) +
        second ⬝ᵥ covariance.matrix *ᵥ second := by
  rw [mulVec_add, dotProduct_add, add_dotProduct, add_dotProduct,
    covariance.spread_comm second first]
  ring

theorem spread_smul (factor : F) (weight : ι → F) :
    (factor • weight) ⬝ᵥ covariance.matrix *ᵥ (factor • weight) =
      factor ^ 2 * (weight ⬝ᵥ covariance.matrix *ᵥ weight) := by
  rw [mulVec_smul, dotProduct_smul, smul_dotProduct, smul_eq_mul, smul_eq_mul]
  ring

section Penalty
variable [DecidableEq ι]

theorem isUnit_det : IsUnit covariance.matrix.det := by
  rw [← isUnit_iff_isUnit_det, ← mulVec_injective_iff_isUnit]
  intro first second same
  by_contra apart
  have spread := covariance.positive (first - second) (sub_ne_zero.mpr apart)
  rw [mulVec_sub, sub_eq_zero.mpr same, dotProduct_zero] at spread
  exact lt_irrefl 0 spread

/-- Every deviation comes from a weight. -/
theorem exists_weight (deviation : ι → F) :
    ∃ weight, covariance.matrix *ᵥ weight = deviation := by
  refine ⟨covariance.matrix⁻¹ *ᵥ deviation, ?_⟩
  rw [mulVec_mulVec, mul_nonsing_inv _ covariance.isUnit_det, one_mulVec]

/-- A deviation is penalized by its square over the covariance. -/
noncomputable def penalty (deviation : ι → F) : F := deviation ⬝ᵥ covariance.matrix⁻¹ *ᵥ deviation

theorem penalty_mulVec (weight : ι → F) :
    covariance.penalty (covariance.matrix *ᵥ weight) = weight ⬝ᵥ covariance.matrix *ᵥ weight := by
  unfold penalty
  rw [mulVec_mulVec, nonsing_inv_mul _ covariance.isUnit_det, one_mulVec, dotProduct_comm]

@[simp] theorem penalty_zero : covariance.penalty 0 = 0 := zero_dotProduct _

theorem penalty_pos {deviation : ι → F} (deviates : deviation ≠ 0) :
    0 < covariance.penalty deviation := by
  obtain ⟨weight, rfl⟩ := covariance.exists_weight deviation
  rw [penalty_mulVec]
  apply covariance.positive
  rintro rfl
  exact deviates (mulVec_zero _)

variable [IsStrictOrderedRing F]

/-- Every weight bounds the penalty from below. -/
theorem penalty_ge (weight deviation : ι → F) :
    2 * (weight ⬝ᵥ deviation) - weight ⬝ᵥ covariance.matrix *ᵥ weight ≤
      covariance.penalty deviation := by
  obtain ⟨own, rfl⟩ := covariance.exists_weight deviation
  rw [penalty_mulVec]
  have apart := covariance.spread_nonneg (own + (-1 : F) • weight)
  rw [spread_add, spread_smul, mulVec_smul, dotProduct_smul, smul_eq_mul,
    covariance.spread_comm own weight] at apart
  linarith

end Penalty

section Diagonal
variable [DecidableEq ι] [IsStrictOrderedRing F]

/-- Independent coordinates have a diagonal covariance. -/
def diagonal (variance : ι → F) (positive : ∀ index, 0 < variance index) : Covariance ι F where
  matrix := Matrix.diagonal variance
  symmetric := diagonal_transpose variance
  positive weight something := by
    obtain ⟨index, nonzero⟩ := Function.ne_iff.mp something
    have square : ∀ other, weight other * (variance other * weight other) =
        variance other * weight other ^ 2 := by
      intro other
      ring
    simp only [dotProduct, mulVec_diagonal, square]
    refine Finset.sum_pos' ?_ ⟨index, Finset.mem_univ index, ?_⟩
    · intro other _
      exact mul_nonneg (positive other).le (sq_nonneg _)
    · exact mul_pos (positive index) (sq_pos_of_ne_zero nonzero)

/-- Independent coordinates are penalized on their own. -/
theorem penalty_diagonal {variance : ι → F} (positive : ∀ index, 0 < variance index)
    (deviation : ι → F) :
    (diagonal variance positive).penalty deviation = ∑ index, deviation index ^ 2 / variance index := by
  have weighed : (diagonal variance positive).matrix *ᵥ (fun index => deviation index / variance index) =
      deviation := by
    funext index
    exact (mulVec_diagonal _ _ _).trans (mul_div_cancel₀ _ (positive index).ne')
  have penalty := (diagonal variance positive).penalty_mulVec fun index => deviation index / variance index
  rw [weighed] at penalty
  rw [penalty]
  apply Finset.sum_congr rfl
  intro index _
  ring

end Diagonal

section Prediction
variable [IsStrictOrderedRing F]

/-- A move carries a covariance along and adds its noise to it. -/
def predicted (transition : Matrix ι ι F) : Covariance ι F where
  matrix := transition * covariance.matrix * transitionᵀ + noise.matrix
  symmetric := by
    rw [transpose_add, transpose_mul, transpose_mul, transpose_transpose, covariance.symmetric,
      noise.symmetric, Matrix.mul_assoc]
  positive weight something := by
    rw [add_mulVec, dotProduct_add, ← mulVec_mulVec, ← mulVec_mulVec,
      dotProduct_mulVec weight transition, ← mulVec_transpose]
    exact add_pos_of_nonneg_of_pos (covariance.spread_nonneg _) (noise.positive weight something)

variable (transition : Matrix ι ι F)

theorem predicted_mulVec (weight : ι → F) :
    (covariance.predicted noise transition).matrix *ᵥ weight =
      transition *ᵥ covariance.matrix *ᵥ transitionᵀ *ᵥ weight + noise.matrix *ᵥ weight := by
  show (transition * covariance.matrix * transitionᵀ + noise.matrix) *ᵥ weight = _
  rw [add_mulVec, ← mulVec_mulVec, ← mulVec_mulVec]

/-- The spread of a move is the spread before it and that of its noise. -/
theorem predicted_spread (weight : ι → F) :
    weight ⬝ᵥ (covariance.predicted noise transition).matrix *ᵥ weight =
      (transitionᵀ *ᵥ weight) ⬝ᵥ covariance.matrix *ᵥ (transitionᵀ *ᵥ weight) +
        weight ⬝ᵥ noise.matrix *ᵥ weight := by
  rw [predicted_mulVec, dotProduct_add, dotProduct_mulVec weight transition, ← mulVec_transpose]

variable [DecidableEq ι]

/-- No deviation before a move and no noise in it cost less together than the deviation after it. -/
theorem predicted_penalty_le (before moved : ι → F) :
    (covariance.predicted noise transition).penalty (transition *ᵥ before + moved) ≤
      covariance.penalty before + noise.penalty moved := by
  obtain ⟨weight, weighed⟩ :=
    (covariance.predicted noise transition).exists_weight (transition *ᵥ before + moved)
  have atBefore := covariance.penalty_ge (transitionᵀ *ᵥ weight) before
  have atMoved := noise.penalty_ge weight moved
  have carried : (transitionᵀ *ᵥ weight) ⬝ᵥ before = weight ⬝ᵥ transition *ᵥ before := by
    rw [dotProduct_mulVec, mulVec_transpose]
  calc (covariance.predicted noise transition).penalty (transition *ᵥ before + moved)
      = weight ⬝ᵥ (covariance.predicted noise transition).matrix *ᵥ weight := by
        rw [← weighed, penalty_mulVec]
    _ = 2 * (weight ⬝ᵥ (transition *ᵥ before + moved)) -
          weight ⬝ᵥ (covariance.predicted noise transition).matrix *ᵥ weight := by
        rw [weighed]
        ring
    _ = 2 * ((transitionᵀ *ᵥ weight) ⬝ᵥ before) -
          (transitionᵀ *ᵥ weight) ⬝ᵥ covariance.matrix *ᵥ (transitionᵀ *ᵥ weight) +
          (2 * (weight ⬝ᵥ moved) - weight ⬝ᵥ noise.matrix *ᵥ weight) := by
        rw [predicted_spread, dotProduct_add, carried]
        ring
    _ ≤ covariance.penalty before + noise.penalty moved := add_le_add atBefore atMoved

/-- Some deviation before the move and some noise in it reach that bound. -/
theorem predicted_penalty_attained (deviation : ι → F) :
    ∃ before, (covariance.predicted noise transition).penalty deviation =
      covariance.penalty before + noise.penalty (deviation - transition *ᵥ before) := by
  obtain ⟨weight, rfl⟩ := (covariance.predicted noise transition).exists_weight deviation
  refine ⟨covariance.matrix *ᵥ transitionᵀ *ᵥ weight, ?_⟩
  rw [penalty_mulVec, predicted_spread, predicted_mulVec, add_sub_cancel_left, penalty_mulVec,
    penalty_mulVec]

end Prediction

section Correction
variable [IsStrictOrderedRing F] (row : ι → F)

/-- The spread of a measurement is that of what it measures and its own. -/
def innovationVariance (variance : F) : F := row ⬝ᵥ covariance.matrix *ᵥ row + variance

/-- The gain weighs an innovation into each coordinate. -/
def gain (variance : F) : ι → F :=
  (covariance.innovationVariance row variance)⁻¹ • covariance.matrix *ᵥ row

theorem innovationVariance_pos {variance : F} (noisy : 0 < variance) :
    0 < covariance.innovationVariance row variance :=
  add_pos_of_nonneg_of_pos (covariance.spread_nonneg row) noisy

/-- A measurement takes the part of the covariance away that the gain explains. -/
def correctedMatrix (variance : F) : Matrix ι ι F :=
  covariance.matrix - vecMulVec (covariance.gain row variance) (covariance.matrix *ᵥ row)

omit [IsStrictOrderedRing F] in
theorem correctedMatrix_mulVec (variance : F) (weight : ι → F) :
    covariance.correctedMatrix row variance *ᵥ weight =
      covariance.matrix *ᵥ weight -
        (row ⬝ᵥ covariance.matrix *ᵥ weight) • covariance.gain row variance := by
  unfold correctedMatrix
  rw [sub_mulVec, vecMulVec_mulVec, dotProduct_comm, covariance.spread_comm weight row,
    op_smul_eq_smul]

/-- The spread after a measurement is what it leaves of the weight, and what it adds of its own. -/
theorem correctedMatrix_spread {variance : F} (noisy : 0 < variance) (weight : ι → F) :
    let share := (row ⬝ᵥ covariance.matrix *ᵥ weight) / covariance.innovationVariance row variance
    weight ⬝ᵥ covariance.correctedMatrix row variance *ᵥ weight =
      (weight + (-share) • row) ⬝ᵥ covariance.matrix *ᵥ (weight + (-share) • row) +
        variance * share ^ 2 := by
  intro share
  have total := (covariance.innovationVariance_pos row noisy).ne'
  have shared : row ⬝ᵥ covariance.matrix *ᵥ weight =
      share * (row ⬝ᵥ covariance.matrix *ᵥ row + variance) := (div_mul_cancel₀ _ total).symm
  have gained : weight ⬝ᵥ covariance.gain row variance = share := by
    unfold gain
    rw [dotProduct_smul, covariance.spread_comm weight row, smul_eq_mul, inv_mul_eq_div]
  rw [correctedMatrix_mulVec, dotProduct_sub, dotProduct_smul, gained, smul_eq_mul, spread_add,
    spread_smul, mulVec_smul, dotProduct_smul, smul_eq_mul, covariance.spread_comm weight row, shared]
  ring

/-- A measurement leaves a covariance. -/
def corrected (variance : F) (noisy : 0 < variance) : Covariance ι F where
  matrix := covariance.correctedMatrix row variance
  symmetric := by
    unfold correctedMatrix gain
    rw [transpose_sub, covariance.symmetric, transpose_vecMulVec, smul_vecMulVec, vecMulVec_smul]
  positive weight something := by
    rw [covariance.correctedMatrix_spread row noisy]
    by_cases unseen : row ⬝ᵥ covariance.matrix *ᵥ weight = 0
    · rw [unseen, zero_div, neg_zero, zero_smul, add_zero]
      exact add_pos_of_pos_of_nonneg (covariance.positive weight something)
        (mul_nonneg noisy.le (sq_nonneg _))
    · have share := div_ne_zero unseen (covariance.innovationVariance_pos row noisy).ne'
      exact add_pos_of_nonneg_of_pos (covariance.spread_nonneg _)
        (mul_pos noisy (sq_pos_of_ne_zero share))

/-- A measurement splits what it costs into what its innovation costs and what the deviation from
the corrected mean costs. -/
theorem corrected_penalty [DecidableEq ι] {variance : F} (noisy : 0 < variance) (deviation : ι → F)
    (innovation : F) :
    covariance.penalty deviation + (innovation - row ⬝ᵥ deviation) ^ 2 / variance =
      (covariance.corrected row variance noisy).penalty
          (deviation - innovation • covariance.gain row variance) +
        innovation ^ 2 / covariance.innovationVariance row variance := by
  obtain ⟨weight, weighed⟩ := (covariance.corrected row variance noisy).exists_weight
    (deviation - innovation • covariance.gain row variance)
  have total := (covariance.innovationVariance_pos row noisy).ne'
  let seen := row ⬝ᵥ covariance.matrix *ᵥ weight
  let left := (innovation - seen) / covariance.innovationVariance row variance
  have innovated : innovation = seen + left * covariance.innovationVariance row variance := by
    rw [div_mul_cancel₀ _ total, add_sub_cancel]
  have split : deviation = covariance.matrix *ᵥ (weight + left • row) := by
    calc deviation
        = covariance.correctedMatrix row variance *ᵥ weight +
            innovation • covariance.gain row variance := (sub_eq_iff_eq_add.mp weighed.symm)
      _ = covariance.matrix *ᵥ weight + (innovation - seen) • covariance.gain row variance := by
        rw [correctedMatrix_mulVec, sub_smul, sub_add_eq_add_sub, add_sub_assoc]
      _ = covariance.matrix *ᵥ (weight + left • row) := by
        rw [mulVec_add, mulVec_smul, gain, smul_smul, ← div_eq_mul_inv]
  have residual : innovation - row ⬝ᵥ deviation = variance * left := by
    rw [split, mulVec_add, mulVec_smul, dotProduct_add, dotProduct_smul, smul_eq_mul]
    rw [innovated, innovationVariance]
    ring
  have before : covariance.penalty deviation =
      weight ⬝ᵥ covariance.matrix *ᵥ weight + 2 * (left * seen) +
        left ^ 2 * (row ⬝ᵥ covariance.matrix *ᵥ row) := by
    rw [split, penalty_mulVec, spread_add, spread_smul, mulVec_smul, dotProduct_smul, smul_eq_mul,
      covariance.spread_comm weight row]
  have after : (covariance.corrected row variance noisy).penalty
      (deviation - innovation • covariance.gain row variance) =
        weight ⬝ᵥ covariance.matrix *ᵥ weight - seen ^ 2 / covariance.innovationVariance row variance := by
    rw [← weighed, penalty_mulVec]
    show weight ⬝ᵥ covariance.correctedMatrix row variance *ᵥ weight = _
    rw [correctedMatrix_mulVec, dotProduct_sub, dotProduct_smul, gain, dotProduct_smul,
      covariance.spread_comm weight row, smul_eq_mul, smul_eq_mul]
    ring
  rw [residual, before, after, innovated]
  have spread : row ⬝ᵥ covariance.matrix *ᵥ row =
      covariance.innovationVariance row variance - variance := (add_sub_cancel_right _ _).symm
  rw [spread]
  have noise := noisy.ne'
  field_simp
  ring

end Correction
end Covariance
end LeastSquares
