import InvertedPendulum.LeastSquares.Covariance

namespace LeastSquares
open Matrix
variable {ι F : Type*} [Fintype ι] [Field F] [LinearOrder F]

/-- A belief about a state has a mean and a covariance. -/
structure Belief (ι F : Type*) [Fintype ι] [Field F] [LinearOrder F] where
  mean : ι → F
  covariance : Covariance ι F

/-- Courses of the state are known by where they end and by what they cost. -/
abbrev Courses (ι F : Type*) := (ι → F) → F → Prop

noncomputable def Belief.penalty [DecidableEq ι] (belief : Belief ι F) (state : ι → F) : F :=
  belief.covariance.penalty (state - belief.mean)

/-- A course starts anywhere, at the penalty of the belief. -/
def Belief.courses [DecidableEq ι] (belief : Belief ι F) : Courses ι F :=
  fun state cost => cost = belief.penalty state

/-- A linear move takes a course to any next state, at the penalty of the noise in the move. -/
def Courses.moved [DecidableEq ι] (courses : Courses ι F) (transition : Matrix ι ι F)
    (drift : ι → F) (noise : Covariance ι F) : Courses ι F :=
  fun next cost => ∃ state before, courses state before ∧
    cost = before + noise.penalty (next - (transition *ᵥ state + drift))

/-- A measurement of one row of the state charges a course for the noise in it. -/
def Courses.measured (courses : Courses ι F) (row : ι → F) (measurement variance : F) :
    Courses ι F :=
  fun state cost =>
    ∃ before, courses state before ∧ cost = before + (measurement - row ⬝ᵥ state) ^ 2 / variance

section Filtering
variable [IsStrictOrderedRing F]

/-- The filter predicts over a move. -/
def Belief.moved (belief : Belief ι F) (transition : Matrix ι ι F) (drift : ι → F)
    (noise : Covariance ι F) : Belief ι F :=
  ⟨transition *ᵥ belief.mean + drift, belief.covariance.predicted noise transition⟩

/-- The filter corrects by a measurement. -/
def Belief.measured (belief : Belief ι F) (row : ι → F) (measurement : F) {variance : F}
    (noisy : 0 < variance) : Belief ι F :=
  ⟨belief.mean + (measurement - row ⬝ᵥ belief.mean) • belief.covariance.gain row variance,
    belief.covariance.corrected row variance noisy⟩

variable [DecidableEq ι] {belief : Belief ι F} {base : F} {courses : Courses ι F}

/-- Up to a base, the penalty of the belief is the least cost of a course to each state. -/
structure Belief.Summarizes (belief : Belief ι F) (base : F) (courses : Courses ι F) : Prop where
  least : ∀ state cost, courses state cost → base + belief.penalty state ≤ cost
  attained : ∀ state, courses state (base + belief.penalty state)

omit [IsStrictOrderedRing F] in
theorem Belief.summarizes_start (belief : Belief ι F) : belief.Summarizes 0 belief.courses where
  least _ _ starts := (zero_add _).trans_le starts.ge
  attained _ := zero_add _

/-- A prediction summarizes the courses over a move. -/
theorem Belief.Summarizes.moved (summarizes : belief.Summarizes base courses)
    (transition : Matrix ι ι F) (drift : ι → F) (noise : Covariance ι F) :
    (belief.moved transition drift noise).Summarizes base
      (courses.moved transition drift noise) := by
  have deviates : ∀ state next : ι → F,
      next - (transition *ᵥ belief.mean + drift) - transition *ᵥ (state - belief.mean) =
        next - (transition *ᵥ state + drift) := by
    intro state next
    rw [mulVec_sub]
    abel
  constructor
  · rintro next _ ⟨state, before, course, rfl⟩
    have costs := belief.covariance.predicted_penalty_le noise transition (state - belief.mean)
      (next - (transition *ᵥ state + drift))
    rw [← deviates, add_sub_cancel] at costs
    rw [← deviates state next]
    calc base + (belief.covariance.predicted noise transition).penalty
          (next - (transition *ᵥ belief.mean + drift))
        ≤ base + (belief.penalty state + noise.penalty (next -
            (transition *ᵥ belief.mean + drift) - transition *ᵥ (state - belief.mean))) :=
          add_le_add le_rfl costs
      _ ≤ before + noise.penalty (next - (transition *ᵥ belief.mean + drift) -
            transition *ᵥ (state - belief.mean)) := by
          rw [← add_assoc]
          exact add_le_add (summarizes.least state before course) le_rfl
  · intro next
    obtain ⟨deviation, reached⟩ := belief.covariance.predicted_penalty_attained noise transition
      (next - (transition *ᵥ belief.mean + drift))
    refine ⟨belief.mean + deviation, _, summarizes.attained _, ?_⟩
    have stated := deviates (belief.mean + deviation) next
    have penalty : belief.penalty (belief.mean + deviation) = belief.covariance.penalty deviation := by
      rw [Belief.penalty, add_sub_cancel_left]
    rw [add_sub_cancel_left] at stated
    rw [← stated, penalty, add_assoc, ← reached]
    rfl

/-- A correction summarizes the courses over a measurement, which raises the base. -/
theorem Belief.Summarizes.measured (summarizes : belief.Summarizes base courses) (row : ι → F)
    (measurement : F) {variance : F} (noisy : 0 < variance) :
    (belief.measured row measurement noisy).Summarizes
      (base + (measurement - row ⬝ᵥ belief.mean) ^ 2 /
        belief.covariance.innovationVariance row variance)
      (courses.measured row measurement variance) := by
  let innovation := measurement - row ⬝ᵥ belief.mean
  have splits : ∀ state, belief.penalty state + (measurement - row ⬝ᵥ state) ^ 2 / variance =
      (belief.measured row measurement noisy).penalty state +
        innovation ^ 2 / belief.covariance.innovationVariance row variance := by
    intro state
    have split := belief.covariance.corrected_penalty row noisy (state - belief.mean) innovation
    rw [dotProduct_sub, sub_sub_sub_cancel_right, ← sub_add_eq_sub_sub] at split
    exact split
  have costs : ∀ state, base + innovation ^ 2 / belief.covariance.innovationVariance row variance +
      (belief.measured row measurement noisy).penalty state =
        base + belief.penalty state + (measurement - row ⬝ᵥ state) ^ 2 / variance := by
    intro state
    rw [add_assoc, add_assoc, splits, add_comm (innovation ^ 2 / _)]
  constructor
  · rintro state _ ⟨before, course, rfl⟩
    rw [costs]
    exact add_le_add (summarizes.least state before course) le_rfl
  · intro state
    exact ⟨_, summarizes.attained state, costs state⟩

/-- The cheapest courses end in the mean, and in no other state. -/
theorem Belief.Summarizes.cheapest (summarizes : belief.Summarizes base courses) :
    courses belief.mean base ∧ ∀ state cost, courses state cost →
      base ≤ cost ∧ (cost = base → state = belief.mean) := by
  have centred : belief.penalty belief.mean = 0 := by
    rw [Belief.penalty, sub_self, Covariance.penalty_zero]
  constructor
  · have attained := summarizes.attained belief.mean
    rwa [centred, add_zero] at attained
  · intro state cost course
    have least := summarizes.least state cost course
    by_cases same : state = belief.mean
    · rw [same, centred, add_zero] at least
      exact ⟨least, fun _ => same⟩
    · have deviates := belief.covariance.penalty_pos (sub_ne_zero.mpr same)
      have dearer : base < cost := (lt_add_of_pos_right base deviates).trans_le least
      exact ⟨dearer.le, fun equal => absurd equal dearer.ne'⟩

end Filtering
end LeastSquares
