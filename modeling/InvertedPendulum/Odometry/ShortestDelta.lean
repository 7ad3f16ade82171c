import InvertedPendulum.Odometry.WheelOdometry
import InvertedPendulum.Arithmetic.Integers

namespace InvertedPendulum.Odometry
open MachineType

namespace WheelOdometryImpl
variable {previous current resolution : UInt32} {moved : Int}

/-- The same difference of exact integers, without a result where an operation of `int32_t`
overflows; a division by two never does. -/
def checkedShortestDelta (previous current resolution : UInt32) : Option Int := do
  let span := resolution.toInt32.toInt
  let delta ← int32.evaluate (current.toInt32.toInt - previous.toInt32.toInt)
  if delta > span.tdiv 2 then int32.evaluate (delta - span)
  else do
    let negated ← int32.evaluate (-span)
    if delta < negated.tdiv 2 then int32.evaluate (delta + span) else some delta

/-- An evaluation takes one of three branches, and overflows in none of its operations. -/
theorem checkedShortestDelta_eq_some {span delta : Int} (width : resolution.toInt32.toInt = span)
    (difference : current.toInt32.toInt - previous.toInt32.toInt = delta) :
    checkedShortestDelta previous current resolution = some moved ↔
      int32.Holds delta ∧
        (span.tdiv 2 < delta ∧ int32.Holds (delta - span) ∧ delta - span = moved ∨
          delta ≤ span.tdiv 2 ∧ int32.Holds (-span) ∧
            (delta < (-span).tdiv 2 ∧ int32.Holds (delta + span) ∧ delta + span = moved ∨
              (-span).tdiv 2 ≤ delta ∧ delta = moved)) := by
  have unfolded : checkedShortestDelta previous current resolution =
      (int32.evaluate delta).bind fun delta =>
        if delta > span.tdiv 2 then int32.evaluate (delta - span)
        else (int32.evaluate (-span)).bind fun negated =>
          if delta < negated.tdiv 2 then int32.evaluate (delta + span) else some delta := by
    rw [← width, ← difference]
    rfl
  rw [unfolded]
  simp only [bind_evaluate, ite_eq_iff, evaluate_eq_some, Option.some_inj, gt_iff_lt, not_lt]

/-- A cast keeps the value below the sign bit, and subtracts 2 ^ 32 from there on. -/
theorem toInt32_cases (value : UInt32) :
    value.toNat < 2 ^ 31 ∧ value.toInt32.toInt = value.toNat ∨
      2 ^ 31 ≤ value.toNat ∧ value.toInt32.toInt = value.toNat - 2 ^ 32 := by
  have bound := value.toNat_lt
  have cast : value.toInt32.toInt = (value.toNat : Int).bmod (2 ^ 32) :=
    BitVec.toInt_eq_toNat_bmod value.toBitVec
  rw [cast, Int.bmod_def]
  split
  · left
    omega
  · right
    omega

/-- Without an overflow the words of the machine stand for the exact integers. -/
theorem shortestDelta_evaluates
    (evaluates : checkedShortestDelta previous current resolution = some moved) :
    (shortestDelta previous current resolution).toInt = moved := by
  have exact {result : Int} (holds : int32.Holds result) : result.bmod (2 ^ 32) = result :=
    signed_bmod (by decide) holds
  obtain ⟨raw, branches⟩ := (checkedShortestDelta_eq_some rfl rfl).mp evaluates
  have delta : (current.toInt32 - previous.toInt32).toInt =
      current.toInt32.toInt - previous.toInt32.toInt := by
    rw [Int32.toInt_sub, exact raw]
  have half : (resolution.toInt32 / 2).toInt = resolution.toInt32.toInt.tdiv 2 :=
    Int32.toInt_div_of_ne_right _ _ (by decide)
  unfold shortestDelta
  simp only [gt_iff_lt, Int32.lt_iff_toInt_lt, half]
  rcases branches with ⟨above, fits, rfl⟩ | ⟨within, fits, branches⟩
  · rw [delta, if_pos above, Int32.toInt_sub, delta, exact fits]
  · have negated : (-resolution.toInt32 / 2).toInt = (-resolution.toInt32.toInt).tdiv 2 := by
      rw [Int32.toInt_div_of_ne_right _ _ (by decide), Int32.toInt_neg, exact fits]
      rfl
    rw [delta, if_neg (not_lt.mpr within), negated]
    rcases branches with ⟨below, fits, rfl⟩ | ⟨straight, rfl⟩
    · rw [if_pos below, Int32.toInt_add, delta, exact fits]
    · rw [if_neg (not_lt.mpr straight), delta]

/-- The evaluation has no overflow, and the code returns its result. -/
def Returns (previous current resolution : UInt32) (moved : Int) : Prop :=
  checkedShortestDelta previous current resolution = some moved ∧
    (shortestDelta previous current resolution).toInt = moved

/-- Two readings give the shortest movement, and in the other order its reverse. -/
def MeasuresMovement (previous current resolution : UInt32) : Prop :=
  ∃ moved, Returns previous current resolution moved ∧
    ShortestMovement previous.toNat current.toNat resolution.toNat moved ∧
    Returns current previous resolution (-moved)

theorem returns_of_evaluates
    (evaluates : checkedShortestDelta previous current resolution = some moved) :
    Returns previous current resolution moved :=
  ⟨evaluates, shortestDelta_evaluates evaluates⟩

/-- At the largest resolution a counter at rest is measured. -/
theorem rest_returns (value : UInt32) : Returns value value 4294967295 0 := by
  apply returns_of_evaluates
  rw [checkedShortestDelta_eq_some rfl (sub_self _)]
  decide

section Readings
variable (before : previous.toNat < resolution.toNat) (now : current.toNat < resolution.toNat)
include before now

/-- A resolution below the sign bit gives the shortest movement. -/
theorem evaluates_shortest (positive : resolution.toNat < 2 ^ 31) :
    ∃ moved, checkedShortestDelta previous current resolution = some moved ∧
      ShortestMovement previous.toNat current.toNat resolution.toNat moved := by
  have cast {value : UInt32} (below : value.toNat < 2 ^ 31) : value.toInt32.toInt = value.toNat := by
    rcases toInt32_cases value with kept | wrapped
    · exact kept.2
    · omega
  have raw : current.toInt32.toInt - previous.toInt32.toInt = current.toNat - previous.toNat := by
    rw [cast (now.trans positive), cast (before.trans positive)]
  have half : (resolution.toNat : Int).tdiv 2 = resolution.toNat / 2 :=
    Int.tdiv_eq_ediv_of_nonneg (Int.natCast_nonneg _)
  simp only [checkedShortestDelta_eq_some (cast positive) raw, int32_holds, Int.neg_tdiv, half]
  by_cases above : (resolution.toNat : Int) < 2 * (current.toNat - previous.toNat)
  · refine ⟨_, ⟨by omega, .inl ⟨by omega, by omega, rfl⟩⟩, .wrapped above (by omega)⟩
  · by_cases below : (resolution.toNat : Int) < 2 * (previous.toNat - current.toNat)
    · have movement := (ShortestMovement.wrapped below (by omega)).reversed
      refine ⟨_, ⟨by omega, .inr ⟨by omega, by omega, .inl ⟨by omega, by omega, rfl⟩⟩⟩, ?_⟩
      convert movement using 1
      omega
    · refine ⟨_, ⟨by omega, .inr ⟨by omega, by omega, .inr ⟨by omega, rfl⟩⟩⟩, .straight ?_⟩
      rcases abs_choice (current.toNat - previous.toNat : Int) with kept | negated
      · omega
      · omega

/-- From the sign bit on only the largest resolution gives a movement, of a counter at rest. -/
theorem still_of_evaluates (large : 2 ^ 31 ≤ resolution.toNat)
    (evaluates : checkedShortestDelta previous current resolution = some moved)
    (movement : ShortestMovement previous.toNat current.toNat resolution.toNat moved) :
    resolution.toNat = 2 ^ 32 - 1 ∧ previous.toNat = current.toNat := by
  have bound := resolution.toNat_lt
  -- the cast turns the resolution into a span below zero
  obtain ⟨complement, width⟩ : ∃ complement : Nat, resolution.toNat + complement = 2 ^ 32 :=
    ⟨2 ^ 32 - resolution.toNat, by omega⟩
  have span : resolution.toInt32.toInt = -complement := by
    rcases toInt32_cases resolution with small | wrapped
    · omega
    · omega
  have half : (complement : Int).tdiv 2 = complement / 2 :=
    Int.tdiv_eq_ediv_of_nonneg (Int.natCast_nonneg _)
  have branches := (checkedShortestDelta_eq_some span rfl).mp evaluates
  simp only [int32_holds, neg_neg, Int.neg_tdiv, half] at branches
  have short := movement.shortest
  have lower := neg_abs_le moved
  have upper := le_abs_self moved
  have congruent := ShortestMovement.congruent_near movement.congruent (by omega) (by omega)
  rcases toInt32_cases previous with low | high
  all_goals rcases toInt32_cases current with lowNow | highNow
  all_goals omega

end Readings

/-- The shortest movement is measured exactly below the sign bit, and of a counter at rest at the
largest resolution. -/
theorem measures_movement_iff (previous current resolution : UInt32)
    (before : previous < resolution) (now : current < resolution) :
    MeasuresMovement previous current resolution ↔
      resolution < 2147483648 ∨ resolution = 4294967295 ∧ previous = current := by
  have within := UInt32.lt_iff_toNat_lt.mp before
  have withinNow := UInt32.lt_iff_toNat_lt.mp now
  constructor
  · rintro ⟨moved, ⟨evaluates, -⟩, movement, -⟩
    by_cases large : 2 ^ 31 ≤ resolution.toNat
    · obtain ⟨largest, rest⟩ := still_of_evaluates within withinNow large evaluates movement
      exact .inr ⟨UInt32.toNat_inj.mp largest, UInt32.toNat_inj.mp rest⟩
    · exact .inl (UInt32.lt_iff_toNat_lt.mpr (not_le.mp large))
  · rintro (small | ⟨largest, rfl⟩)
    · have below := UInt32.lt_iff_toNat_lt.mp small
      obtain ⟨moved, evaluates, movement⟩ := evaluates_shortest within withinNow below
      obtain ⟨back, evaluatesBack, movementBack⟩ := evaluates_shortest withinNow within below
      have apart : |(previous.toNat : Int) - current.toNat| < resolution.toNat := by
        rw [abs_lt]
        omega
      obtain rfl := movementBack.unique apart movement.reversed
      exact ⟨moved, returns_of_evaluates evaluates, movement, returns_of_evaluates evaluatesBack⟩
    · subst largest
      have movement : ShortestMovement previous.toNat previous.toNat (4294967295 : UInt32).toNat _ :=
        .straight (by rw [sub_self]; decide)
      rw [sub_self] at movement
      exact ⟨0, rest_returns previous, movement, rest_returns previous⟩

theorem measures_movement_at_a_wrap :
    MeasuresMovement 4090 10 4096 ↔
      (4096 : UInt32) < 2147483648 ∨ (4096 : UInt32) = 4294967295 ∧ (4090 : UInt32) = 10 :=
  measures_movement_iff 4090 10 4096 (by decide) (by decide)

/-- At the largest resolution a single count is measured twice. -/
theorem largest_resolution_doubles_a_count :
    (shortestDelta 0 1 4294967295).toInt = 2 ∧ ¬ MeasuresMovement 0 1 4294967295 := by
  refine ⟨by decide, ?_⟩
  rintro ⟨moved, ⟨evaluates, -⟩, movement, -⟩
  have rest := (still_of_evaluates (by decide) (by decide) (by decide) evaluates movement).2
  exact absurd rest (by decide)

end WheelOdometryImpl
end InvertedPendulum.Odometry
