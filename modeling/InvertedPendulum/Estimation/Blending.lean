import InvertedPendulum.Arithmetic.Averaging
import InvertedPendulum.Arithmetic.Exact
import InvertedPendulum.Estimation.Restart

namespace InvertedPendulum.Estimation
open Averaging

/-- These are the arguments of one update of a pitch filter. -/
structure Reading (F : Type) where
  pitchRate : F
  accelerometerPitch : F
  accelerometerTrust : F
  intervalSeconds : F

/-- The library documents its complementary filter by its alpha and its state. -/
structure BlendsAsDocumented {C F : Type} [Field F] [LinearOrder F] [ComplementaryFilter C F]
    (alpha state : C → F) : Prop where
  alphaFromTau (tau interval : F) :
    ComplementaryFilter.alphaFromTau C tau interval = tau / (tau + interval)
  reset (filter : C) (value : F) : state (ComplementaryFilter.reset filter value) = value
  setAlpha (filter : C) {value : F} : 0 ≤ value → value ≤ 1 →
    alpha (ComplementaryFilter.setAlpha filter value) = value ∧
      state (ComplementaryFilter.setAlpha filter value) = state filter
  estimate (filter : C) (rate reference interval : F) :
    (ComplementaryFilter.update filter rate reference interval).1 =
      alpha filter * (state filter + rate * interval) + (1 - alpha filter) * reference
  update (filter : C) (rate reference interval : F) :
    state (ComplementaryFilter.update filter rate reference interval).2 =
      (ComplementaryFilter.update filter rate reference interval).1

section Blending
variable {C F : Type} [Field F] [LinearOrder F]

/-- The accelerometer weighs in by its trust and by the crossover. -/
def accelerometerWeight (crossoverSeconds : F) (reading : Reading F) : F :=
  (1 - crossoverSeconds / (crossoverSeconds + reading.intervalSeconds)) *
    max 0 (min reading.accelerometerTrust 1)

/-- A reading blends the integrated rate towards the accelerometer. -/
def blended (crossoverSeconds pitch : F) (reading : Reading F) : F :=
  blend (accelerometerWeight crossoverSeconds reading)
    (pitch + reading.pitchRate * reading.intervalSeconds) reading.accelerometerPitch

namespace ComplementaryPitchFilter
variable [ComplementaryFilter C F]

/-- This is the update for a reading. -/
def read (pitchFilter : ComplementaryPitchFilter C F) (reading : Reading F) :
    F × ComplementaryPitchFilter C F :=
  pitchFilter.update reading.pitchRate reading.accelerometerPitch reading.accelerometerTrust
    reading.intervalSeconds

/-- The estimate after a restart and some readings is the last update's, or the pitch of the restart
before the first. -/
def estimateAfter (pitchFilter : ComplementaryPitchFilter C F) (pitch : F)
    (readings : List (Reading F)) : F :=
  (readings.foldl (fun estimate reading => estimate.2.read reading)
    (pitch, pitchFilter.restart pitch)).1

end ComplementaryPitchFilter

variable [IsStrictOrderedRing F]

/-- The share that the crossover leaves to the accelerometer lies in the unit interval. -/
theorem share_bounds {crossoverSeconds interval : F} (positive : 0 < crossoverSeconds)
    (elapsed : 0 < interval) :
    0 ≤ 1 - crossoverSeconds / (crossoverSeconds + interval) ∧
      1 - crossoverSeconds / (crossoverSeconds + interval) ≤ 1 := by
  have total : 0 < crossoverSeconds + interval := add_pos positive elapsed
  have nonnegative : 0 ≤ crossoverSeconds / (crossoverSeconds + interval) :=
    div_nonneg positive.le total.le
  have within : crossoverSeconds / (crossoverSeconds + interval) ≤ 1 :=
    (div_le_one total).mpr (le_add_of_nonneg_right elapsed.le)
  exact ⟨sub_nonneg.mpr within, sub_le_self 1 nonnegative⟩

/-- The weight of the accelerometer lies in the unit interval. -/
theorem accelerometerWeight_bounds {crossoverSeconds : F} (positive : 0 < crossoverSeconds)
    {reading : Reading F} (elapsed : 0 < reading.intervalSeconds) :
    0 ≤ accelerometerWeight crossoverSeconds reading ∧
      accelerometerWeight crossoverSeconds reading ≤ 1 := by
  obtain ⟨nonnegative, within⟩ := share_bounds positive elapsed
  have trusted : max 0 (min reading.accelerometerTrust 1) ≤ 1 :=
    max_le zero_le_one (min_le_right _ _)
  unfold accelerometerWeight
  constructor
  · exact mul_nonneg nonnegative (le_max_left _ _)
  · exact mul_le_one₀ within (le_max_left _ _) trusted

/-- More trust weighs no less. -/
theorem accelerometerWeight_mono {crossoverSeconds : F} (positive : 0 < crossoverSeconds)
    {lesser greater : Reading F} (elapsed : 0 < lesser.intervalSeconds)
    (same : greater.intervalSeconds = lesser.intervalSeconds)
    (trusted : lesser.accelerometerTrust ≤ greater.accelerometerTrust) :
    accelerometerWeight crossoverSeconds lesser ≤ accelerometerWeight crossoverSeconds greater := by
  unfold accelerometerWeight
  rw [same]
  apply mul_le_mul_of_nonneg_left _ (share_bounds positive elapsed).1
  exact max_le_max le_rfl (min_le_min trusted le_rfl)

namespace ComplementaryPitchFilter
variable [ComplementaryFilter C F] {alpha state : C → F}

/-- An update blends the state of the filter with its reading. -/
theorem read_blends (documented : BlendsAsDocumented alpha state)
    {pitchFilter : ComplementaryPitchFilter C F} (positive : 0 < pitchFilter.crossoverSeconds)
    {reading : Reading F} (elapsed : 0 < reading.intervalSeconds) :
    (pitchFilter.read reading).1 =
        blended pitchFilter.crossoverSeconds (state pitchFilter.filter) reading ∧
      state (pitchFilter.read reading).2.filter = (pitchFilter.read reading).1 ∧
      (pitchFilter.read reading).2.crossoverSeconds = pitchFilter.crossoverSeconds := by
  let weight := accelerometerWeight pitchFilter.crossoverSeconds reading
  let weighted := ComplementaryFilter.setAlpha pitchFilter.filter (1 - weight)
  obtain ⟨nonnegative, within⟩ := accelerometerWeight_bounds positive elapsed
  obtain ⟨alphaSet, stateKept⟩ := documented.setAlpha pitchFilter.filter
    (sub_nonneg.mpr within) (sub_le_self 1 nonnegative)
  have updated : pitchFilter.read reading =
      ((ComplementaryFilter.update weighted reading.pitchRate reading.accelerometerPitch
          reading.intervalSeconds).1,
        { pitchFilter with
          filter := (ComplementaryFilter.update weighted reading.pitchRate
            reading.accelerometerPitch reading.intervalSeconds).2 }) := by
    have trusted : clamp reading.accelerometerTrust 0 1 = max 0 (min reading.accelerometerTrust 1) :=
      clamp_eq_max_min zero_le_one
    have share := documented.alphaFromTau pitchFilter.crossoverSeconds reading.intervalSeconds
    unfold read update
    simp only [trusted, share]
    rfl
  rw [updated]
  refine ⟨?_, documented.update weighted _ _ _, rfl⟩
  have estimate := documented.estimate weighted reading.pitchRate reading.accelerometerPitch
    reading.intervalSeconds
  rw [alphaSet, stateKept, sub_sub_cancel] at estimate
  exact estimate

/-- Restarted, the filter folds its readings by blending. -/
theorem estimateAfter_eq (documented : BlendsAsDocumented alpha state)
    {pitchFilter : ComplementaryPitchFilter C F} (positive : 0 < pitchFilter.crossoverSeconds)
    (pitch : F) {readings : List (Reading F)}
    (elapsed : ∀ reading ∈ readings, 0 < reading.intervalSeconds) :
    pitchFilter.estimateAfter pitch readings =
      readings.foldl (blended pitchFilter.crossoverSeconds) pitch := by
  have folded (estimate : F) (filter : ComplementaryPitchFilter C F)
      (same : filter.crossoverSeconds = pitchFilter.crossoverSeconds)
      (holds : state filter.filter = estimate) :
      (readings.foldl (fun estimate reading => estimate.2.read reading) (estimate, filter)).1 =
        readings.foldl (blended pitchFilter.crossoverSeconds) estimate := by
    induction readings generalizing estimate filter with
    | nil => rfl
    | cons reading rest ih =>
        have now := elapsed reading List.mem_cons_self
        have later : ∀ reading ∈ rest, 0 < reading.intervalSeconds :=
          fun reading listed => elapsed reading (List.mem_cons_of_mem _ listed)
        obtain ⟨value, kept, crossover⟩ := read_blends documented (same ▸ positive) now
        rw [same, holds] at value
        rw [List.foldl_cons, List.foldl_cons, ← value]
        exact ih later _ _ (crossover.trans same) kept
  exact folded pitch (pitchFilter.restart pitch) rfl (documented.reset pitchFilter.filter pitch)

end ComplementaryPitchFilter

omit [IsStrictOrderedRing F] in
/-- Without trust the readings integrate the rate. -/
theorem foldl_untrusted {crossoverSeconds : F} (pitch : F) {readings : List (Reading F)}
    (untrusted : ∀ reading ∈ readings, reading.accelerometerTrust ≤ 0) :
    readings.foldl (blended crossoverSeconds) pitch =
      pitch + (readings.map fun reading => reading.pitchRate * reading.intervalSeconds).sum := by
  induction readings generalizing pitch with
  | nil => simp
  | cons reading rest ih =>
      have now := untrusted reading List.mem_cons_self
      have later : ∀ reading ∈ rest, reading.accelerometerTrust ≤ 0 :=
        fun reading listed => untrusted reading (List.mem_cons_of_mem _ listed)
      have weightless : accelerometerWeight crossoverSeconds reading = 0 := by
        unfold accelerometerWeight
        rw [max_eq_left ((min_le_left _ _).trans now), mul_zero]
      have integrated : blended crossoverSeconds pitch reading =
          pitch + reading.pitchRate * reading.intervalSeconds := by
        unfold blended
        rw [weightless, blend_zero]
      rw [List.foldl_cons, ih _ later, integrated, List.map_cons, List.sum_cons, add_assoc]

/-- Without rotation the readings keep the estimate in every interval that holds the pitches. -/
theorem foldl_still_mem {crossoverSeconds lower upper : F} (positive : 0 < crossoverSeconds)
    {pitch : F} {readings : List (Reading F)}
    (elapsed : ∀ reading ∈ readings, 0 < reading.intervalSeconds)
    (still : ∀ reading ∈ readings, reading.pitchRate = 0)
    (start : lower ≤ pitch ∧ pitch ≤ upper)
    (seen : ∀ reading ∈ readings,
      lower ≤ reading.accelerometerPitch ∧ reading.accelerometerPitch ≤ upper) :
    lower ≤ readings.foldl (blended crossoverSeconds) pitch ∧
      readings.foldl (blended crossoverSeconds) pitch ≤ upper := by
  induction readings generalizing pitch with
  | nil => exact start
  | cons reading rest ih =>
      obtain ⟨nonnegative, within⟩ :=
        accelerometerWeight_bounds positive (elapsed reading List.mem_cons_self)
      obtain ⟨low, high⟩ := seen reading List.mem_cons_self
      have moved : lower ≤ blended crossoverSeconds pitch reading ∧
          blended crossoverSeconds pitch reading ≤ upper := by
        unfold blended
        rw [still reading List.mem_cons_self, zero_mul, add_zero]
        exact blend_mem nonnegative within ⟨start.1, low⟩ ⟨start.2, high⟩
      rw [List.foldl_cons]
      exact ih (fun reading listed => elapsed reading (List.mem_cons_of_mem _ listed))
        (fun reading listed => still reading (List.mem_cons_of_mem _ listed)) moved
        (fun reading listed => seen reading (List.mem_cons_of_mem _ listed))

/-- Two readings without rotation see one pitch after one interval, the second with more trust. -/
structure MoreTrusted (accelerometerPitch : F) (lesser greater : Reading F) : Prop where
  elapsed : 0 < lesser.intervalSeconds
  sameInterval : greater.intervalSeconds = lesser.intervalSeconds
  still : lesser.pitchRate = 0 ∧ greater.pitchRate = 0
  samePitch : lesser.accelerometerPitch = accelerometerPitch ∧
    greater.accelerometerPitch = accelerometerPitch
  trusted : lesser.accelerometerTrust ≤ greater.accelerometerTrust

omit [IsStrictOrderedRing F] in
theorem MoreTrusted.elapsedToo {accelerometerPitch : F} {lesser greater : Reading F}
    (pair : MoreTrusted accelerometerPitch lesser greater) : 0 < greater.intervalSeconds :=
  pair.sameInterval ▸ pair.elapsed

/-- More trust brings the estimate nearer to the pitch that the accelerometer sees. -/
theorem foldl_nearer {crossoverSeconds accelerometerPitch : F} (positive : 0 < crossoverSeconds)
    {near far : F} (nearer : Nearer accelerometerPitch near far)
    {lesser greater : List (Reading F)}
    (paired : List.Forall₂ (MoreTrusted accelerometerPitch) lesser greater) :
    Nearer accelerometerPitch (greater.foldl (blended crossoverSeconds) near)
      (lesser.foldl (blended crossoverSeconds) far) := by
  induction paired generalizing near far with
  | nil => exact nearer
  | @cons less more lesser greater pair _ ih =>
      obtain ⟨_, within⟩ := accelerometerWeight_bounds positive pair.elapsedToo
      have heavier := accelerometerWeight_mono positive pair.elapsed pair.sameInterval pair.trusted
      rw [List.foldl_cons, List.foldl_cons]
      apply ih
      unfold blended
      rw [pair.still.1, pair.still.2, pair.samePitch.1, pair.samePitch.2, zero_mul, zero_mul,
        add_zero, add_zero]
      exact nearer.blend heavier within

omit [Field F] [IsStrictOrderedRing F] in
/-- The minimum and the maximum of some values bound each of them. -/
theorem foldl_min_max_bound (start : F) (values : List F) :
    (values.foldl min start ≤ start ∧ start ≤ values.foldl max start) ∧
      ∀ value ∈ values, values.foldl min start ≤ value ∧ value ≤ values.foldl max start := by
  induction values generalizing start with
  | nil => simp
  | cons first rest ih =>
      obtain ⟨⟨low, -⟩, belows⟩ := ih (min start first)
      obtain ⟨⟨-, high⟩, aboves⟩ := ih (max start first)
      rw [List.foldl_cons, List.foldl_cons]
      refine ⟨⟨low.trans (min_le_left _ _), (le_max_left _ _).trans high⟩, ?_⟩
      intro value listed
      rcases List.mem_cons.mp listed with rfl | later
      · exact ⟨low.trans (min_le_right _ _), (le_max_right _ _).trans high⟩
      · exact ⟨(belows value later).1, (aboves value later).2⟩

namespace ComplementaryPitchFilter
variable [ComplementaryFilter C F] {alpha state : C → F}

/-- Restarted, the filter integrates the rate while nothing is trusted, stays between the pitches it
has seen while nothing rotates, and comes nearer to a constant pitch with more trust. Every prefix
of a run is a run, so this holds at every step. -/
theorem estimate_blends_by_trust (documented : BlendsAsDocumented alpha state)
    {pitchFilter : ComplementaryPitchFilter C F} (positive : 0 < pitchFilter.crossoverSeconds)
    (pitch : F) :
    (∀ readings : List (Reading F), (∀ reading ∈ readings, 0 < reading.intervalSeconds) →
      (∀ reading ∈ readings, reading.accelerometerTrust ≤ 0) →
      pitchFilter.estimateAfter pitch readings =
        pitch + (readings.map fun reading => reading.pitchRate * reading.intervalSeconds).sum) ∧
    (∀ readings : List (Reading F), (∀ reading ∈ readings, 0 < reading.intervalSeconds) →
      (∀ reading ∈ readings, reading.pitchRate = 0) →
      (readings.map (·.accelerometerPitch)).foldl min pitch ≤
          pitchFilter.estimateAfter pitch readings ∧
        pitchFilter.estimateAfter pitch readings ≤
          (readings.map (·.accelerometerPitch)).foldl max pitch) ∧
    (∀ (accelerometerPitch : F) (lesser greater : List (Reading F)),
      List.Forall₂ (MoreTrusted accelerometerPitch) lesser greater →
      |accelerometerPitch - pitchFilter.estimateAfter pitch greater| ≤
          |accelerometerPitch - pitchFilter.estimateAfter pitch lesser| ∧
        (pitchFilter.estimateAfter pitch lesser ≤ accelerometerPitch ∧
            pitchFilter.estimateAfter pitch greater ≤ accelerometerPitch ∨
          accelerometerPitch ≤ pitchFilter.estimateAfter pitch lesser ∧
            accelerometerPitch ≤ pitchFilter.estimateAfter pitch greater)) := by
  refine ⟨?_, ?_, ?_⟩
  · intro readings elapsed untrusted
    rw [estimateAfter_eq documented positive pitch elapsed]
    exact foldl_untrusted pitch untrusted
  · intro readings elapsed still
    obtain ⟨start, seen⟩ := foldl_min_max_bound pitch (readings.map (·.accelerometerPitch))
    rw [estimateAfter_eq documented positive pitch elapsed]
    apply foldl_still_mem positive elapsed still start
    intro reading listed
    exact seen _ (List.mem_map_of_mem listed)
  · intro accelerometerPitch lesser greater paired
    have elapsed := ((List.forall₂_and_left (p := fun reading => 0 < reading.intervalSeconds) lesser
      greater).mp (paired.imp fun _ _ pair => ⟨pair.elapsed, pair⟩)).1
    have elapsedToo := ((List.forall₂_and_left (p := fun reading => 0 < reading.intervalSeconds)
      greater lesser).mp (paired.flip.imp fun _ _ pair => ⟨pair.elapsedToo, pair⟩)).1
    have nearer := foldl_nearer positive (Nearer.refl accelerometerPitch pitch) paired
    rw [estimateAfter_eq documented positive pitch elapsed,
      estimateAfter_eq documented positive pitch elapsedToo]
    refine ⟨nearer.distance_le, ?_⟩
    rcases nearer with ⟨beyond, below⟩ | ⟨above, beyond⟩
    · exact .inl ⟨beyond.trans below, below⟩
    · exact .inr ⟨above.trans beyond, above⟩

end ComplementaryPitchFilter
end Blending

/-- The filter that weighs the integrated rate against the reference is the documented one. -/
theorem weighing_blends : BlendsAsDocumented (fun filter : WeighingFilter => filter.alpha)
    (fun filter : WeighingFilter => filter.angle) where
  alphaFromTau _ _ := rfl
  reset _ _ := rfl
  setAlpha _ _ _ _ := ⟨rfl, rfl⟩
  estimate _ _ _ _ := rfl
  update _ _ _ _ := rfl

namespace ComplementaryPitchFilter

/-- The trust returns on a robot that stands still at one. -/
def returning : List (Reading ℚ) :=
  [⟨0, 1, 0, 1 / 100⟩, ⟨0, 1, 1 / 4, 1 / 50⟩, ⟨0, 1, 1 / 2, 1 / 100⟩]

/-- Here it returns sooner. -/
def returningSooner : List (Reading ℚ) :=
  [⟨0, 1, 1 / 4, 1 / 100⟩, ⟨0, 1, 1 / 4, 1 / 50⟩, ⟨0, 1, 1, 1 / 100⟩]

/-- The rotation is integrated without trust, a robot that leans to and fro stays within its leans, and
the sooner return of the trust ends nearer to the accelerometer. -/
theorem estimate_blends_by_trust_returning :
    let pitchFilter : ComplementaryPitchFilter WeighingFilter ℚ := ⟨1 / 2, ⟨0, 0⟩⟩
    pitchFilter.estimateAfter (1 / 10) [⟨1, 0, 0, 1 / 100⟩, ⟨-3, 1, 0, 1 / 50⟩] = 1 / 20 ∧
    (-2 ≤ pitchFilter.estimateAfter 0 [⟨0, 1, 1, 1 / 100⟩, ⟨0, -2, 1 / 2, 1 / 50⟩] ∧
      pitchFilter.estimateAfter 0 [⟨0, 1, 1, 1 / 100⟩, ⟨0, -2, 1 / 2, 1 / 50⟩] ≤ 1) ∧
    |1 - pitchFilter.estimateAfter 0 returningSooner| ≤ |1 - pitchFilter.estimateAfter 0 returning| := by
  intro pitchFilter
  have positive : 0 < pitchFilter.crossoverSeconds := by
    change (0 : ℚ) < 1 / 2
    norm_num
  have paired : List.Forall₂ (MoreTrusted (1 : ℚ)) returning returningSooner := by
    refine .cons ⟨?_, rfl, ⟨rfl, rfl⟩, ⟨rfl, rfl⟩, ?_⟩ (.cons ⟨?_, rfl, ⟨rfl, rfl⟩, ⟨rfl, rfl⟩, ?_⟩
      (.cons ⟨?_, rfl, ⟨rfl, rfl⟩, ⟨rfl, rfl⟩, ?_⟩ .nil)) <;> norm_num
  obtain ⟨integrates, -, -⟩ := estimate_blends_by_trust weighing_blends positive (1 / 10)
  obtain ⟨-, between, compared⟩ := estimate_blends_by_trust weighing_blends positive 0
  refine ⟨?_, ?_, (compared 1 _ _ paired).1⟩
  · rw [integrates _ (by simp) (by simp)]
    norm_num
  · have bounds := between [⟨0, 1, 1, 1 / 100⟩, ⟨0, -2, 1 / 2, 1 / 50⟩] (by simp) (by simp)
    norm_num at bounds
    exact bounds

end ComplementaryPitchFilter
end InvertedPendulum.Estimation
