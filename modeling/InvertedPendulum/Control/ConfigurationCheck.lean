import InvertedPendulum.Control.KeepingPace

namespace InvertedPendulum.Control
open Estimation

namespace ControlLoopImpl
variable {σ : Type} {config : Config} {samples balances : Int}

/-- The loop holds the exact ratios of positive periods. -/
structure ExactRatios (loop : ControlLoopImpl σ) (config : Config) : Prop where
  samplePositive : 0 < config.samplePeriod.toInt
  balancePositive : 0 < config.balancePeriod.toInt
  outerPositive : 0 < config.outerPeriod.toInt
  samples : 1 ≤ loop.samplesPerBalance.toNat
  balances : 1 ≤ loop.balancesPerOuter.toNat
  samplesExact : loop.samplesPerBalance.toNat * config.samplePeriod.toInt = config.balancePeriod.toInt
  balancesExact : loop.balancesPerOuter.toNat * config.balancePeriod.toInt = config.outerPeriod.toInt

/-- The construction never divides by zero, and fails an assertion or holds exact ratios. -/
structure ChecksSoundly (peers : σ) (config : Config) : Prop where
  divides : construct peers config ≠ .error .divisionByZero
  checked : construct peers config = .error .assertion ∨
    ∃ loop, construct peers config = .ok loop ∧ loop.ExactRatios config

/-- The assertions let whole ratios pass whose narrowed values are not zero. -/
structure Accepts (config : Config) (samples balances : Int) : Prop where
  samplePositive : 0 < config.samplePeriod.toInt
  samplesExact : samples * config.samplePeriod.toInt = config.balancePeriod.toInt
  balancesExact : balances * config.balancePeriod.toInt = config.outerPeriod.toInt
  samples : ¬ 2 ^ 32 ∣ samples
  balances : ¬ 2 ^ 32 ∣ balances

/-- Both divisors differ from zero, neither quotient overflows, and ratios that the assertions let
pass fit in 32 bits. -/
structure Checkable (config : Config) : Prop where
  sample : config.samplePeriod ≠ 0
  balance : config.balancePeriod ≠ 0
  samplesComputed : ¬ (config.balancePeriod = Int64.minValue ∧ config.samplePeriod = -1)
  balancesComputed : ¬ (config.outerPeriod = Int64.minValue ∧ config.balancePeriod = -1)
  fits : ∀ samples balances, Accepts config samples balances →
    (0 < samples ∧ samples < 2 ^ 32) ∧ 0 < balances ∧ balances < 2 ^ 32

/-- A narrowed ratio is zero exactly for the multiples of 2 ^ 32. -/
theorem narrowed_pos_iff (ratio : Int) : 0 < UInt32.ofInt ratio ↔ ¬ 2 ^ 32 ∣ ratio := by
  have remainder := narrowed_int ratio
  rw [UInt32.lt_iff_toNat_lt, Int.dvd_iff_emod_eq_zero]
  show 0 < _ ↔ _
  omega

/-- An outcome of initialisers that divide and compute is decided by the assertions. -/
theorem construct_outcome (peers : σ) (sample : config.samplePeriod ≠ 0)
    (balance : config.balancePeriod ≠ 0)
    (samplesComputed : ¬ Overflows config.balancePeriod config.samplePeriod)
    (balancesComputed : ¬ Overflows config.outerPeriod config.balancePeriod) :
    (∃ loop, construct peers config = .ok loop ∧ ∃ samples balances,
        Accepts config samples balances ∧ loop.samplesPerBalance = UInt32.ofInt samples ∧
        loop.balancesPerOuter = UInt32.ofInt balances) ∨
      construct peers config = .error .assertion ∧
        ∀ samples balances, ¬ Accepts config samples balances := by
  have sampleNonzero := mt toInt_eq_zero_iff.mp sample
  have balanceNonzero := mt toInt_eq_zero_iff.mp balance
  unfold construct
  rw [if_neg (not_or.mpr ⟨sample, balance⟩),
    if_neg (not_or.mpr ⟨samplesComputed, balancesComputed⟩)]
  dsimp only
  rw [quotient_toInt samplesComputed, quotient_toInt balancesComputed]
  split
  · rename_i passes
    obtain ⟨positive, ⟨samples, samplesExact⟩, balances, balancesExact⟩ := passes
    left
    refine ⟨_, rfl, _, _, ?_, rfl, rfl⟩
    constructor
    · exact Int64.lt_iff_toInt_lt.mp positive
    · rw [mul_comm]
      exact Int.mul_tdiv_cancel_of_tmod_eq_zero (remainder_eq_zero_iff.mp samplesExact)
    · rw [mul_comm]
      exact Int.mul_tdiv_cancel_of_tmod_eq_zero (remainder_eq_zero_iff.mp balancesExact)
    · exact (narrowed_pos_iff _).mp samples
    · exact (narrowed_pos_iff _).mp balances
  · rename_i fails
    right
    refine ⟨rfl, ?_⟩
    intro samples balances accepts
    obtain ⟨samplesRatio, samplesWhole⟩ := exact_ratio sampleNonzero accepts.samplesExact
    obtain ⟨balancesRatio, balancesWhole⟩ := exact_ratio balanceNonzero accepts.balancesExact
    apply fails
    rw [samplesRatio, balancesRatio, narrowed_pos_iff, narrowed_pos_iff]
    exact ⟨Int64.lt_iff_toInt_lt.mpr accepts.samplePositive,
      ⟨accepts.samples, remainder_eq_zero_iff.mpr samplesWhole⟩, accepts.balances,
      remainder_eq_zero_iff.mpr balancesWhole⟩

/-- A divisor of zero is met before any assertion. -/
theorem construct_divides_by_zero (peers : σ)
    (zero : config.samplePeriod = 0 ∨ config.balancePeriod = 0) :
    construct peers config = .error .divisionByZero :=
  if_pos zero

/-- A quotient that overflows is met before any assertion. -/
theorem construct_overflows (peers : σ) (sample : config.samplePeriod ≠ 0)
    (balance : config.balancePeriod ≠ 0)
    (overflows : Overflows config.balancePeriod config.samplePeriod ∨
      Overflows config.outerPeriod config.balancePeriod) :
    construct peers config = .error .overflow :=
  (if_neg (not_or.mpr ⟨sample, balance⟩)).trans (if_pos overflows)

/-- The ratios that the assertions let pass are unique. -/
theorem Accepts.unique (accepts : Accepts config samples balances) (balance : config.balancePeriod.toInt ≠ 0)
    {first second : Int} (firstExact : first * config.samplePeriod.toInt = config.balancePeriod.toInt)
    (secondExact : second * config.balancePeriod.toInt = config.outerPeriod.toInt) :
    first = samples ∧ second = balances :=
  ⟨Int.eq_of_mul_eq_mul_right accepts.samplePositive.ne' (firstExact.trans accepts.samplesExact.symm),
    Int.eq_of_mul_eq_mul_right balance (secondExact.trans accepts.balancesExact.symm)⟩

/-- Exact ratios of a loop are those that the assertions let pass, and fit. -/
theorem ExactRatios.fit {loop : ControlLoopImpl σ} (exact : loop.ExactRatios config)
    (accepts : Accepts config samples balances) :
    (0 < samples ∧ samples < 2 ^ 32) ∧ 0 < balances ∧ balances < 2 ^ 32 := by
  obtain ⟨rfl, rfl⟩ :=
    accepts.unique exact.balancePositive.ne' exact.samplesExact exact.balancesExact
  have first := loop.samplesPerBalance.toNat_lt
  have second := loop.balancesPerOuter.toNat_lt
  have some := exact.samples
  have someBalances := exact.balances
  omega

/-- A ratio that fits is narrowed to itself. -/
theorem narrowed_of_fits {ratio : Int} (fits : 0 < ratio ∧ ratio < 2 ^ 32) :
    ((UInt32.ofInt ratio).toNat : Int) = ratio := by
  rw [narrowed_int]
  exact Int.emod_eq_of_lt fits.1.le fits.2

/-- Ratios that pass and fit are those of the loop. -/
theorem Accepts.exactRatios (accepts : Accepts config samples balances)
    (fits : (0 < samples ∧ samples < 2 ^ 32) ∧ 0 < balances ∧ balances < 2 ^ 32)
    {loop : ControlLoopImpl σ} (sampling : loop.samplesPerBalance = UInt32.ofInt samples)
    (balancing : loop.balancesPerOuter = UInt32.ofInt balances) : loop.ExactRatios config := by
  have first := narrowed_of_fits fits.1
  have second := narrowed_of_fits fits.2
  rw [← sampling] at first
  rw [← balancing] at second
  have balancePositive : 0 < config.balancePeriod.toInt :=
    accepts.samplesExact ▸ Int.mul_pos fits.1.1 accepts.samplePositive
  constructor
  · exact accepts.samplePositive
  · exact balancePositive
  · exact accepts.balancesExact ▸ Int.mul_pos fits.2.1 balancePositive
  · omega
  · omega
  · rw [first]
    exact accepts.samplesExact
  · rw [second]
    exact accepts.balancesExact

/-- The configuration check is sound exactly for the checkable configurations. -/
theorem checks_soundly_iff (peers : σ) (config : Config) :
    ChecksSoundly peers config ↔ Checkable config := by
  constructor
  · intro sound
    obtain ⟨sample, balance⟩ : config.samplePeriod ≠ 0 ∧ config.balancePeriod ≠ 0 := by
      rw [← not_or]
      intro zero
      exact sound.divides (construct_divides_by_zero peers zero)
    obtain ⟨samplesComputed, balancesComputed⟩ :
        ¬ Overflows config.balancePeriod config.samplePeriod ∧
          ¬ Overflows config.outerPeriod config.balancePeriod := by
      rw [← not_or]
      intro overflows
      have stopped := construct_overflows peers sample balance overflows
      rcases sound.checked with asserted | ⟨loop, constructed, -⟩
      · rw [stopped] at asserted
        cases asserted
      · rw [stopped] at constructed
        cases constructed
    refine ⟨sample, balance, samplesComputed, balancesComputed, ?_⟩
    intro samples balances accepts
    rcases sound.checked with stopped | ⟨loop, -, exact⟩
    · rcases construct_outcome peers sample balance samplesComputed balancesComputed with
        ⟨loop, constructed, -⟩ | ⟨-, none⟩
      · rw [stopped] at constructed
        cases constructed
      · exact absurd accepts (none samples balances)
    · exact exact.fit accepts
  · intro checkable
    rcases construct_outcome peers checkable.sample checkable.balance checkable.samplesComputed
      checkable.balancesComputed with
      ⟨loop, constructed, samples, balances, accepts, sampling, balancing⟩ | ⟨stopped, -⟩
    · have exact := accepts.exactRatios (checkable.fits samples balances accepts) sampling balancing
      constructor
      · rw [constructed]
        intro impossible
        cases impossible
      · exact .inr ⟨loop, constructed, exact⟩
    · constructor
      · rw [stopped]
        intro impossible
        cases impossible
      · exact .inl stopped

/-- The balance period is negative, and so is its ratio, which the narrowing makes positive. -/
def backwardConfig : Config where
  samplePeriod := 1000
  balancePeriod := -2000
  outerPeriod := -20000
  latePercentage := 10

/-- The ratio of the least count to minus one is 2 ^ 63. -/
def overflowingConfig : Config where
  samplePeriod := 1
  balancePeriod := -1
  outerPeriod := Int64.minValue
  latePercentage := 10

/-- Zero divisors are divided by, the quotient of the least count overflows, and negative periods pass
every assertion. -/
theorem unsound_configurations :
    construct () { Config.default with samplePeriod := 0 } = .error .divisionByZero ∧
      construct () overflowingConfig = .error .overflow ∧
      ∃ loop, construct () backwardConfig = .ok loop ∧
        loop.samplesPerBalance = 4294967294 ∧ ¬ ChecksSoundly () backwardConfig := by
  refine ⟨by rfl, by rfl, _, rfl, by rfl, ?_⟩
  intro sound
  rcases sound.checked with stopped | ⟨loop, -, exact⟩
  · cases stopped
  · exact absurd exact.balancePositive (by decide)

end ControlLoopImpl
end InvertedPendulum.Control
