import InvertedPendulum.Odometry.ShortestDelta
import InvertedPendulum.Reactive.Machine
import InvertedPendulum.Reactive.Timeline
import Mathlib.Algebra.BigOperators.Group.List.Basic

namespace InvertedPendulum.Odometry
open Estimation Reactive Machine WheelOdometryImpl

section Counters

/-- The encoder reads the count of its wheel on a counter that wraps at the resolution. -/
def reading (resolution : UInt32) (count : Int) : QuadratureEncoder where
  resolution
  position := UInt32.ofNat (count % resolution.toNat).toNat

variable {resolution : UInt32}

theorem resolution_pos (two : 2 ≤ resolution) : 0 < resolution.toNat := by
  have lower : (2 : UInt32).toNat ≤ resolution.toNat := UInt32.le_iff_toNat_le.mp two
  exact Nat.lt_of_lt_of_le (by decide) lower

/-- A reading stays below the resolution. -/
theorem reading_toNat (positive : 0 < resolution.toNat) (count : Int) :
    ((reading resolution count).position.toNat : Int) = count % resolution.toNat := by
  have nonzero : (resolution.toNat : Int) ≠ 0 := by omega
  have above := Int.emod_nonneg count nonzero
  have below := Int.emod_lt_of_pos count (by omega : (0 : Int) < resolution.toNat)
  have bound := resolution.toNat_lt
  have small : (count % resolution.toNat).toNat < UInt32.size := by
    show _ < 4294967296
    omega
  show (((UInt32.ofNat _).toNat : Nat) : Int) = _
  rw [UInt32.toNat_ofNat_of_lt' small, Int.toNat_of_nonneg above]

/-- The shortest difference between two readings is the movement between them. -/
theorem shortestDelta_reading (positive : 0 < resolution.toNat) (small : resolution.toNat < 2 ^ 31)
    (count : Int) {moved : Int} (slow : 2 * |moved| < resolution.toNat) :
    (shortestDelta (reading resolution count).position (reading resolution (count + moved)).position
      resolution).toInt = moved := by
  have within (count : Int) : (reading resolution count).position.toNat < resolution.toNat := by
    have below := Int.emod_lt_of_pos count (by omega : (0 : Int) < resolution.toNat)
    have read := reading_toNat positive count
    omega
  have congruent : (count + moved) % resolution.toNat - count % resolution.toNat ≡ moved
      [ZMOD resolution.toNat] := by
    have raw := (Int.mod_modEq (count + moved) resolution.toNat).sub
      (Int.mod_modEq count resolution.toNat)
    rwa [add_sub_cancel_left] at raw
  rw [← reading_toNat positive, ← reading_toNat positive] at congruent
  obtain ⟨measured, evaluates, movement⟩ :=
    evaluates_shortest (within count) (within (count + moved)) small
  have apart : |((reading resolution (count + moved)).position.toNat : Int) -
      (reading resolution count).position.toNat| < resolution.toNat := by
    have before := within count
    have now := within (count + moved)
    rw [abs_lt]
    omega
  rw [shortestDelta_evaluates evaluates]
  exact movement.unique apart (.of_slow congruent.symm slow)

end Counters

inductive Side where
  | left
  | right
  deriving DecidableEq

/-- Between two samples each wheel moves by some counts. -/
structure Turn where
  now : TimePoint
  moved : Side → Int

/-- A sample reads both encoders. -/
structure Sampling where
  now : TimePoint
  encoder : Side → QuadratureEncoder

/-- These are the readings of wheels that start at the given counts. -/
def samplings (resolution : UInt32) (count : Side → Int) : List Turn → List Sampling
  | [] => []
  | turn :: rest =>
      let next side := count side + turn.moved side
      ⟨turn.now, fun side => reading resolution (next side)⟩ :: samplings resolution next rest

/-- The exact sum of the movements of one wheel. -/
def moved (side : Side) (turns : List Turn) : Int := (turns.map fun turn => turn.moved side).sum

/-- Less than half a revolution of the counter passes between two samples. -/
def Slow (resolution : UInt32) (side : Side) (turns : List Turn) : Prop :=
  ∀ turn ∈ turns, 2 * |turn.moved side| < resolution.toNat

/-- This is the range of `int32_t`. -/
def Fits (counts : Int) : Prop := -2 ^ 31 ≤ counts ∧ counts < 2 ^ 31

namespace WheelOdometryImpl

section Travel
variable {F : Type} [FloatArithmetic F]

def wheel (odometry : WheelOdometryImpl F) : Side → Wheel F
  | .left => odometry.left
  | .right => odometry.right

/-- The observer adds up what the wheels and the chassis have travelled. -/
structure Travelled (F : Type) where
  angle : Side → F
  distance : F
  heading : F

def Travelled.none : Travelled F := ⟨fun _ => 0, 0, 0⟩

/-- Each sample after the first adds its velocities times the measured interval. -/
def Travelled.observe (travelled : Travelled F) (before : WheelOdometryImpl F)
    (sampling : Sampling) (after : WheelOdometryImpl F) : Travelled F :=
  let interval : F := seconds (sampling.now - before.previousSampleTime)
  if ! before.left.sampled then travelled
  else {
    angle := fun side =>
      travelled.angle side + (after.wheel side).motion.angularVelocity * interval
    distance := travelled.distance + after.chassis.forwardVelocity * interval
    heading := travelled.heading + after.chassis.yawRate * interval }

/-- A sample after the first adds its velocities times its interval. -/
theorem Travelled.observe_seeded (travelled : Travelled F) {before after : WheelOdometryImpl F}
    {sampling : Sampling} (seeded : before.left.sampled = true) :
    travelled.observe before sampling after =
      let interval : F := seconds (sampling.now - before.previousSampleTime)
      { angle := fun side =>
          travelled.angle side + (after.wheel side).motion.angularVelocity * interval
        distance := travelled.distance + after.chassis.forwardVelocity * interval
        heading := travelled.heading + after.chassis.yawRate * interval } := by
  unfold observe
  rw [seeded]
  rfl

/-- The first sample adds nothing. -/
theorem Travelled.observe_unseeded (travelled : Travelled F) {before after : WheelOdometryImpl F}
    {sampling : Sampling} (unseeded : before.left.sampled = false) :
    travelled.observe before sampling after = travelled := by
  unfold observe
  rw [unseeded]
  rfl

end Travel

section Sampling
variable {F : Type} [FloatArithmetic F] [FloatPi F]

def machine : Machine (WheelOdometryImpl F) Sampling where
  step odometry sampling :=
    odometry.sample sampling.now (sampling.encoder .left) (sampling.encoder .right)

/-- A sample takes time, and samples both wheels. -/
structure Sampled (before : WheelOdometryImpl F) (sampling : Sampling)
    (after : WheelOdometryImpl F) : Prop where
  elapsed : 0 < sampling.now - before.previousSampleTime
  wheel (side : Side) : before.sampleWheel (before.wheel side) (sampling.encoder side)
    (sampling.now - before.previousSampleTime) = some (after.wheel side)
  config : after.config = before.config
  previous : after.previousSampleTime = sampling.now

theorem step_sampled {before after : WheelOdometryImpl F} {sampling : Sampling}
    (stepped : machine.step before sampling = some after) : Sampled before sampling after := by
  change before.sample _ _ _ = some after at stepped
  unfold sample at stepped
  dsimp only at stepped
  split at stepped
  · rename_i elapsed
    obtain ⟨left, sampledLeft, stepped⟩ := Option.bind_eq_some_iff.mp stepped
    obtain ⟨right, sampledRight, stepped⟩ := Option.bind_eq_some_iff.mp stepped
    obtain rfl := Option.some.inj stepped
    constructor
    · exact elapsed
    · intro side
      cases side with
      | left => exact sampledLeft
      | right => exact sampledRight
    · rfl
    · rfl
  · cases stepped

/-- Every sample leaves its wheel sampled. -/
theorem sampleWheel_sampled {odometry : WheelOdometryImpl F} {wheel next : Wheel F}
    {encoder : QuadratureEncoder} {elapsed : Duration}
    (taken : odometry.sampleWheel wheel encoder elapsed = some next) : next.sampled = true := by
  unfold sampleWheel at taken
  dsimp only at taken
  split at taken
  · cases taken
  · split at taken
    · obtain rfl := Option.some.inj taken
      rfl
    · rename_i sampled
      obtain rfl := Option.some.inj taken
      simpa using sampled

variable {resolution : UInt32}

/-- A wheel takes every reading of a counter. -/
theorem sampleWheel_reading (odometry : WheelOdometryImpl F) (wheel : Wheel F)
    (two : 2 ≤ resolution) (count : Int) (elapsed : Duration) :
    odometry.sampleWheel wheel (reading resolution count) elapsed =
      let position := (reading resolution count).position
      if ! wheel.sampled then some { wheel with previousRaw := position, sampled := true }
      else
        let delta := shortestDelta wheel.previousRaw position resolution
        let countsPerWheelRevolution : F :=
          ((resolution.toNat : ℚ) : F) * odometry.config.gearRatio
        some { wheel with
          previousRaw := position
          motion := {
            position := wheel.motion.position + delta
            angularVelocity := ((2 : ℚ) : F) * FloatPi.pi * ((delta.toInt : ℚ) : F) /
              (countsPerWheelRevolution * seconds elapsed) } } := by
  have positive := resolution_pos two
  have below : (reading resolution count).position < resolution := by
    have read := reading_toNat positive count
    have upper := Int.emod_lt_of_pos count (by omega : (0 : Int) < resolution.toNat)
    rw [UInt32.lt_iff_toNat_lt]
    omega
  have taken : ¬ ¬ (resolution ≥ 2 ∧ (reading resolution count).position < resolution) :=
    not_not.mpr ⟨two, below⟩
  unfold sampleWheel
  exact if_neg taken

theorem sampleWheel_answers (odometry : WheelOdometryImpl F) (wheel : Wheel F)
    (two : 2 ≤ resolution) (count : Int) (elapsed : Duration) :
    ∃ next, odometry.sampleWheel wheel (reading resolution count) elapsed = some next := by
  rw [sampleWheel_reading odometry wheel two]
  dsimp only
  split <;> exact ⟨_, rfl⟩

theorem step_answers (odometry : WheelOdometryImpl F) (two : 2 ≤ resolution) (count : Side → Int)
    {now : TimePoint} (later : 0 < now - odometry.previousSampleTime) :
    ∃ next, machine.step odometry ⟨now, fun side => reading resolution (count side)⟩ =
      some next := by
  obtain ⟨left, sampledLeft⟩ := odometry.sampleWheel_answers odometry.left two (count .left)
    (now - odometry.previousSampleTime)
  obtain ⟨right, sampledRight⟩ := odometry.sampleWheel_answers odometry.right two (count .right)
    (now - odometry.previousSampleTime)
  use { odometry with left, right, previousSampleTime := now }
  show odometry.sample _ _ _ = _
  unfold sample
  dsimp only
  rw [if_pos later, sampledLeft, sampledRight]
  rfl

/-- Samples at increasing times are taken. -/
theorem machine_runs (two : 2 ≤ resolution) (odometry : WheelOdometryImpl F) (count : Side → Int)
    {turns : List Turn} (ordered : Spaced (0 < ·) odometry.previousSampleTime (turns.map Turn.now)) :
    ∃ final, machine.run odometry (samplings resolution count turns) = some final := by
  induction turns generalizing odometry count with
  | nil => exact ⟨odometry, rfl⟩
  | cons turn rest ih =>
      obtain ⟨later, ordered⟩ := spaced_cons.mp ordered
      obtain ⟨next, stepped⟩ := odometry.step_answers two (fun side => count side + turn.moved side) later
      have previous : next.previousSampleTime = turn.now := (step_sampled stepped).previous
      rw [← previous] at ordered
      obtain ⟨final, ran⟩ := ih next (fun side => count side + turn.moved side) ordered
      exact ⟨final, run_cons.mpr ⟨next, stepped, ran⟩⟩

end Sampling
end WheelOdometryImpl

section Exact
open WheelOdometryImpl
variable {F : Type} [Field F] [LinearOrder F] [FloatPi F] {resolution : UInt32}
  {config : Config F} {side : Side} {count sum : Int} {wheel next : Wheel F}

/-- A wheel turns by this angle while its encoder counts so far. -/
def wheelAngle (config : Config F) (resolution : UInt32) (counts : Int) : F :=
  ((2 : ℚ) : F) * FloatPi.pi * counts / (resolution.toNat * config.gearRatio)

/-- A sampled wheel has read the count, and holds the sum as far as it fits. -/
structure Follows (resolution : UInt32) (count sum : Int) (wheel : Wheel F) : Prop where
  sampled : wheel.sampled = true
  raw : wheel.previousRaw = (reading resolution count).position
  position : wheel.motion.position = Int32.ofInt sum

omit [FloatPi F] in
theorem seconds_pos [IsStrictOrderedRing F] {elapsed : Duration} (positive : 0 < elapsed) :
    (0 : F) < seconds elapsed := by
  show (0 : F) < (((elapsed / 1000000000 : ℚ)) : F)
  have exact : (0 : ℚ) < elapsed / 1000000000 := by positivity
  exact_mod_cast exact

/-- A wheel that moves slowly follows its count, and turns by the angle of that movement. -/
theorem Follows.sampled_again [IsStrictOrderedRing F] {odometry : WheelOdometryImpl F}
    {moved : Int} {elapsed : Duration} (follows : Follows resolution count sum wheel)
    (two : 2 ≤ resolution) (counter : resolution.toNat ≤ 65536) (geared : odometry.config.gearRatio ≠ 0)
    (slow : 2 * |moved| < resolution.toNat) (positive : 0 < elapsed)
    (taken : odometry.sampleWheel wheel (reading resolution (count + moved)) elapsed = some next) :
    Follows resolution (count + moved) (sum + moved) next ∧
      next.motion.angularVelocity * seconds elapsed =
        wheelAngle odometry.config resolution moved := by
  have positiveResolution := resolution_pos two
  have shortest := shortestDelta_reading positiveResolution (by omega) count slow
  rw [← follows.raw] at shortest
  generalize moves : shortestDelta wheel.previousRaw _ resolution = delta at shortest
  rw [sampleWheel_reading odometry wheel two] at taken
  dsimp only at taken
  rw [follows.sampled, Bool.not_true, if_neg Bool.false_ne_true, moves] at taken
  obtain rfl := Option.some.inj taken
  constructor
  · constructor
    · rfl
    · rfl
    · have whole : delta = Int32.ofInt moved := by rw [← shortest, Int32.ofInt_toInt]
      show wheel.motion.position + delta = _
      rw [follows.position, whole, Int32.ofInt_add]
  · have interval : (seconds elapsed : F) ≠ 0 := (seconds_pos positive).ne'
    have counts : (resolution.toNat : F) ≠ 0 := Nat.cast_ne_zero.mpr positiveResolution.ne'
    show ((2 : ℚ) : F) * FloatPi.pi * ((delta.toInt : ℚ) : F) /
      (((resolution.toNat : ℚ) : F) * odometry.config.gearRatio * seconds elapsed) *
        seconds elapsed = _
    rw [shortest, Rat.cast_intCast, Rat.cast_natCast, wheelAngle]
    field_simp

omit [LinearOrder F] in
/-- The angles of two movements add up. -/
theorem wheelAngle_add (first second : Int) :
    wheelAngle config resolution (first + second) =
      wheelAngle config resolution first + wheelAngle config resolution second := by
  unfold wheelAngle
  rw [Int.cast_add, mul_add, add_div]

/-- A wheel that moves slowly follows its count through every run, and has turned by the angle of its
movements. -/
theorem Follows.run [IsStrictOrderedRing F] {turns : List Turn} (two : 2 ≤ resolution)
    (counter : resolution.toNat ≤ 65536) {odometry final : WheelOdometryImpl F}
    {travelled after : Travelled F} {count : Side → Int}
    (follows : Follows resolution (count side) sum (odometry.wheel side))
    (seeded : odometry.left.sampled = true) (geared : odometry.config.gearRatio ≠ 0)
    (slow : Slow resolution side turns)
    (ran : (machine.observed Travelled.observe).run (odometry, travelled)
      (samplings resolution count turns) = some (final, after)) :
    Follows resolution (count side + moved side turns) (sum + moved side turns) (final.wheel side) ∧
      after.angle side =
        travelled.angle side + wheelAngle odometry.config resolution (moved side turns) := by
  induction turns generalizing odometry travelled count sum with
  | nil =>
      obtain ⟨rfl, rfl⟩ := Prod.mk.inj (Option.some.inj ran)
      have none : moved side [] = 0 := rfl
      rw [none, add_zero, add_zero]
      refine ⟨follows, ?_⟩
      simp [wheelAngle]
  | cons turn rest ih =>
      obtain ⟨⟨next, travelledNext⟩, both, ran⟩ := run_cons.mp ran
      obtain ⟨stepped, rfl⟩ := observed_step.mp both
      have step := step_sampled stepped
      obtain ⟨followed, turned⟩ := follows.sampled_again two counter geared
        (slow turn (List.mem_cons_self ..)) step.elapsed (step.wheel side)
      have seededNext : next.left.sampled = true := sampleWheel_sampled (step.wheel .left)
      have observed : (travelled.observe odometry
          ⟨turn.now, fun side => reading resolution (count side + turn.moved side)⟩ next).angle side =
            travelled.angle side +
              wheelAngle odometry.config resolution (turn.moved side) := by
        rw [travelled.observe_seeded seeded, ← turned]
      have slowRest : Slow resolution side rest :=
        fun later member => slow later (List.mem_cons_of_mem _ member)
      rw [← step.config] at geared
      obtain ⟨lasting, angle⟩ := ih followed seededNext geared slowRest ran
      have total : moved side (turn :: rest) = turn.moved side + moved side rest := List.sum_cons
      rw [total, ← add_assoc, ← add_assoc, wheelAngle_add, ← add_assoc, ← observed, ← step.config]
      exact ⟨lasting, angle⟩

/-- The chassis has travelled the mean of its wheels, and turned by their difference. -/
structure Travels (config : Config F) (state : WheelOdometryImpl F × Travelled F) : Prop where
  configured : state.1.config = config
  distance : state.2.distance =
    config.wheelRadius * ((state.2.angle .left + state.2.angle .right) / 2)
  heading : state.2.heading =
    config.wheelRadius / config.trackWidth * (state.2.angle .right - state.2.angle .left)

/-- Every sample adds to the chassis what it adds to the wheels. -/
theorem Travels.kept {before after : WheelOdometryImpl F × Travelled F} {sampling : Sampling}
    (travels : Travels config before)
    (stepped : (machine.observed Travelled.observe).step before sampling = some after) :
    Travels config after := by
  obtain ⟨odometry, travelled⟩ := before
  obtain ⟨next, later⟩ := after
  obtain ⟨moved, rfl⟩ := observed_step.mp stepped
  have kept : next.config = config := (step_sampled moved).config.trans travels.configured
  cases seeded : odometry.left.sampled with
  | false =>
      rw [travelled.observe_unseeded seeded]
      exact ⟨kept, travels.distance, travels.heading⟩
  | true =>
      rw [travelled.observe_seeded seeded]
      have distance : travelled.distance = _ := travels.distance
      have heading : travelled.heading = _ := travels.heading
      constructor
      · exact kept
      · show travelled.distance + next.config.wheelRadius *
          (next.left.motion.angularVelocity + next.right.motion.angularVelocity) / ((2 : ℚ) : F) *
            seconds _ = config.wheelRadius *
          ((travelled.angle .left + next.left.motion.angularVelocity * seconds _ +
            (travelled.angle .right + next.right.motion.angularVelocity * seconds _)) / 2)
        rw [distance, kept, Rat.cast_ofNat]
        ring
      · show travelled.heading + next.config.wheelRadius *
          (next.right.motion.angularVelocity - next.left.motion.angularVelocity) /
            next.config.trackWidth * seconds _ = config.wheelRadius / config.trackWidth *
          (travelled.angle .right + next.right.motion.angularVelocity * seconds _ -
            (travelled.angle .left + next.left.motion.angularVelocity * seconds _))
        rw [heading, kept]
        ring

/-- A wheel that moves slowly counts exactly what it has moved, and its velocity adds up to the angle
of that count; so do the velocities of the chassis on two such wheels. -/
structure Lossless (config : Config F) (resolution : UInt32) (turns : List Turn)
    (odometry : WheelOdometryImpl F) (travelled : Travelled F) : Prop where
  wheel (side : Side) (slow : Slow resolution side turns) (fits : Fits (moved side turns)) :
    (odometry.wheel side).motion.position.toInt = moved side turns ∧
      travelled.angle side =
        wheelAngle config resolution (odometry.wheel side).motion.position.toInt
  chassis (slow : ∀ side, Slow resolution side turns) (fits : ∀ side, Fits (moved side turns)) :
    let angle side := wheelAngle config resolution (odometry.wheel side).motion.position.toInt
    travelled.distance = config.wheelRadius * ((angle .left + angle .right) / 2) ∧
      travelled.heading = config.wheelRadius / config.trackWidth * (angle .right - angle .left)

omit [FloatPi F] in
/-- The constructor leaves both wheels still, on positive lengths and a positive gear ratio. -/
theorem construct_still {built : TimePoint} {start : WheelOdometryImpl F}
    (constructed : construct config built = some start) :
    start = ⟨config, stillWheel, stillWheel, built⟩ ∧ 0 < config.gearRatio := by
  unfold construct at constructed
  split at constructed
  · rename_i checked
    obtain rfl := Option.some.inj constructed
    exact ⟨rfl, checked.2.2.2⟩
  · cases constructed

/-- The first sample seeds both wheels, wherever their counters stand. -/
theorem first_sample {built now : TimePoint} {next : WheelOdometryImpl F} {count : Side → Int}
    (two : 2 ≤ resolution)
    (stepped : machine.step ⟨config, stillWheel, stillWheel, built⟩
      ⟨now, fun side => reading resolution (count side)⟩ = some next) (side : Side) :
    Follows resolution (count side) 0 (next.wheel side) := by
  have taken := (step_sampled stepped).wheel side
  have still : wheel (⟨config, stillWheel, stillWheel, built⟩ : WheelOdometryImpl F) side =
      stillWheel := by
    cases side <;> rfl
  rw [still, sampleWheel_reading _ stillWheel two] at taken
  rw [← Option.some.inj taken]
  exact ⟨rfl, rfl, rfl⟩

/-- The odometry loses no count of slow wheels across the wraps of their counters, and its velocities
integrate to its positions over samples at any increasing times. -/
theorem odometry_lossless [IsStrictOrderedRing F] {built first : TimePoint}
    {start : WheelOdometryImpl F} (constructed : construct config built = some start)
    (two : 2 ≤ resolution) (counter : resolution.toNat ≤ 65536) (count : Side → Int)
    {turns : List Turn} (ordered : Spaced (0 < ·) built (first :: turns.map Turn.now)) :
    ∃ final travelled, (machine.observed Travelled.observe).run (start, .none)
        (⟨first, fun side => reading resolution (count side)⟩ :: samplings resolution count turns) =
          some (final, travelled) ∧
      Lossless config resolution turns final travelled := by
  obtain ⟨rfl, geared⟩ := construct_still constructed
  obtain ⟨later, ordered⟩ := spaced_cons.mp ordered
  let start : WheelOdometryImpl F := ⟨config, stillWheel, stillWheel, built⟩
  obtain ⟨next, stepped⟩ := start.step_answers two count later
  have step := step_sampled stepped
  have previous : next.previousSampleTime = first := step.previous
  rw [← previous] at ordered
  obtain ⟨final, ran⟩ := machine_runs two next count ordered
  obtain ⟨travelled, ran⟩ := (observed_run (Travelled.none : Travelled F)).mp ran
  have seeded : next.left.sampled = true := sampleWheel_sampled (step.wheel .left)
  have configured : next.config = config := step.config
  have observed : (machine.observed Travelled.observe).step (start, .none)
      ⟨first, fun side => reading resolution (count side)⟩ = some (next, .none) := by
    have unseeded : start.left.sampled = false := rfl
    have nothing : (Travelled.none : Travelled F).observe start
        ⟨first, fun side => reading resolution (count side)⟩ next = .none :=
      Travelled.observe_unseeded _ unseeded
    exact observed_step.mpr ⟨stepped, nothing.symm⟩
  have followed : ∀ side, Slow resolution side turns → Fits (moved side turns) →
      (final.wheel side).motion.position.toInt = moved side turns ∧
        travelled.angle side =
          wheelAngle config resolution (final.wheel side).motion.position.toInt := by
    intro side slow fits
    have geared : next.config.gearRatio ≠ 0 := by
      rw [configured]
      exact geared.ne'
    obtain ⟨follows, angle⟩ :=
      (first_sample two stepped side).run two counter seeded geared slow ran
    have exact : (final.wheel side).motion.position.toInt = moved side turns := by
      rw [follows.position, zero_add]
      exact Int32.toInt_ofInt_of_le fits.1 fits.2
    have none : (Travelled.none : Travelled F).angle side = 0 := rfl
    rw [none, zero_add, configured, ← exact] at angle
    exact ⟨exact, angle⟩
  have travels : Travels config (final, travelled) := by
    have initially : Travels config (next, .none) := by
      constructor
      · exact configured
      · simp [Travelled.none]
      · simp [Travelled.none]
    exact run_invariant (fun _ _ _ => Travels.kept) initially ran
  use final, travelled, run_cons.mpr ⟨_, observed, ran⟩
  constructor
  · exact followed
  · intro slow fits angle
    have left := (followed .left (slow .left) (fits .left)).2
    have right := (followed .right (slow .right) (fits .right)).2
    have distance : travelled.distance = _ := travels.distance
    have heading : travelled.heading = _ := travels.heading
    rw [distance, heading, left, right]
    exact ⟨rfl, rfl⟩

end Exact

/-- The left counter wraps forwards and back over irregular samples. -/
theorem odometry_lossless_wrapped :
    let _ : FloatPi ℚ := ⟨13176795 / 4194304⟩
    let config : Config ℚ := ⟨microseconds 20000, 1, 1, 30⟩
    let turns : List Turn :=
      [⟨milliseconds 40, fun _ => 16⟩,
        ⟨milliseconds 100, fun side => if side = .left then -20 else 2000⟩]
    ∃ final travelled, (machine.observed Travelled.observe).run
        (⟨config, stillWheel, stillWheel, 0⟩, .none)
        (⟨milliseconds 20, fun _ => reading 4096 4090⟩ :: samplings 4096 (fun _ => 4090) turns) =
          some (final, travelled) ∧
      (final.wheel .left).motion.position.toInt = -4 ∧
      travelled.angle .left = wheelAngle config 4096 (-4) := by
  intro circle config turns
  have constructed : construct config 0 = some ⟨config, stillWheel, stillWheel, 0⟩ := rfl
  have ordered : Spaced (0 < ·) 0 (milliseconds 20 :: turns.map Turn.now) :=
    spaced_cons.mpr ⟨by decide, spaced_cons.mpr ⟨by decide, spaced_cons.mpr ⟨by decide, .nil⟩⟩⟩
  have two : (2 : UInt32) ≤ 4096 := by decide
  obtain ⟨final, travelled, ran, lossless⟩ :=
    odometry_lossless constructed two (by decide) (fun _ => 4090) ordered
  have slow : Slow 4096 .left turns := by
    intro turn member
    have moves : turn.moved .left = 16 ∨ turn.moved .left = -20 := by
      rcases List.mem_cons.mp member with rfl | member
      · left
        rfl
      · right
        rw [List.mem_singleton.mp member]
        rfl
    rcases moves with forwards | back
    · rw [forwards]
      decide
    · rw [back]
      decide
  have total : moved .left turns = -4 := rfl
  have fits : Fits (moved .left turns) := by
    rw [total]
    unfold Fits
    decide
  obtain ⟨position, angle⟩ := lossless.wheel .left slow fits
  rw [position, total] at angle
  exact ⟨final, travelled, ran, position.trans total, angle⟩

end InvertedPendulum.Odometry
