import InvertedPendulum.Estimation.Updates
import InvertedPendulum.Reactive.Timeline

namespace InvertedPendulum.Estimation
open Sensing Reactive

namespace AttitudeEstimationImpl

section Suffix
variable {F : Type}

def times (measurements : List (Measurement F)) : List TimePoint :=
  measurements.map fun measurement => measurement.sampledAt

@[simp] theorem times_snoc (measurements : List (Measurement F)) (last : Measurement F) :
    times (measurements ++ [last]) = times measurements ++ [last.sampledAt] := List.map_append

/-- These measurements are valid, and each follows the one before it soon enough to be fused. -/
structure Consecutive (config : Config F) (first : Measurement F) (rest : List (Measurement F)) :
    Prop where
  valid : ∀ measurement ∈ first :: rest, measurement.valid = true
  spaced : Spaced (fun gap => 0 < gap ∧ gap ≤ config.maximumInterval) first.sampledAt (times rest)

/-- Consecutive measurements earn a valid estimate when they span the convergence interval. -/
structure Earned (config : Config F) (first : Measurement F) (rest : List (Measurement F)) : Prop
    extends Consecutive config first rest where
  spans : config.convergenceInterval ≤ lastTime first.sampledAt (times rest) - first.sampledAt

/-- One valid measurement is consecutive. -/
theorem Consecutive.single {config : Config F} {first : Measurement F} (valid : first.valid = true) :
    Consecutive config first [] where
  valid := by
    intro measurement member
    rw [List.mem_singleton.mp member]
    exact valid
  spaced := Spaced.nil

/-- Consecutive measurements take one more at their end. -/
theorem consecutive_snoc {config : Config F} {first last : Measurement F}
    {rest : List (Measurement F)} :
    Consecutive config first (rest ++ [last]) ↔
      Consecutive config first rest ∧ last.valid = true ∧
        0 < last.sampledAt - lastTime first.sampledAt (times rest) ∧
        last.sampledAt - lastTime first.sampledAt (times rest) ≤ config.maximumInterval := by
  constructor
  · intro consecutive
    have spaced := consecutive.spaced
    rw [times_snoc, spaced_snoc] at spaced
    obtain ⟨spaced, gap⟩ := spaced
    have valid : ∀ measurement ∈ first :: rest, measurement.valid = true := by
      intro measurement member
      apply consecutive.valid
      rw [← List.cons_append]
      exact List.mem_append_left _ member
    exact ⟨⟨valid, spaced⟩, consecutive.valid last (by simp), gap⟩
  · intro given
    obtain ⟨consecutive, valid, gap⟩ := given
    constructor
    · intro measurement member
      rw [← List.cons_append] at member
      rcases List.mem_append.mp member with earlier | joined
      · exact consecutive.valid measurement earlier
      · rw [List.mem_singleton.mp joined]
        exact valid
    · rw [times_snoc]
      exact spaced_snoc.mpr ⟨consecutive.spaced, gap⟩

end Suffix

section Runs
variable {F Complementary Kalman : Type}
  {estimation : AttitudeEstimationImpl F Complementary Kalman} {calls : List (Call F)}

/-- The filter has been running since the first of the measurements that end these calls. -/
structure RunningSince (estimation : AttitudeEstimationImpl F Complementary Kalman)
    (first : Measurement F) (rest : List (Measurement F)) : Prop where
  running : estimation.running = true
  consecutive : Consecutive estimation.config first rest
  begun : estimation.convergenceStarted = first.sampledAt
  previous : estimation.previousSample = lastTime first.sampledAt (times rest)

/-- A running filter has fused the last calls, and a valid estimate has waited for it to converge. -/
structure Converging (estimation : AttitudeEstimationImpl F Complementary Kalman)
    (calls : List (Call F)) : Prop where
  running : estimation.running = true → ∃ front first rest,
    calls = front ++ (first :: rest).map .update ∧ estimation.RunningSince first rest
  valid : estimation.latest.valid = true → estimation.running = true ∧
    estimation.config.convergenceInterval ≤
      estimation.previousSample - estimation.convergenceStarted
  cause : estimation.latest.valid = true ↔ estimation.latest.cause = .none

/-- A filter that runs fuses the measurements that are consecutive to those it has seen. -/
theorem RunningSince.fuses_iff {first last : Measurement F} {rest : List (Measurement F)}
    (since : estimation.RunningSince first rest) :
    estimation.Fuses last ↔ Consecutive estimation.config first (rest ++ [last]) := by
  rw [consecutive_snoc, ← since.previous]
  constructor
  · intro fuses
    exact ⟨since.consecutive, fuses.valid, fuses.later, fuses.timely⟩
  · intro given
    obtain ⟨-, valid, later, timely⟩ := given
    exact ⟨valid, since.running, later, timely⟩

variable [PitchFilter Complementary F] [PitchFilter Kalman F] [FloatArithmetic F] [FloatGeometry F]

/-- A restart leaves the filter running since its measurement. -/
theorem RunningSince.restarted {first : Measurement F} (restarts : estimation.Restarts first) :
    RunningSince (estimation.update first).2 first [] := by
  have consecutive := @Consecutive.single F (estimation.update first).2.config first restarts.1
  cases estimation.update_updated first with
  | stopped invalid =>
      rw [restarts.1] at invalid
      cases invalid
  | restarted _ running begun previous => exact ⟨running, consecutive, begun, previous⟩
  | fused fuses => exact absurd restarts ((not_restarts_iff restarts.1).mpr fuses)

/-- A fused measurement joins those that the filter has been running since. -/
theorem RunningSince.fused {first last : Measurement F} {rest : List (Measurement F)}
    (since : estimation.RunningSince first rest) (fuses : estimation.Fuses last) :
    RunningSince (estimation.update last).2 first (rest ++ [last]) := by
  have consecutive := since.fuses_iff.mp fuses
  cases estimation.update_updated last with
  | stopped invalid =>
      rw [fuses.valid] at invalid
      cases invalid
  | restarted restarts => exact absurd restarts ((not_restarts_iff fuses.valid).mpr fuses)
  | fused _ running begun previous _ _ =>
      constructor
      · exact running
      · rw [update_config]
        exact consecutive
      · exact begun.trans since.begun
      · rw [times_snoc, lastTime_snoc]
        exact previous

/-- A fused measurement gets a valid estimate once the filter has run for the convergence
interval. -/
theorem RunningSince.converged_iff {first last : Measurement F} {rest : List (Measurement F)}
    (since : estimation.RunningSince first rest) (fuses : estimation.Fuses last) :
    (estimation.update last).1.valid = true ↔
      estimation.config.convergenceInterval ≤ last.sampledAt - first.sampledAt := by
  cases estimation.update_updated last with
  | stopped invalid =>
      rw [fuses.valid] at invalid
      cases invalid
  | restarted restarts => exact absurd restarts ((not_restarts_iff fuses.valid).mpr fuses)
  | fused _ _ _ _ valid _ =>
      rw [since.begun] at valid
      exact valid

/-- An update keeps a converging estimation so. -/
theorem Converging.updated (converging : estimation.Converging calls)
    (measurement : Measurement F) :
    Converging (estimation.update measurement).2 (calls ++ [.update measurement]) := by
  have latest := @update_latest F Complementary Kalman _ _ estimation measurement
  have config := @update_config F Complementary Kalman _ _ estimation measurement
  have outcome := estimation.update_updated measurement
  cases outcome with
  | stopped invalid stopped cause =>
      constructor
      · intro running
        rw [stopped] at running
        cases running
      · intro valid
        rw [latest, cause.1] at valid
        cases valid
      · rw [latest, cause.1, cause.2]
        decide
  | restarted restarts running begun previous cause =>
      constructor
      · intro _
        exact ⟨calls, measurement, [], rfl, RunningSince.restarted restarts⟩
      · intro valid
        rw [latest, cause.1] at valid
        cases valid
      · rw [latest, cause.1, cause.2]
        decide
  | fused fuses running begun previous valid cause =>
      constructor
      · intro _
        obtain ⟨front, first, rest, rfl, since⟩ := converging.running fuses.running
        refine ⟨front, first, rest ++ [measurement], ?_, since.fused fuses⟩
        simp
      · intro converged
        rw [latest] at converged
        rw [config, begun, previous]
        exact ⟨running, valid.mp converged⟩
      · rw [latest]
        exact cause.symm

/-- Every history of calls keeps the estimation converging. -/
theorem construct_converging (config : Config F) (complementary : Complementary) (kalman : Kalman)
    (calls : List (Call F)) :
    Converging ((construct config complementary kalman).after calls) calls := by
  induction calls using List.reverseRecOn with
  | nil =>
      constructor
      · intro running
        cases running
      · intro valid
        cases valid
      · show false = true ↔ InvalidCause.sensing = .none
        decide
  | append_singleton calls call ih =>
      rw [after_snoc]
      cases call with
      | update measurement => exact ih.updated measurement
      | select filter =>
          constructor
          · intro running
            cases running
          · intro valid
            cases valid
          · show false = true ↔ InvalidCause.converging = .none
            decide

theorem after_config (calls : List (Call F)) : (estimation.after calls).config = estimation.config := by
  induction calls generalizing estimation with
  | nil => rfl
  | cons call calls ih =>
      rw [after_cons, ih]
      cases call with
      | update measurement => exact update_config
      | select filter => rfl

/-- The filter runs on through consecutive measurements after a restart. -/
theorem RunningSince.after {first : Measurement F} (restarts : estimation.Restarts first)
    (rest : List (Measurement F)) (consecutive : Consecutive estimation.config first rest) :
    RunningSince (estimation.after ((first :: rest).map .update)) first rest := by
  induction rest using List.reverseRecOn with
  | nil => exact .restarted restarts
  | append_singleton rest last ih =>
      have since := ih (consecutive_snoc.mp consecutive).1
      have config : (estimation.after ((first :: rest).map .update)).config = estimation.config :=
        after_config _
      rw [← config] at consecutive
      have fused := since.fused (since.fuses_iff.mpr consecutive)
      rw [← List.cons_append, List.map_append, after_append]
      exact fused

/-- A valid estimate has been earned since the last selection, and measurements that earn one after a
restart get it. -/
theorem valid_estimate_earned {config : Config F} (converges : 0 < config.convergenceInterval)
    (complementary : Complementary) (kalman : Kalman) (calls : List (Call F)) :
    let start := construct config complementary kalman
    ((start.after calls).latest.valid = true → ∃ front first rest,
      calls = front ++ (first :: rest).map .update ∧ Earned config first rest) ∧
    (∀ front first rest last updates, calls = front ++ (updates ++ [last]).map .update →
      updates ++ [last] = first :: rest → (start.after front).Restarts first →
      Earned config first rest →
      ((start.after (front ++ updates.map .update)).update last).1.valid = true) ∧
    ((start.after calls).latest.valid = true ↔ (start.after calls).latest.cause = .none) := by
  intro start
  have converging := construct_converging config complementary kalman calls
  have configured : (start.after calls).config = config := after_config calls
  refine ⟨?_, ?_, converging.cause⟩
  · intro valid
    obtain ⟨running, spans⟩ := converging.valid valid
    obtain ⟨front, first, rest, split, since⟩ := converging.running running
    have consecutive := since.consecutive
    rw [since.begun, since.previous] at spans
    rw [configured] at spans consecutive
    exact ⟨front, first, rest, split, consecutive, spans⟩
  · intro front first rest last updates _ split restarts earned
    cases updates with
    | nil =>
        -- one measurement spans nothing
        obtain ⟨rfl, rfl⟩ := List.cons.inj split
        have spans := earned.spans
        simp only [times, List.map_nil, lastTime_nil, sub_self] at spans
        exact absurd converges (not_lt.mpr spans)
    | cons head updates =>
        rw [List.cons_append] at split
        obtain ⟨rfl, rfl⟩ := List.cons.inj split
        have configured : (start.after front).config = config := after_config front
        have consecutive := earned.toConsecutive
        rw [← configured] at consecutive
        have since := RunningSince.after restarts updates (consecutive_snoc.mp consecutive).1
        have spans := earned.spans
        rw [times_snoc, lastTime_snoc] at spans
        rw [after_append]
        rw [← after_config ((head :: updates).map .update)] at consecutive configured
        have fuses := since.fuses_iff.mpr consecutive
        rw [since.converged_iff fuses, configured]
        exact spans

end Runs

/-- Three measurements of a robot that stands upright converge a filter that follows the
accelerometer. -/
theorem valid_estimate_earned_upright :
    let _ : FloatGeometry ℚ := ⟨fun _ _ => 0, fun square => square⟩
    let _ : PitchFilter ℚ ℚ := ⟨fun _ pitch => pitch, fun _ _ pitch _ _ => (pitch, pitch)⟩
    let config : Config ℚ := ⟨.complementary, 2, 1, 1⟩
    let upright (now : TimePoint) : Measurement ℚ := ⟨⟨0, 0, 0⟩, ⟨0, 0, -1⟩, now, true, .none⟩
    let calls : List (Call ℚ) := [.update (upright 5), .update (upright 6), .update (upright 7)]
    ((construct config (0 : ℚ) (0 : ℚ)).after calls).latest.valid = true ∧
      ∃ front first rest, calls = front ++ (first :: rest).map .update ∧
        Earned config first rest := by
  intro geometry filter config upright calls
  have valid : ((construct config (0 : ℚ) (0 : ℚ)).after calls).latest.valid = true := by
    decide +kernel
  have converges : 0 < config.convergenceInterval := by decide
  exact ⟨valid, (valid_estimate_earned converges 0 0 calls).1 valid⟩

end AttitudeEstimationImpl
end InvertedPendulum.Estimation
