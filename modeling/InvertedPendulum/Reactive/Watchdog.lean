import Mathlib.Order.Basic

namespace Reactive

/-- A watchdog counts the ticks that find no kick, up to a limit. -/
structure Watchdog where
  kicked : Bool
  missed : Nat

namespace Watchdog

def kick (watchdog : Watchdog) : Watchdog := { watchdog with kicked := true }

/-- A tick takes the kick away, and a kick that it finds clears the count. -/
def tick (watchdog : Watchdog) (limit : Nat) : Watchdog where
  kicked := false
  missed :=
    if watchdog.kicked then 0
    else if watchdog.missed < limit then watchdog.missed + 1 else watchdog.missed

/-- A kick is fresh until the second tick after it. -/
def fresh (watchdog : Watchdog) : Bool := watchdog.kicked || watchdog.missed == 0

/-- The watchdog agrees with the number of ticks since the last kick. -/
structure Tracks (limit : Nat) (watchdog : Watchdog) (age : Nat) : Prop where
  kicked : watchdog.kicked = decide (age = 0)
  missed : 0 < age → watchdog.missed = min limit (age - 1)

/-- A tick keeps the count within its limit. -/
theorem tick_missed_le {limit : Nat} {watchdog : Watchdog} (within : watchdog.missed ≤ limit) :
    (watchdog.tick limit).missed ≤ limit := by
  simp only [tick]
  split_ifs <;> omega

/-- A tick that reaches a positive limit found no kick. -/
theorem tick_reached {limit : Nat} {watchdog : Watchdog} (positive : 0 < limit)
    (reached : limit ≤ (watchdog.tick limit).missed) :
    watchdog.kicked = false ∧ limit ≤ watchdog.missed + 1 := by
  cases kicked : watchdog.kicked <;>
    simp only [tick, kicked, Bool.false_eq_true, if_false, if_true] at reached
  · refine ⟨rfl, ?_⟩
    split at reached <;> omega
  · omega

/-- A tick counts at most one miss. -/
theorem tick_missed_le_succ {limit : Nat} {watchdog : Watchdog} :
    (watchdog.tick limit).missed ≤ watchdog.missed + 1 := by
  simp only [tick]
  split_ifs <;> omega

/-- A watchdog that starts at its limit has not been kicked for more ticks than the limit. -/
theorem tracks_unkicked (limit : Nat) : Tracks limit ⟨false, limit⟩ (limit + 1) := by
  refine ⟨rfl, ?_⟩
  intro old
  change limit = min limit (limit + 1 - 1)
  omega

/-- A kick takes the age back to zero. -/
theorem tracks_kick (limit : Nat) (watchdog : Watchdog) : Tracks limit watchdog.kick 0 := by
  refine ⟨rfl, ?_⟩
  intro old
  omega

/-- A tick makes the last kick one tick older. -/
theorem Tracks.tick {limit age : Nat} {watchdog : Watchdog} (tracked : Tracks limit watchdog age) :
    Tracks limit (watchdog.tick limit) (age + 1) := by
  refine ⟨rfl, ?_⟩
  intro old
  have kicked := tracked.kicked
  have missed := tracked.missed
  by_cases now : age = 0
  · simp only [now, decide_true] at kicked
    simp [Watchdog.tick, kicked, now]
  · have counted := missed (by omega)
    simp only [now, decide_false] at kicked
    simp only [Watchdog.tick, kicked, Bool.false_eq_true, if_false, counted]
    split_ifs <;> omega

/-- Freshness is an age of at most one. -/
theorem Tracks.fresh_iff {limit age : Nat} {watchdog : Watchdog}
    (tracked : Tracks limit watchdog age) (positive : 0 < limit) :
    watchdog.fresh = true ↔ age ≤ 1 := by
  have kicked := tracked.kicked
  have missed := tracked.missed
  by_cases now : age = 0
  · simp [fresh, kicked, now]
  · have counted := missed (by omega)
    simp only [fresh, kicked, now, decide_false, Bool.false_or, beq_iff_eq, counted]
    omega

/-- The count stays under the limit exactly as long as the age is within it. -/
theorem Tracks.missed_lt_iff {limit age : Nat} {watchdog : Watchdog}
    (tracked : Tracks limit watchdog (age + 1)) : watchdog.missed < limit ↔ age < limit := by
  rw [tracked.missed (by omega)]
  omega

end Watchdog
end Reactive
