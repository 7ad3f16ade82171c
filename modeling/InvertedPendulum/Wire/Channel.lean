import InvertedPendulum.Wire.Buffer

namespace Wire

/-- An update hands over some bytes and completes later, known by its number. -/
structure Update (α : Type*) where
  serial : Nat
  bytes : List α
  deriving DecidableEq

/-- A channel hands the front of its buffer to a peer that reads it until the update completes.
The flag is the channel's own record of an update under way. -/
structure Channel (α : Type*) (size : Nat) where
  buffer : Vector α size
  inFlight : Bool
  handed : Nat
  outstanding : List (Update α)

namespace Channel
variable {α : Type*} {size : Nat}

/-- A new channel has handed nothing over. -/
def idle (buffer : Vector α size) : Channel α size where
  buffer
  inFlight := false
  handed := 0
  outstanding := []

/-- The bytes that an update of the front of the buffer hands over. -/
def front (channel : Channel α size) (length : Nat) : List α := channel.buffer.toList.take length

/-- An update hands the front of the buffer over. -/
def hand (channel : Channel α size) (length : Nat) : Channel α size :=
  { channel with
    inFlight := true
    handed := channel.handed + 1
    outstanding := channel.outstanding ++ [⟨channel.handed, channel.front length⟩] }

/-- The completion of an update clears the flag, whichever update set it. -/
def complete (channel : Channel α size) (serial : Nat) : Option (Channel α size) :=
  if channel.outstanding.any (·.serial == serial) then
    some { channel with
      inFlight := false
      outstanding := channel.outstanding.filter (·.serial != serial) }
  else none

/-- The channel forgets an update without waiting for its completion. -/
def abandon (channel : Channel α size) : Channel α size := { channel with inFlight := false }

/-- An update from before a boundary is outstanding. -/
def Stale (channel : Channel α size) (boundary : Nat) : Prop :=
  ∃ update ∈ channel.outstanding, update.serial < boundary

instance (channel : Channel α size) (boundary : Nat) : Decidable (channel.Stale boundary) :=
  inferInstanceAs (Decidable (∃ update ∈ channel.outstanding, _))

/-- Outside of an abandonment, a channel is kept as it is, hands an update over once its flag is
cleared, or completes an update. -/
inductive Evolves (channel : Channel α size) : Channel α size → Option Nat → Prop
  | kept : Evolves channel channel none
  | handed (cleared : channel.inFlight = false) (buffer : Vector α size) (length : Nat) :
      Evolves channel ({ channel with buffer }.hand length) none
  | completed {after : Channel α size} {serial : Nat}
      (completed : channel.complete serial = some after) : Evolves channel after (some serial)

/-- What an outstanding update reads is left alone until its own completion, which is not taken for
the completion of a later one. -/
structure Respects (before after : Channel α size) (completed : Option Nat) : Prop where
  stable : ∀ update ∈ before.outstanding, completed ≠ some update.serial →
    after.buffer = before.buffer
  alone : ∀ update ∈ before.outstanding, completed ≠ some update.serial →
    after.handed = before.handed
  own : ∀ serial, completed = some serial → ∀ later ∈ before.outstanding, serial < later.serial →
    after.inFlight = before.inFlight

/-- At most the last update is outstanding, and the flag knows it if it is from after a boundary. -/
structure Tracked (channel : Channel α size) (boundary : Nat) : Prop where
  last : ∀ update ∈ channel.outstanding, update.serial + 1 = channel.handed
  single : channel.outstanding.length ≤ 1
  flagged : channel.inFlight = true ↔ ∃ update ∈ channel.outstanding, boundary ≤ update.serial
  bounded : boundary ≤ channel.handed

theorem tracked_idle (buffer : Vector α size) : (idle buffer).Tracked 0 where
  last := by simp [idle]
  single := by simp [idle]
  flagged := by simp [idle]
  bounded := Nat.le_refl 0

/-- Nothing outstanding asks for nothing. -/
theorem Respects.free {before : Channel α size} (after : Channel α size) (completed : Option Nat)
    (free : before.outstanding = []) : before.Respects after completed where
  stable := by simp [free]
  alone := by simp [free]
  own := by simp [free]

/-- A step that hands nothing over and keeps the buffer respects what is outstanding. -/
theorem Respects.kept {before after : Channel α size} (buffer : after.buffer = before.buffer)
    (handed : after.handed = before.handed) : before.Respects after none where
  stable _ _ _ := buffer
  alone _ _ _ := handed
  own _ completed := by cases completed

/-- A completion hands nothing over. -/
theorem complete_handed {channel after : Channel α size} {serial : Nat}
    (completed : channel.complete serial = some after) : after.handed = channel.handed := by
  unfold complete at completed
  split at completed
  · obtain rfl := Option.some.inj completed
    rfl
  · cases completed

/-- Only an update handed over changes the count. -/
theorem Evolves.cleared_of_handed {before after : Channel α size} {completed : Option Nat}
    (evolves : before.Evolves after completed) (handed : after.handed ≠ before.handed) :
    before.inFlight = false ∧ completed = none := by
  cases evolves with
  | kept => exact absurd rfl handed
  | handed cleared buffer length => exact ⟨cleared, rfl⟩
  | completed completed => exact absurd (complete_handed completed) handed

/-- The count never falls. -/
theorem Evolves.handed_le {before after : Channel α size} {completed : Option Nat}
    (evolves : before.Evolves after completed) : before.handed ≤ after.handed := by
  cases evolves with
  | kept => exact Nat.le_refl _
  | handed cleared buffer length => exact Nat.le_succ _
  | completed completed => exact Nat.le_of_eq (complete_handed completed).symm

/-- The bytes of the updates that a step hands over. -/
def newly (before after : Channel α size) : List (List α) :=
  (after.outstanding.filter (before.handed ≤ ·.serial)).map (·.bytes)

/-- Updates are numbered by the count, and the flag is only set for one that is outstanding. -/
structure Numbered (channel : Channel α size) : Prop where
  below : ∀ update ∈ channel.outstanding, update.serial < channel.handed
  flagged : channel.inFlight = true → channel.outstanding ≠ []

theorem numbered_idle (buffer : Vector α size) : (idle buffer).Numbered where
  below := by simp [idle]
  flagged := by simp [idle]

theorem Numbered.abandon {channel : Channel α size} (numbered : channel.Numbered) :
    channel.abandon.Numbered where
  below := numbered.below
  flagged := by simp [Channel.abandon]

theorem Numbered.evolves {before after : Channel α size} {completed : Option Nat}
    (numbered : before.Numbered) (evolves : before.Evolves after completed) : after.Numbered := by
  cases evolves with
  | kept => exact numbered
  | handed cleared buffer length =>
      constructor
      · intro update member
        rcases List.mem_append.mp member with old | new
        · exact Nat.lt_succ_of_lt (numbered.below update old)
        · rw [List.mem_singleton.mp new]
          exact Nat.lt_succ_self _
      · simp [hand]
  | completed completed =>
      unfold complete at completed
      split at completed
      · obtain rfl := Option.some.inj completed
        constructor
        · intro update member
          exact numbered.below update (List.mem_filter.mp member).1
        · exact nofun
      · cases completed

/-- A step that only completes updates hands nothing over. -/
theorem Numbered.newly_subset {before after : Channel α size} (numbered : before.Numbered)
    (subset : after.outstanding ⊆ before.outstanding) : before.newly after = [] := by
  have none : after.outstanding.filter (before.handed ≤ ·.serial) = [] := by
    rw [List.filter_eq_nil_iff]
    intro update member
    have below := numbered.below update (subset member)
    simpa using below
  rw [newly, none, List.map_nil]

/-- An update handed over is the only new one. -/
theorem Numbered.newly_hand {channel : Channel α size} (numbered : channel.Numbered)
    (buffer : Vector α size) (length : Nat) :
    channel.newly ({ channel with buffer }.hand length) = [buffer.toList.take length] := by
  have none : channel.outstanding.filter (channel.handed ≤ ·.serial) = [] := by
    rw [List.filter_eq_nil_iff]
    intro update member
    have below := numbered.below update member
    simpa using below
  simp [newly, hand, front, none]

namespace Tracked
variable {channel after : Channel α size} {boundary : Nat}

/-- With a cleared flag, only an update from before the boundary can be outstanding. -/
theorem free_of_cleared (tracked : channel.Tracked boundary) (cleared : channel.inFlight = false)
    (fresh : ¬ channel.Stale boundary) : channel.outstanding = [] := by
  rw [List.eq_nil_iff_forall_not_mem]
  intro update member
  by_cases before : update.serial < boundary
  · exact fresh ⟨update, member, before⟩
  · have flying := tracked.flagged.mpr ⟨update, member, Nat.le_of_not_lt before⟩
    rw [cleared] at flying
    cases flying

/-- After an update from before the boundary, nothing has been handed over. -/
theorem handed_of_stale (tracked : channel.Tracked boundary) (stale : channel.Stale boundary) :
    channel.handed = boundary := by
  obtain ⟨update, member, before⟩ := stale
  have last := tracked.last update member
  have bounded := tracked.bounded
  omega

/-- An update from before the boundary leaves the flag cleared. -/
theorem cleared_of_stale (tracked : channel.Tracked boundary) (stale : channel.Stale boundary) :
    channel.inFlight = false := by
  have handed := tracked.handed_of_stale stale
  rw [Bool.eq_false_iff]
  intro flying
  obtain ⟨update, member, after⟩ := tracked.flagged.mp flying
  have last := tracked.last update member
  omega

/-- A new update beside no other is the only one. -/
theorem hand (tracked : channel.Tracked boundary) (free : channel.outstanding = [])
    (buffer : Vector α size) (length : Nat) :
    ({ channel with buffer }.hand length).Tracked boundary where
  last := by simp [Channel.hand, free]
  single := by simp [Channel.hand, free]
  flagged := by simp [Channel.hand, free, tracked.bounded]
  bounded := Nat.le_succ_of_le tracked.bounded

/-- The completion of the only update leaves none. -/
theorem complete (tracked : channel.Tracked boundary) {serial : Nat}
    (completed : channel.complete serial = some after) :
    after.Tracked boundary ∧ channel.Respects after (some serial) := by
  unfold Channel.complete at completed
  split at completed
  · rename_i known
    obtain rfl := Option.some.inj completed
    simp only [List.any_eq_true, beq_iff_eq] at known
    obtain ⟨update, member, rfl⟩ := known
    obtain ⟨only, listed⟩ := List.length_eq_one_iff.mp
      (Nat.le_antisymm tracked.single (List.length_pos_of_mem member))
    rw [listed, List.mem_singleton] at member
    subst member
    have tracked : Tracked { channel with
        inFlight := false
        outstanding := channel.outstanding.filter (·.serial != update.serial) } boundary := {
      last := by simp [listed]
      single := by simp [listed]
      flagged := by simp [listed]
      bounded := tracked.bounded }
    have respects : channel.Respects { channel with
        inFlight := false
        outstanding := channel.outstanding.filter (·.serial != update.serial) }
        (some update.serial) := {
      stable := fun _ _ _ => rfl
      alone := fun _ _ _ => rfl
      own := by simp [listed] }
    exact ⟨tracked, respects⟩
  · cases completed

/-- An abandoned update is one from before the new boundary. -/
theorem abandon (tracked : channel.Tracked boundary) : channel.abandon.Tracked channel.handed where
  last := tracked.last
  single := tracked.single
  flagged := by
    constructor
    · intro flying
      cases flying
    · intro given
      obtain ⟨update, member, late⟩ := given
      have last := tracked.last update member
      omega
  bounded := Nat.le_refl _

variable {completed : Option Nat}

/-- A channel that hands nothing over beside an update from before the boundary stays tracked. -/
theorem evolves (tracked : channel.Tracked boundary) (evolves : channel.Evolves after completed)
    (fresh : after.handed ≠ channel.handed → ¬ channel.Stale boundary) : after.Tracked boundary := by
  cases evolves with
  | kept => exact tracked
  | handed cleared buffer length =>
      have free := tracked.free_of_cleared cleared (fresh (Nat.succ_ne_self _))
      exact tracked.hand free buffer length
  | completed completed => exact (tracked.complete completed).1

/-- A tracked channel respects what is outstanding exactly when it hands nothing over beside an
update from before the boundary. -/
theorem respects_iff (tracked : channel.Tracked boundary)
    (evolves : channel.Evolves after completed) :
    channel.Respects after completed ↔
      (after.handed ≠ channel.handed → ¬ channel.Stale boundary) := by
  constructor
  · intro respects handed stale
    obtain ⟨update, member, -⟩ := stale
    obtain ⟨-, rfl⟩ := evolves.cleared_of_handed handed
    exact handed (respects.alone update member nofun)
  · intro fresh
    cases evolves with
    | kept => exact .kept rfl rfl
    | handed cleared buffer length =>
        exact .free _ _ (tracked.free_of_cleared cleared (fresh (Nat.succ_ne_self _)))
    | completed completed => exact (tracked.complete completed).2

end Tracked
end Channel
end Wire
