import Mathlib.Data.List.Basic

namespace Wire
variable {α : Type*} {size : Nat}

/-- A write beyond the end of a fixed buffer has no result. -/
def put (buffer : Vector α size) (offset : Nat) (value : α) : Option (Vector α size) :=
  if inside : offset < size then some (buffer.set offset value inside) else none

/-- Values are written one after the other. -/
def putAll (buffer : Vector α size) : Nat → List α → Option (Vector α size)
  | _, [] => some buffer
  | offset, value :: rest => (put buffer offset value).bind fun next => putAll next (offset + 1) rest

/-- A buffer begins with some values. -/
def Begins (buffer : Vector α size) (values : List α) : Prop :=
  buffer.toList.take values.length = values

/-- Every buffer begins with no values. -/
theorem begins_nil (buffer : Vector α size) : Begins buffer [] := rfl

/-- What a buffer begins with, it begins with in every shorter length. -/
theorem Begins.take {buffer : Vector α size} {values : List α} (begins : Begins buffer values)
    (length : Nat) : Begins buffer (values.take length) := by
  unfold Begins at begins ⊢
  calc buffer.toList.take (values.take length).length
      = (buffer.toList.take values.length).take length := by
        rw [List.take_take, List.length_take]
    _ = values.take length := by rw [begins]

/-- A buffer is as long as what it begins with. -/
theorem Begins.length_le {buffer : Vector α size} {values : List α}
    (begins : Begins buffer values) : values.length ≤ size := by
  have lengths := congrArg List.length begins
  rw [List.length_take, Vector.length_toList] at lengths
  omega

/-- A write right after what a buffer begins with appends to it. -/
theorem Begins.put {buffer : Vector α size} {values : List α} (begins : Begins buffer values)
    (value : α) (room : values.length < size) :
    ∃ after, Wire.put buffer values.length value = some after ∧ Begins after (values ++ [value]) := by
  refine ⟨buffer.set values.length value room, dif_pos room, ?_⟩
  unfold Begins at begins ⊢
  have inside : values.length < buffer.toList.length := by rwa [Vector.length_toList]
  rw [Vector.toList_set, List.set_eq_take_append_cons_drop, if_pos inside, begins,
    List.append_cons values value (buffer.toList.drop (values.length + 1))]
  exact List.take_left

/-- Writes right after what a buffer begins with append to it. -/
theorem Begins.putAll {buffer : Vector α size} {values : List α} (begins : Begins buffer values)
    (more : List α) (room : values.length + more.length ≤ size) :
    ∃ after, Wire.putAll buffer values.length more = some after ∧ Begins after (values ++ more) := by
  induction more generalizing buffer values with
  | nil => exact ⟨buffer, rfl, by rwa [List.append_nil]⟩
  | cons value more ih =>
      rw [List.length_cons] at room
      obtain ⟨next, wrote, begins⟩ := begins.put value (by omega)
      obtain ⟨after, rest, begins⟩ := ih begins (by
        rw [List.length_append, List.length_singleton]
        omega)
      rw [List.length_append, List.length_singleton] at rest
      refine ⟨after, ?_, ?_⟩
      · rw [Wire.putAll, wrote]
        exact rest
      · rwa [List.append_assoc] at begins

/-- A write within a buffer replaces the value at its offset. -/
theorem put_toList (buffer : Vector α size) {offset : Nat} (value : α) (room : offset < size) :
    ∃ after, put buffer offset value = some after ∧
      after.toList = buffer.toList.take offset ++ value :: buffer.toList.drop (offset + 1) := by
  refine ⟨buffer.set offset value room, dif_pos room, ?_⟩
  have inside : offset < buffer.toList.length := by rwa [Vector.length_toList]
  rw [Vector.toList_set, List.set_eq_take_append_cons_drop, if_pos inside]

/-- Writes within a buffer replace the values from their offset on, and no others. -/
theorem putAll_toList (buffer : Vector α size) (offset : Nat) (values : List α)
    (room : offset + values.length ≤ size) :
    ∃ after, putAll buffer offset values = some after ∧
      after.toList = buffer.toList.take offset ++ values ++
        buffer.toList.drop (offset + values.length) := by
  induction values generalizing buffer offset with
  | nil =>
      refine ⟨buffer, rfl, ?_⟩
      rw [List.append_nil, List.length_nil, Nat.add_zero, List.take_append_drop]
  | cons value rest ih =>
      rw [List.length_cons] at room
      obtain ⟨next, wrote, written⟩ := put_toList buffer value (by omega : offset < size)
      obtain ⟨after, later, replaced⟩ := ih next (offset + 1) (by omega)
      have placed : (buffer.toList.take offset).length = offset := by
        rw [List.length_take, Vector.length_toList]
        omega
      have front : next.toList.take (offset + 1) = buffer.toList.take offset ++ [value] := by
        rw [written, List.append_cons _ value]
        apply List.take_left'
        rw [List.length_append, placed, List.length_singleton]
      have back : next.toList.drop (offset + 1 + rest.length) =
          buffer.toList.drop (offset + (value :: rest).length) := by
        rw [written, List.append_cons _ value, List.drop_append,
          List.drop_eq_nil_of_le (by
            rw [List.length_append, placed, List.length_singleton]
            omega),
          List.nil_append, List.drop_drop]
        congr 1
        rw [List.length_append, placed, List.length_singleton, List.length_cons]
        omega
      refine ⟨after, ?_, ?_⟩
      · rw [putAll, wrote]
        exact later
      · rw [replaced, front, back, List.append_assoc _ [value] rest]
        rfl

/-- Writes within a buffer are answered. -/
theorem putAll_answers (buffer : Vector α size) (offset : Nat) (values : List α)
    (room : offset + values.length ≤ size) : ∃ after, putAll buffer offset values = some after := by
  obtain ⟨after, wrote, -⟩ := putAll_toList buffer offset values room
  exact ⟨after, wrote⟩

end Wire
