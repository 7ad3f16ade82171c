import Mathlib.Data.List.Basic
import Mathlib.Logic.Function.Basic

namespace Storage

/-- A bank holds files of registers, and the index of the file that is active. -/
abbrev Bank (Value : Type*) := Nat × List (Nat → Option Value)

/-- A change activates a file, or writes a register of the active one. -/
inductive Change (Value : Type*) where
  | select (index : Nat)
  | write (index : Nat) (value : Value)

namespace Bank
variable {Value : Type*}

/-- A register of the active file is read. -/
def read (bank : Bank Value) (index : Nat) : Option Value :=
  bank.2[bank.1]?.bind fun file => file index

def change (bank : Bank Value) : Change Value → Bank Value
  | .select index => (index, bank.2)
  | .write index value =>
      (bank.1, bank.2.modify bank.1 fun file => Function.update file index (some value))

/-- A change overwrites a register where it activates a file or writes the register. -/
def Overwrites (index : Nat) : Change Value → Prop
  | .select _ => True
  | .write other _ => other = index

/-- A register that was written in the active file reads the value. -/
theorem read_written {bank : Bank Value} (inside : bank.1 < bank.2.length) (index : Nat)
    (value : Value) : (bank.change (.write index value)).read index = some value := by
  simp [read, change, inside]

/-- A change that does not overwrite a register leaves it. -/
theorem read_kept {bank : Bank Value} {index : Nat} {made : Change Value}
    (kept : ¬ Overwrites index made) : (bank.change made).read index = bank.read index := by
  cases made with
  | select => exact absurd trivial kept
  | write other value =>
      have apart : index ≠ other := Ne.symm kept
      unfold read change
      rw [List.getElem?_modify_eq]
      cases bank.2[bank.1]? with
      | none => rfl
      | some file => exact Function.update_of_ne apart _ _

end Bank
end Storage
