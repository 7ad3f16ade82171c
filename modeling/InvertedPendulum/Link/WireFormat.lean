import InvertedPendulum.Link.RobotControlService
import InvertedPendulum.Safety.SafetySupervisor
import InvertedPendulum.Wire.Buffer

namespace InvertedPendulum.Link
open Safety Wire

/-- `std::bit_cast` writes a `float` as its 32 bits. -/
class FloatImage (F : Type) where
  toBits : F → UInt32

namespace Extended

/-- The bits of a magnitude count the units in the last place below it. -/
def magnitudeBits (magnitude : ℚ) : Nat :=
  let exponent := Nat.log2 ⌊magnitude * 2 ^ 126⌋.toNat
  exponent * 2 ^ 23 + ⌊magnitude * 2 ^ 149 / 2 ^ exponent⌋.toNat

instance : FloatImage Extended where
  toBits
    | .notANumber => 0x7fc00000
    | .minusInfinity => 0xff800000
    | .plusInfinity => 0x7f800000
    | .finite value =>
        if value < 0 then 0x80000000 ||| UInt32.ofNat (magnitudeBits (-value))
        else UInt32.ofNat (magnitudeBits value)

end Extended

section Encoding
variable {F : Type} [FloatImage F]

/-- The four bytes of a value stand least significant first. -/
def floatBytes (value : F) : List UInt8 :=
  (List.range 4).map fun byte => (FloatImage.toBits value >>> UInt32.ofNat (8 * byte)).toUInt8

@[simp] theorem floatBytes_length (value : F) : (floatBytes value).length = 4 := rfl

/-- A value that does not fit trips an assertion before anything is written. -/
def putFloat {size : Nat} (destination : Vector UInt8 size) (offset : Nat) (value : F) :
    Option (Vector UInt8 size) :=
  if offset + 4 ≤ size then putAll destination offset (floatBytes value) else none

/-- The bytes of one. -/
example : floatBytes (1 : Extended) = [0, 0, 128, 63] := by decide +kernel

/-- A value right after what a buffer begins with appends its bytes. -/
theorem putFloat_begins {size : Nat} {destination : Vector UInt8 size} {values : List UInt8}
    (begins : Begins destination values) (value : F) (room : values.length + 4 ≤ size) :
    ∃ after, putFloat destination values.length value = some after ∧
      Begins after (values ++ floatBytes value) := by
  unfold putFloat
  rw [if_pos room]
  exact begins.putAll (floatBytes value) (by rwa [floatBytes_length])

/-- A value is written where it fits. -/
theorem putFloat_answers {size : Nat} (destination : Vector UInt8 size) (offset : Nat) (value : F)
    (room : offset + 4 ≤ size) : ∃ after, putFloat destination offset value = some after := by
  unfold putFloat
  rw [if_pos room]
  exact putAll_answers destination offset (floatBytes value) room

omit [FloatImage F] in
/-- A value is read from every four bytes that are there. -/
theorem getFloat_answers [FloatBits F] {source : List UInt8} {offset : Nat}
    (room : offset + 4 ≤ source.length) : ∃ value : F, getFloat source offset = some value :=
  ⟨_, if_pos room⟩

end Encoding

/-- `infra::enum_cast` -/
class EnumCast (α : Type) where
  enumCast : α → UInt8

instance : EnumCast Mode where
  enumCast
    | .init => 0
    | .calibrating => 1
    | .idle => 2
    | .armed => 3
    | .fault => 4

instance : EnumCast FaultCause where
  enumCast
    | .none => 0
    | .fall => 1
    | .driverFault => 2
    | .estimateInvalid => 3
    | .loopStalled => 4
    | .selfTestFailed => 5
    | .calibrationFailed => 6

end InvertedPendulum.Link
