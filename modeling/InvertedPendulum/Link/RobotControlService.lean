import InvertedPendulum.Arithmetic.Extended
import InvertedPendulum.Balance.ControlStrategy

namespace InvertedPendulum.Link
open Balance

/-- `std::bit_cast` reads a `float` from its 32 bits. -/
class FloatBits (F : Type) where
  ofBits : UInt32 → F

/-- The 32 bits hold a sign, an exponent and a fraction. -/
instance : FloatBits Extended where
  ofBits bits :=
    let sign : ℚ := if bits >>> 31 = 0 then 1 else -1
    let exponent := (bits >>> 23 &&& 255).toNat
    let fraction := (bits &&& 8388607).toNat
    if exponent = 255 then
      if fraction ≠ 0 then .notANumber
      else if 0 < sign then .plusInfinity else .minusInfinity
    else if exponent = 0 then .finite (sign * fraction / 2 ^ 149)
    else .finite (sign * (2 ^ 23 + fraction) * 2 ^ exponent / 2 ^ 150)

section Decoding
variable {F : Type} [FloatBits F]

/-- The four bytes stand least significant first; a read past the end trips an assertion. -/
def getFloat (source : List UInt8) (offset : Nat) : Option F :=
  if offset + 4 ≤ source.length then
    some (FloatBits.ofBits ((List.range 4).foldl
      (fun bits byte => bits ||| (source.getD (offset + byte) 0).toUInt32 <<< UInt32.ofNat (8 * byte))
      0))
  else none

/-- The bytes of one. -/
example : (getFloat [0, 0, 128, 63] 0 : Option Extended) = some 1 := by decide +kernel

end Decoding

namespace RobotControlService

inductive Command where
  | arm
  | disarm
  | clearFault
  | calibrate

def Command.ofByte? (byte : UInt8) : Option Command :=
  if byte = 1 then some .arm
  else if byte = 2 then some .disarm
  else if byte = 3 then some .clearFault
  else if byte = 4 then some .calibrate
  else none

/-- A mode write of one byte executes a command. -/
def modeWritten : List UInt8 → Option Command
  | [byte] => Command.ofByte? byte
  | _ => none

variable {F : Type} [FloatBits F]

def motionSize : Nat := 8

/-- A motion write of the right size commands setpoints. -/
def motionWritten (data : List UInt8) : Option (Setpoints F) :=
  if data.length = motionSize then
    (getFloat data 0).bind fun velocity => (getFloat data 4).map fun yawRate => ⟨velocity, yawRate⟩
  else none

inductive Operation where
  | describeStrategy
  | selectStrategy
  | describeParameter
  | writeParameter

def Operation.ofByte? (byte : UInt8) : Option Operation :=
  if byte = 1 then some .describeStrategy
  else if byte = 2 then some .selectStrategy
  else if byte = 3 then some .describeParameter
  else if byte = 4 then some .writeParameter
  else none

/-- A tuning request changes balance control by one of these calls. -/
inductive Tuning (F : Type) where
  | select (index : Nat)
  | setParameter (index : Nat) (value : F)

/-- A tuning write is read while no response is in flight; every other request only describes. -/
def tuningWritten (inFlight : Bool) (strategyCount parameterCount : Nat) (data : List UInt8) :
    Option (Tuning F) :=
  if inFlight then none
  else
    match data with
    | operation :: index :: rest =>
        match Operation.ofByte? operation with
        | some .selectStrategy =>
            if rest.isEmpty ∧ index.toNat < strategyCount then some (.select index.toNat) else none
        | some .writeParameter =>
            if rest.length = 4 ∧ index.toNat < parameterCount then
              (getFloat data 2).map (.setParameter index.toNat)
            else none
        | _ => none
    | _ => none

end RobotControlService
end InvertedPendulum.Link
