import InvertedPendulum.Cli.NumberParser
import InvertedPendulum.Estimation.AttitudeEstimation
import InvertedPendulum.Link.WireFormat
import InvertedPendulum.Odometry.WheelOdometry
import Mathlib.Data.Rat.Sqrt

namespace InvertedPendulum.Application.Bench
open Estimation Odometry Link Cli

/-- The `float` that stands for pi. -/
def pi : ℚ := 13176795 / 4194304

/-- An upright robot has no angle; the tangent stands for any other one. -/
def angle (rise run : ℚ) : ℚ := if rise = 0 ∧ 0 ≤ run then 0 else rise / run

scoped instance : FloatPi ℚ := ⟨pi⟩

scoped instance : FloatPi Extended := ⟨.finite pi⟩

/-- The root of a square is exact. -/
scoped instance : FloatGeometry ℚ := ⟨angle, Rat.sqrt⟩

scoped instance : FloatGeometry Extended where
  atan2
    | .finite rise, .finite run => .finite (angle rise run)
    | _, _ => .notANumber
  sqrt
    | .finite square => if 0 ≤ square then .finite (Rat.sqrt square) else .notANumber
    | .plusInfinity => .plusInfinity
    | _ => .notANumber

/-- The bits of a number are those of its `float`. -/
scoped instance : FloatBits ℚ where
  ofBits bits :=
    match (FloatBits.ofBits bits : Extended) with
    | .finite value => value
    | _ => 0

scoped instance : FloatImage ℚ where
  toBits value := FloatImage.toBits (Extended.finite value)

/-- The digits that a text begins with are read as a natural number. -/
def readDigits (text : List Char) : Nat × Nat × List Char :=
  let digits := text.takeWhile Char.isDigit
  (digits.foldl (fun value digit => 10 * value + (digit.toNat - '0'.toNat)) 0, digits.length,
    text.drop digits.length)

/-- A decimal has a sign, digits, and perhaps a point with more digits. -/
def readDecimal (text : List Char) : Option (ℚ × List Char) :=
  let (sign, unsigned) : ℚ × List Char :=
    match text with
    | '-' :: rest => (-1, rest)
    | _ => (1, text)
  match readDigits unsigned with
  | (_, 0, _) => none
  | (whole, _, '.' :: rest) =>
      let (fraction, places, rest) := readDigits rest
      some (sign * (whole + fraction / 10 ^ places), rest)
  | (whole, _, rest) => some (sign * whole, rest)

/-- The tokens stand between separators, and numbers are read in decimal. -/
@[reducible] def decimalInput {F : Type} [FloatArithmetic F] : TextInput F where
  tokens text separator := (text.toList.splitOn separator).map String.ofList
  readFloat text := (readDecimal text.toList).map fun read => ((read.1 : F), String.ofList read.2)
  readUInt32 text :=
    match readDigits text.toList with
    | (_, 0, _) => none
    | (value, _, rest) =>
        if value < 2 ^ 32 then some (UInt32.ofNat value, String.ofList rest) else none

scoped instance : TextInput ℚ := decimalInput

scoped instance : TextInput Extended := decimalInput

example : readDecimal "-0.25".toList = some (-1 / 4, []) := by decide +kernel

/-- This filter follows the accelerometer. -/
structure AccelerometerFilter (F : Type) where
  pitch : F

scoped instance {F : Type} : PitchFilter (AccelerometerFilter F) F where
  restart _ pitch := ⟨pitch⟩
  update _ _ accelerometerPitch _ _ := (accelerometerPitch, ⟨accelerometerPitch⟩)

end InvertedPendulum.Application.Bench
