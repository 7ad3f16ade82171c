import InvertedPendulum.Platform

namespace InvertedPendulum.Cli

/-- `infra::Tokenizer` and `infra::StringInputStream`; the stream fails softly, or reads a number and
leaves the rest of the text. -/
class TextInput (F : Type) where
  tokens : String → Char → List String
  readFloat : String → Option (F × String)
  readUInt32 : String → Option (UInt32 × String)

def maximumLength : Nat := 11

def maximumIndexLength : Nat := 3

variable (F : Type) [TextInput F]

/-- A number is read where the stream neither fails nor leaves any text. -/
def consumed {N : Type} : Option (N × String) → Option N
  | some (value, rest) => if rest.isEmpty then some value else none
  | none => none

def parseDecimal (text : String) : Option F :=
  if text.utf8ByteSize > maximumLength ∨ ! text.contains '.' then none
  else consumed (TextInput.readFloat text)

def parseIndex (text : String) : Option UInt32 :=
  if text.isEmpty ∨ text.utf8ByteSize > maximumIndexLength then none
  else consumed (TextInput.readUInt32 F text)

end InvertedPendulum.Cli
