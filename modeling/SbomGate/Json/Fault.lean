import SbomGate.Json.Printer
import SbomGate.Text.Quoted
import SbomGate.Text.Utf8
/-!
# SbomGate.Json.Fault

What can be **wrong with a JSON text**, as causes, and where.

A `Defect` is a breach of the grammar or of a limit; a `Mismatch` says that a
well-formed value is not what its place calls for. A `Fault` places either at
a byte offset, and a `ReadError` gives that place as a line and a column. The
wording of every message is in this module and nowhere else.
-/

namespace SbomGate.Json

/-- A breach of the grammar of JSON, or of a limit on what is read. -/
inductive Defect
  /-- The text ends inside an array. -/
  | listEnds
  /-- The text ends inside an object. -/
  | objectEnds
  /-- The text ends inside a string. -/
  | stringEnds
  /-- The text ends where a value is due, or inside one. -/
  | valueEnds
  /-- Something other than a colon follows a member name. -/
  | colonDue
  /-- An item is followed by neither a comma nor the closing bracket. -/
  | itemEndDue
  /-- A member is followed by neither a comma nor the closing brace. -/
  | memberEndDue
  /-- A word is not `null`, `true` or `false`. -/
  | unknownWord
  /-- No value starts where one is due. -/
  | valueDue
  /-- An escape in a string is not one of the grammar. -/
  | badEscape
  /-- A number breaks off or has a leading zero. -/
  | badNumber
  /-- A number is beyond the largest double. -/
  | numberTooLarge
  /-- A string is not well-formed UTF-8. -/
  | illFormedText
  /-- A string holds a raw control character. -/
  | rawControl
  /-- A member name is not a string. -/
  | nameDue
  /-- An escaped surrogate stands without its partner. -/
  | loneSurrogate
  /-- A comma is followed by the closing bracket or brace. -/
  | trailingComma
  /-- Something follows the value, or more items follow than there are fields. -/
  | trailingText
  /-- The second half of an escaped pair is missing. -/
  | halfPair
  /-- Arrays and objects nest too deep. -/
  | tooDeep
  deriving DecidableEq, Repr

/-- The message of a defect, without its place. -/
def Defect.message : Defect → String
  | listEnds => "EOF while parsing a list"
  | objectEnds => "EOF while parsing an object"
  | stringEnds => "EOF while parsing a string"
  | valueEnds => "EOF while parsing a value"
  | colonDue => "expected `:`"
  | itemEndDue => "expected `,` or `]`"
  | memberEndDue => "expected `,` or `\x7d`"
  | unknownWord => "expected ident"
  | valueDue => "expected value"
  | badEscape => "invalid escape"
  | badNumber => "invalid number"
  | numberTooLarge => "number out of range"
  | illFormedText => "invalid unicode code point"
  | rawControl => "control character (\\u0000-\\u001F) found while parsing a string"
  | nameDue => "key must be a string"
  | loneSurrogate => "lone leading surrogate in hex escape"
  | trailingComma => "trailing comma"
  | trailingText => "trailing characters"
  | halfPair => "unexpected end of hex escape"
  | tooDeep => "recursion limit exceeded"

/-- What was found in place of the expected value. -/
inductive Found
  /-- `null` -/
  | null
  /-- A truth value. -/
  | bool (b : Bool)
  /-- A number. -/
  | number (n : Number)
  /-- A string. -/
  | string (s : String)
  /-- An array, whatever it holds. -/
  | array
  /-- An object, whatever it holds. -/
  | object
  deriving DecidableEq

/-- The wording of what was found. -/
def Found.message : Found → String
  | null => "null"
  | bool true => "boolean `true`"
  | bool false => "boolean `false`"
  | number (.whole i) => "integer `" ++ (Number.whole i).text ++ "`"
  | number (.real x) => "floating point `" ++ (Number.real x).text ++ "`"
  | string s => "string " ++ Text.quoted s
  | array => "sequence"
  | object => "map"

/-- What a value is when it is found where something else was due. -/
def Value.found : Value → Found
  | .null => .null
  | .bool b => .bool b
  | .number n => .number n
  | .string s => .string s
  | .array _ => .array
  | .object _ => .object

/-- A well-formed value that is not what its place calls for. -/
inductive Mismatch
  /-- A value of another type. -/
  | wrongType (found : Found) (expected : String)
  /-- A value of the right type that is out of the allowed range. -/
  | wrongValue (found : Found) (expected : String)
  /-- A list of the wrong length. -/
  | wrongLength (length : Nat) (expected : String)
  /-- A required member is absent. -/
  | missingField (name : String)
  /-- A member occurs twice. -/
  | duplicateField (name : String)
  /-- A member that is not among the known ones. -/
  | unknownField (name : String) (known : List String)
  /-- A word that is not among the known ones. -/
  | unknownVariant (name : String) (known : List String)
  /-- None of several shapes fits. -/
  | noVariant (name : String)
  deriving DecidableEq

/-- A list of alternatives in words. -/
def alternatives (names : List String) : String :=
  match names.map fun n => "`" ++ n ++ "`" with
  | [] => ""
  | [a] => a
  | [a, b] => a ++ " or " ++ b
  | many => "one of " ++ ", ".intercalate many

/-- The message of a mismatch, without its place. -/
def Mismatch.message : Mismatch → String
  | wrongType found expected => "invalid type: " ++ found.message ++ ", expected " ++ expected
  | wrongValue found expected => "invalid value: " ++ found.message ++ ", expected " ++ expected
  | wrongLength n expected => "invalid length " ++ toString n ++ ", expected " ++ expected
  | missingField name => "missing field `" ++ name ++ "`"
  | duplicateField name => "duplicate field `" ++ name ++ "`"
  | unknownField name known =>
    "unknown field `" ++ name ++ "`, expected " ++ alternatives known
  | unknownVariant name known =>
    "unknown variant `" ++ name ++ "`, expected " ++ alternatives known
  | noVariant name => "data did not match any variant of untagged enum " ++ name

/-- The cause of a failed reading. -/
inductive Cause
  /-- The text is not JSON. -/
  | defect (d : Defect)
  /-- The value is not what is read. -/
  | mismatch (m : Mismatch)
  deriving DecidableEq

/-- The message of a cause. -/
def Cause.message : Cause → String
  | defect d => d.message
  | mismatch m => m.message

/-- A cause at a byte offset; the offset counts the bytes up to and including
the one that is blamed. -/
structure Fault where
  /-- What is wrong. -/
  cause : Cause
  /-- Where. -/
  offset : Nat
  deriving DecidableEq

/-- A defect at an offset of the text. -/
def Defect.at (d : Defect) (offset : Nat) : Fault := ⟨.defect d, offset⟩

/-- A mismatch at an offset of the text. -/
def Mismatch.at (m : Mismatch) (offset : Nat) : Fault := ⟨.mismatch m, offset⟩

/-- A cause at a line and column, both counted from the start of the text;
lines start at one, columns count bytes. -/
structure ReadError where
  /-- What is wrong. -/
  cause : Cause
  /-- The line, from one. -/
  line : Nat
  /-- The number of bytes on that line up to the blamed one. -/
  column : Nat
  deriving DecidableEq

/-- The line and column reached after some bytes. -/
def placeAfter (bytes : Bytes) : Nat × Nat :=
  bytes.foldl (fun p b => if b = 0x0A then (p.1 + 1, 0) else (p.1, p.2 + 1)) (1, 0)

/-- The fault as a place in the text it was found in. -/
def Fault.locate (f : Fault) (text : Bytes) : ReadError :=
  let p := placeAfter (text.take f.offset)
  ⟨f.cause, p.1, p.2⟩

/-- The wording of a reading error, with its place. -/
def ReadError.message (e : ReadError) : String :=
  e.cause.message ++ " at line " ++ toString e.line ++ " column " ++ toString e.column

end SbomGate.Json
