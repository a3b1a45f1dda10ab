/-!
# SbomGate.Text.Word

**Unsigned 64-bit numbers** as people write them: decimal digits, with a plus
sign in front if they like. Leading zeros do not matter.
-/

namespace SbomGate.Text

/-- Why a text is no such number. -/
inductive WordFlaw
  /-- There is nothing. -/
  | empty
  /-- A character is no digit. -/
  | digit
  /-- The number does not fit. -/
  | tooLarge
  deriving DecidableEq, Repr

/-- The message of a flaw. -/
def WordFlaw.message : WordFlaw → String
  | empty => "cannot parse integer from empty string"
  | digit => "invalid digit found in string"
  | tooLarge => "number too large to fit in target type"

/-- The number `n` with further digits behind it. The first flaw counts. -/
def readDigits (n : Nat) : List Char → Except WordFlaw Nat
  | [] => .ok n
  | c :: cs =>
    if c.isDigit then
      let m := n * 10 + (c.toNat - '0'.toNat)
      if m < UInt64.size then readDigits m cs else .error .tooLarge
    else .error .digit

/-- The number that a text spells. -/
def readWord (s : String) : Except WordFlaw UInt64 :=
  let digits (cs : List Char) : Except WordFlaw UInt64 := (readDigits 0 cs).map UInt64.ofNat
  match s.toList with
  | [] => .error .empty
  | ['+'] => .error .digit
  | '+' :: cs => digits cs
  | cs => digits cs

end SbomGate.Text
