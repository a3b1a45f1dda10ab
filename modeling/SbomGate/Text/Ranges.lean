import SbomGate.Text.Numeral
/-!
# SbomGate.Text.Ranges

**Sets of characters** as ranges of code points, read from the hexadecimal
notation in which tables are written: `903` is one code point, `93E-94F` all
from the first to the second.
-/

namespace SbomGate.Text

/-- A set of code points: all that lie in one of the ranges, ends included. -/
abbrev Ranges := List (Nat × Nat)

namespace Ranges

/-- Whether a character belongs to the set. -/
def contains (r : Ranges) (c : Char) : Bool := r.any fun (a, b) => a ≤ c.toNat && c.toNat ≤ b

/-- The range that a word spells. -/
def ofWord? (word : List Char) : Option (Nat × Nat) :=
  match splitAtChar '-' word with
  | [a] => (number? 16 a).map fun n => (n, n)
  | [a, b] => do return (← number? 16 a, ← number? 16 b)
  | _ => none

/-- The set that lines of a table spell, with blanks between the words. -/
def ofLines (lines : List String) : Ranges :=
  lines.flatMap fun line => (splitAtChar ' ' line.toList).filterMap ofWord?

example : ofLines ["903 93E-94F", "E01EF"] =
    [(0x903, 0x903), (0x93E, 0x94F), (0xE01EF, 0xE01EF)] := by
  decide +kernel

end Ranges

end SbomGate.Text
