/-!
# SbomGate.Url.Punycode

The decoding of **Punycode**, which spells characters beyond ASCII in letters,
digits and hyphens.

The characters beyond ASCII are written behind the others as one number for
each insertion, in digits of base 36 whose thresholds follow a running bias.
Decoding stops with nothing as soon as a number breaks off, runs past the last
code point or names a surrogate.
-/

namespace SbomGate.Url.Punycode

/-- The value of a digit: letters first, then decimal digits. -/
def digitValue? (c : Char) : Option Nat :=
  if 'a' ≤ c ∧ c ≤ 'z' then some (c.toNat - 0x61)
  else if 'A' ≤ c ∧ c ≤ 'Z' then some (c.toNat - 0x41)
  else if c.isDigit then some (c.toNat - 0x30 + 26)
  else none

/-- The threshold of the digit at place `k`, counted in steps of 36. -/
def threshold (k bias : Nat) : Nat :=
  if k ≤ bias then 1 else if bias + 26 ≤ k then 26 else k - bias

/-- Divides by 35 until at most 455 is left, counting the divisions. -/
def reduce (delta : Nat) : Nat × Nat :=
  if 455 < delta then
    let r := reduce (delta / 35)
    (r.1, r.2 + 1)
  else (delta, 0)
termination_by delta
decreasing_by omega

/-- The bias after a number `delta` has been read or written, with `count`
characters in place. -/
def adapt (delta count : Nat) (first : Bool) : Nat :=
  let d := if first then delta / 700 else delta / 2
  let r := reduce (d + d / count)
  r.2 * 36 + 36 * r.1 / (r.1 + 38)

/-! ### Decoding -/

/-- Reads one number from its digits, and says how many digits it took. -/
def readNumber (bias k weight value taken : Nat) : List Char → Option (Nat × Nat)
  | [] => none
  | c :: cs => do
    let d ← digitValue? c
    let value := value + d * weight
    if 0xFFFFFFFF < value then none
    let t := threshold k bias
    if d < t then some (value, taken + 1)
    else readNumber bias (k + 36) (weight * (36 - t)) value (taken + 1) cs

/-- Where decoding stands. -/
structure Reading where
  text : List Char
  /-- The code point of the next insertion is at least this one. -/
  code : Nat
  /-- The insertion place is at least this one. -/
  place : Nat
  /-- The bias of the next number. -/
  bias : Nat

/-- Carries out the insertion that a number stands for; `first` holds for
the first one. -/
def Reading.insert? (r : Reading) (first : Bool) (number : Nat) : Option Reading :=
  let count := r.text.length + 1
  let index := r.place + number
  let code := r.code + index / count
  let place := index % count
  if code.isValidChar then
    some { text := r.text.take place ++ Char.ofNat code :: r.text.drop place
           code := code
           place := place + 1
           bias := adapt number count first }
  else none

/-- Decodes the numbers one after the other; `first` holds for the first
one, `skip` counts the digits of the number just read. -/
def readAll (first : Bool) (skip : Nat) (r : Reading) : List Char → Option (List Char)
  | [] => some r.text
  | c :: cs =>
    match skip with
    | skip + 1 => readAll first skip r cs
    | 0 => do
      let (number, taken) ← readNumber r.bias 36 1 0 0 (c :: cs)
      let next ← r.insert? first number
      readAll false (taken - 1) next cs

/-- Splits at the last hyphen: the plain characters and the digits. -/
def splitPlain (cs : List Char) : List Char × List Char :=
  let digits := (cs.reverse.takeWhile (· ≠ '-')).reverse
  if digits.length = cs.length then ([], cs)
  else (cs.take (cs.length - digits.length - 1), digits)

/-- The text that a Punycode form stands for. -/
def decode? (cs : List Char) : Option (List Char) :=
  let (plain, digits) := splitPlain cs
  if plain.all (·.toNat < 0x80) then readAll true 0 ⟨plain, 128, 0, 72⟩ digits else none

end SbomGate.Url.Punycode
