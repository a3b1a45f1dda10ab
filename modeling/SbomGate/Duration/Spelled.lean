import SbomGate.Duration.Basic
import SbomGate.Text.Blank
/-!
# SbomGate.Duration.Spelled

Spans of time **spelled as a sum** of numbers with units, as in `1h 30m`.

Design points:

* `spell` writes the largest units first and leaves out those with number
  zero; a span of no time is `0s`. Months and years have fixed lengths of
  2630016 and 31557600 seconds.
* `ofSpelling?` reads more than is written: any order, repeated units, long
  names of units, fractions and blanks between digits. It is one step per
  character. Every number fits into 64 bits and every fraction of a unit has to
  come out even: in nanoseconds up to the minute, in seconds above it.
-/

namespace SbomGate.Duration

/-! ### Units -/

/-- A unit of time. -/
structure TimeUnit where
  /-- Its names, the one that is written first. -/
  names : List String
  /-- Its length in seconds, zero for the parts of a second. -/
  seconds : Nat
  /-- Its length in nanoseconds. -/
  nanos : Nat
  /-- Whether fractions are counted in nanoseconds. -/
  fine : Bool

/-- A unit of some nanoseconds, shorter than a second. -/
def fineUnit (names : List String) (nanos : Nat) : TimeUnit := ⟨names, 0, nanos, true⟩

/-- A unit of some whole seconds. -/
def coarseUnit (names : List String) (seconds : Nat) (fine : Bool) : TimeUnit :=
  ⟨names, seconds, seconds * nanosPerSecond, fine⟩

/-- All units, the shortest first. A month has 30.44 days and a year has 365.25. -/
def units : List TimeUnit :=
  [fineUnit ["ns", "nsec", "nanos"] 1,
   fineUnit ["us", "usec", "µs"] 1000,
   fineUnit ["ms", "msec", "millis"] 1000000,
   coarseUnit ["s", "sec", "secs", "second", "seconds"] 1 true,
   coarseUnit ["m", "min", "mins", "minute", "minutes"] 60 true,
   coarseUnit ["h", "hr", "hrs", "hour", "hours"] 3600 false,
   coarseUnit ["d", "day", "days"] 86400 false,
   coarseUnit ["w", "wk", "wks", "week", "weeks"] 604800 false,
   coarseUnit ["M", "month", "months"] 2630016 false,
   coarseUnit ["y", "yr", "yrs", "year", "years"] 31557600 false]

/-- The unit of a name; no name is that of two units. -/
def unitOf? (name : String) : Option TimeUnit := units.find? fun u => name ∈ u.names

/-! ### Writing -/

/-- A number with its unit, or nothing for zero. -/
def term (n : Nat) (unit : String) : List String := if n = 0 then [] else [toString n ++ unit]

/-- A number with a unit whose name takes an `s` for more than one. -/
def countedTerm (n : Nat) (unit : String) : List String :=
  if n = 0 then [] else [toString n ++ (if n = 1 then unit else unit ++ "s")]

/-- The numbers with their units, the largest first. -/
def terms (d : Duration) : List String :=
  let inYear := d.seconds % 31557600
  let inMonth := inYear % 2630016
  let inDay := inMonth % 86400
  countedTerm (d.seconds / 31557600) "year" ++ countedTerm (inYear / 2630016) "month" ++
    countedTerm (inMonth / 86400) "day" ++ term (inDay / 3600) "h" ++
    term (inDay / 60 % 60) "m" ++ term (inDay % 60) "s" ++ term (d.nanos / 1000000) "ms" ++
    term (d.nanos / 1000 % 1000) "us" ++ term (d.nanos % 1000) "ns"

/-- The span as a sum of numbers with units. -/
def spell (d : Duration) : String := if d.isZero then "0s" else " ".intercalate d.terms

/-! ### Reading -/

/-- A number that still fits into 64 bits. -/
def word? (n : Nat) : Option Nat := if n < UInt64.size then some n else none

/-- A fraction `numerator / denominator` as its digits give it. -/
structure Fraction where
  /-- The digits read as a number. -/
  numerator : Nat
  /-- The power of ten of their count. -/
  denominator : Nat

/-- What has been read of the term at hand. -/
inductive Phase
  /-- Nothing: a number is due. -/
  | idle
  /-- The digits of a number. -/
  | number (n : Nat)
  /-- A number and the digits behind its point. -/
  | fraction (n : Nat) (f : Fraction)
  /-- A number, perhaps with a fraction, and the letters of the unit in
  reverse. -/
  | unit (n : Nat) (f : Option Fraction) (letters : List Char)

/-- Adds seconds and nanoseconds to a span. -/
def plus? (d : Duration) (seconds nanos : Nat) : Option Duration := do
  let nanos ← word? (d.nanos + nanos)
  ofParts? (d.seconds + seconds) nanos

/-- The whole units of a term, as seconds and nanoseconds. -/
def wholePart? (n : Nat) (u : TimeUnit) : Option (Nat × Nat) :=
  if u.seconds = 0 then (word? (n * u.nanos)).map (0, ·)
  else (word? (n * u.seconds)).map (·, 0)

/-- The fraction of a unit, as seconds and nanoseconds. -/
def fractionPart? (f : Fraction) (u : TimeUnit) : Option (Nat × Nat) := do
  let total ← word? (f.numerator * if u.fine then u.nanos else u.seconds)
  if total % f.denominator ≠ 0 then none
  let n := total / f.denominator
  return if u.fine then (0, n) else (n, 0)

/-- Adds a complete term to the sum so far. -/
def addTerm? (sum : Duration) (n : Nat) (f : Option Fraction) (name : List Char) :
    Option Duration := do
  let u ← unitOf? (String.ofList name)
  let (s, ns) ← wholePart? n u
  let sum ← sum.plus? s ns
  match f with
  | none => return sum
  | some f => do
    let (s, ns) ← fractionPart? f u
    sum.plus? s ns

/-- Whether a character can stand in the name of a unit. -/
def isUnitLetter (c : Char) : Bool := c.isAlpha || c = 'µ'

/-- The value of a decimal digit. -/
def digitOf (c : Char) : Nat := c.toNat - 0x30

/-- One character; the sum so far is none before the first term. -/
def step (state : Option Duration × Phase) (c : Char) : Option (Option Duration × Phase) :=
  let (sum, phase) := state
  match phase with
  | .idle =>
    if c.isDigit then some (sum, .number (digitOf c))
    else if Text.isBlank c then some (sum, .idle)
    else none
  | .number n =>
    if c.isDigit then (word? (n * 10 + digitOf c)).map (sum, .number ·)
    else if Text.isBlank c then some (sum, .number n)
    else if isUnitLetter c then some (sum, .unit n none [c])
    else if c = '.' then some (sum, .fraction n ⟨0, 1⟩)
    else none
  | .fraction n f =>
    if c.isDigit then do
      let denominator ← word? (f.denominator * 10)
      let numerator ← word? (f.numerator * 10 + digitOf c)
      return (sum, .fraction n ⟨numerator, denominator⟩)
    else if Text.isBlank c then some (sum, .fraction n f)
    else if isUnitLetter c ∧ f.denominator ≠ 1 then some (sum, .unit n (some f) [c])
    else none
  | .unit n f letters =>
    if isUnitLetter c then some (sum, .unit n f (c :: letters))
    else if c.isDigit ∨ Text.isBlank c then
      (addTerm? (sum.getD zero) n f letters.reverse).map fun total =>
        (some total, if c.isDigit then .number (digitOf c) else .idle)
    else none

/-- The sum at the end of the text. -/
def finish (state : Option Duration × Phase) : Option Duration :=
  match state with
  | (sum, .idle) => sum
  | (sum, .unit n f letters) => addTerm? (sum.getD zero) n f letters.reverse
  | _ => none

/-- The span that a text spells; a lone zero needs no unit. -/
def ofSpelling? (s : String) : Option Duration :=
  if s = "0" then some zero else (s.toList.foldlM step (none, .idle)).bind finish

end SbomGate.Duration
