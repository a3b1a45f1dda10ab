import SbomGate.Binary64.Rounding
/-!
# SbomGate.Binary64.Shortest

The **shortest decimal** that reads back as a given double.

For one digit, two digits, … seventeen digits the two decimals of that many
digits around the value are tried; the first count at which one of them reads
back wins, and of two that do the nearer one. A decimal that is not nearest
to the value among those of its length is never the answer, and a shorter one
that reads back has a neighbour of the value that does too, so the search
finds the shortest form.
-/

namespace SbomGate.Binary64

/-- The largest `k` with `10 ^ k ≤ numerator / denominator`, for a positive
fraction, searched downwards from `start`. -/
def decimalTop (numerator denominator : Nat) (start : Int) : Nat → Int
  | 0 => start
  | fuel + 1 =>
    let reached : Bool :=
      if 0 ≤ start then denominator * Nat.pow 10 start.toNat ≤ numerator
      else denominator ≤ numerator * Nat.pow 10 (-start).toNat
    if reached then start else decimalTop numerator denominator (start - 1) fuel

/-- The integer part of `numerator / denominator · 10 ^ (-k)`, and whether
what is left is below, at or above one half. -/
def scaled (numerator denominator : Nat) (k : Int) : Nat × Ordering :=
  let n := if 0 ≤ k then numerator else numerator * Nat.pow 10 (-k).toNat
  let d := if 0 ≤ k then denominator * Nat.pow 10 k.toNat else denominator
  (n / d, compare (2 * (n % d)) d)

/-- The decimal on the grid of `10 ^ k` that reads back as `x`, the nearer of
the two around the value; a tie goes to the even one. -/
def onGrid? (x : Binary64) (k : Int) : Option Decimal :=
  let q := x.fraction
  let (low, side) := scaled q.1 q.2 k
  let below : Decimal := ⟨low, k⟩
  let above : Decimal := ⟨low + 1, k⟩
  let preferAbove : Bool :=
    match side with
    | .lt => false
    | .gt => true
    | .eq => low % 2 = 1
  let first := if preferAbove then above else below
  let second := if preferAbove then below else above
  if ofDecimal? x.negative first = some x then some first
  else if ofDecimal? x.negative second = some x then some second
  else none

/-- All decimal digits of a double; it always reads back. -/
def exactDecimal (x : Binary64) : Decimal :=
  if 0 ≤ x.exponent then ⟨x.mantissa * Nat.pow 2 x.exponent.toNat, 0⟩
  else ⟨x.mantissa * Nat.pow 5 (-x.exponent).toNat, x.exponent⟩

/-- The first grid, from `k` downwards, that holds a decimal reading back. -/
def searchGrid (x : Binary64) (k : Int) : Nat → Decimal
  | 0 => exactDecimal x
  | fuel + 1 =>
    match onGrid? x k with
    | some d => d
    | none => searchGrid x (k - 1) fuel

/-- The shortest decimal that reads back as `x`. -/
def shortest (x : Binary64) : Decimal :=
  if x.mantissa = 0 then ⟨0, 0⟩
  else
    let q := x.fraction
    let guess : Int := (Decimal.width q.1 : Int) - (Decimal.width q.2 : Int)
    searchGrid x (decimalTop q.1 q.2 guess 2) 17

end SbomGate.Binary64
