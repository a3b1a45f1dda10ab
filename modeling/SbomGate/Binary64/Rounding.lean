import SbomGate.Binary64.Basic
/-!
# SbomGate.Binary64.Rounding

The **nearest double** to an exact fraction, ties going to the even mantissa,
and its use on decimal numbers.

Decimal digits are taken at face value however many there are: nothing is
dropped before the one rounding step, so reading is correct for every text.
-/

namespace SbomGate

/-- A decimal number `digits · 10 ^ exponent`. -/
structure Decimal where
  /-- The digits, read as one integer. -/
  digits : Nat
  /-- The power of ten of the last digit. -/
  exponent : Int
  deriving DecidableEq

/-- The number of decimal digits of `n`; zero has none. -/
def Decimal.width (n : Nat) : Nat := if n = 0 then 0 else (Nat.toDigits 10 n).length

namespace Binary64

/-- The integer nearest to `n / d`; a half goes to the even neighbour. -/
def roundDiv (n d : Nat) : Nat :=
  let q := n / d
  let r := n % d
  if 2 * r < d then q else if d < 2 * r then q + 1 else q + q % 2

/-- `numerator / denominator` in units of `2 ^ exponent`, rounded. -/
def unitsOf (numerator denominator : Nat) (exponent : Int) : Nat :=
  if 0 ≤ exponent then roundDiv numerator (denominator * Nat.pow 2 exponent.toNat)
  else roundDiv (numerator * Nat.pow 2 (-exponent).toNat) denominator

/-- Whether `numerator / denominator` is at least `2 ^ k`. -/
def atLeastPow (numerator denominator : Nat) (k : Int) : Bool :=
  if 0 ≤ k then denominator * Nat.pow 2 k.toNat ≤ numerator
  else denominator ≤ numerator * Nat.pow 2 (-k).toNat

/-- The exponent of the last place of the doubles around a positive
fraction. -/
def lastPlace (numerator denominator : Nat) : Int :=
  let k : Int := (numerator.log2 : Int) - (denominator.log2 : Int)
  let top := if atLeastPow numerator denominator k then k else k - 1
  max (top - 52) (-1074)

/-- The double nearest to `± numerator / denominator`; `none` when it would
be beyond the largest finite one. -/
def nearest? (negative : Bool) (numerator denominator : Nat) : Option Binary64 :=
  if numerator = 0 then some (zero negative)
  else
    let e := lastPlace numerator denominator
    let m := unitsOf numerator denominator e
    if m = mantissaBound then ofParts? negative leastFull (e + 1) else ofParts? negative m e

/-- The double nearest to a decimal number. Magnitudes that are far outside
the range of doubles are settled without writing the power of ten out. -/
def ofDecimal? (negative : Bool) (d : Decimal) : Option Binary64 :=
  let top : Int := (Decimal.width d.digits : Int) + d.exponent
  if d.digits = 0 then some (zero negative)
  else if 400 < top then none
  else if top < -400 then some (zero negative)
  else if 0 ≤ d.exponent then nearest? negative (d.digits * Nat.pow 10 d.exponent.toNat) 1
  else nearest? negative d.digits (Nat.pow 10 (-d.exponent).toNat)

end Binary64

end SbomGate
