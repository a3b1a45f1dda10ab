/-!
# SbomGate.Binary64.Basic

Finite **double-precision numbers**, as exact data.

A number is `± mantissa · 2 ^ exponent` in the one normal form that IEEE 754
gives it, so equality of values (zeros apart, whose sign is kept) is equality
of the structure and every operation is integer arithmetic. Infinities and
NaN are not numbers here: no reader of this library produces them.
-/

namespace SbomGate

/-- The first mantissa of more than 53 bits. -/
abbrev Binary64.mantissaBound : Nat := 0x20000000000000

/-- The first mantissa of 53 bits. -/
abbrev Binary64.leastFull : Nat := 0x10000000000000

/-- The normal form of a finite double: 53 bits of mantissa with the top bit
set, or fewer bits on the smallest exponent. -/
def Binary64.Normal (mantissa : Nat) (exponent : Int) : Prop :=
  mantissa < mantissaBound ∧ -1074 ≤ exponent ∧ exponent ≤ 971 ∧
    (leastFull ≤ mantissa ∨ exponent = -1074)

instance (m : Nat) (e : Int) : Decidable (Binary64.Normal m e) := by
  unfold Binary64.Normal; infer_instance

/-- A finite double, `± mantissa · 2 ^ exponent`. -/
structure Binary64 where
  /-- The sign; it is kept on zero. -/
  negative : Bool
  mantissa : Nat
  /-- The binary exponent of the last place. -/
  exponent : Int
  /-- The representation is the normal one. -/
  normal : Binary64.Normal mantissa exponent
  deriving DecidableEq

namespace Binary64

/-- The zero of a given sign. -/
def zero (negative : Bool) : Binary64 :=
  ⟨negative, 0, -1074, by decide⟩

/-- The double with these parts, if they are in normal form. -/
def ofParts? (negative : Bool) (mantissa : Nat) (exponent : Int) : Option Binary64 :=
  if h : Normal mantissa exponent then some ⟨negative, mantissa, exponent, h⟩ else none

/-- The magnitude as a fraction `numerator / denominator`. -/
def fraction (x : Binary64) : Nat × Nat :=
  if 0 ≤ x.exponent then (x.mantissa * Nat.pow 2 x.exponent.toNat, 1)
  else (x.mantissa, Nat.pow 2 (-x.exponent).toNat)

/-- The greatest integer that is not above `x`. -/
def floor (x : Binary64) : Int :=
  let q := x.fraction
  if x.negative then -(((q.1 + q.2 - 1) / q.2 : Nat) : Int) else ((q.1 / q.2 : Nat) : Int)

end Binary64

end SbomGate
