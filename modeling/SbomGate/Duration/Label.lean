import SbomGate.Duration.Basic
/-!
# SbomGate.Duration.Label

A span of time **as one decimal number** with a unit, as in `1.5s`. The unit is
the largest one that the span fills; a fraction is written to its last digit
that is not zero.
-/

namespace SbomGate.Duration

/-- The decimal digits of a number, with zeros in front up to a width. -/
def padded (width value : Nat) : List Char :=
  let ds := Nat.toDigits 10 value
  List.replicate (width - ds.length) '0' ++ ds

/-- The digits behind the point, and the point; nothing for zero. -/
def fractionDigits (width value : Nat) : List Char :=
  match ((padded width value).reverse.dropWhile (· = '0')).reverse with
  | [] => []
  | ds => if value = 0 then [] else '.' :: ds

/-- A whole part, a fraction of `10 ^ width` and a unit. -/
def labelOf (whole width fraction : Nat) (unit : String) : String :=
  toString whole ++ String.ofList (fractionDigits width fraction) ++ unit

/-- The span as one number with a unit. -/
def label (d : Duration) : String :=
  if 0 < d.seconds then labelOf d.seconds 9 d.nanos "s"
  else if 1000000 ≤ d.nanos then labelOf (d.nanos / 1000000) 6 (d.nanos % 1000000) "ms"
  else if 1000 ≤ d.nanos then labelOf (d.nanos / 1000) 3 (d.nanos % 1000) "µs"
  else labelOf d.nanos 0 0 "ns"

end SbomGate.Duration
