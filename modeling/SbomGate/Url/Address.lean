import SbomGate.Text.Numeral
import SbomGate.Url.Basic
/-!
# SbomGate.Url.Address

**Numeric hosts**: IPv4 addresses in decimal, octal and hexadecimal parts, and
IPv6 addresses with one run of zero groups left out.
-/

namespace SbomGate.Url

open Text (splitAtChar number?)

/-! ### IPv4 -/

/-- The number that a part of an IPv4 address spells: hexadecimal behind
`0x`, octal behind `0`, else decimal. -/
def ipv4Number? : List Char → Option Nat
  | [] => none
  | '0' :: 'x' :: ds => number? 16 ds
  | '0' :: 'X' :: ds => number? 16 ds
  | '0' :: d :: ds => number? 8 (d :: ds)
  | ds => number? 10 ds

/-- The parts of a host between its dots, without the empty one behind a
final dot. -/
def dottedParts (host : List Char) : List (List Char) :=
  let parts := splitAtChar '.' host
  if parts.getLast? = some [] then parts.dropLast else parts

/-- Whether the last part of a host is a number, so that the host has to be
an IPv4 address. -/
def endsInNumber (host : List Char) : Bool :=
  match (dottedParts host).getLast? with
  | none => false
  | some last =>
    (!last.isEmpty && last.all Char.isDigit) || (ipv4Number? last).isSome

/-- The IPv4 address that a host spells. The last part fills all bytes that
the others leave. -/
def ipv4? (host : List Char) : Option Nat := do
  let parts := dottedParts host
  if 4 < parts.length then none
  let numbers ← parts.mapM ipv4Number?
  let last ← numbers.getLast?
  let front := numbers.dropLast
  if Nat.pow 256 (4 - front.length) ≤ last then none
  if front.any (255 < ·) then none
  let high := front.foldl (fun acc n => acc * 256 + n) 0
  some (high * Nat.pow 256 (4 - front.length) + last)

/-! ### IPv6 -/

/-- One group: up to four hexadecimal digits. -/
def group? (cs : List Char) : Option Nat :=
  if cs.isEmpty ∨ 4 < cs.length then none else number? 16 cs

/-- One byte of a dotted tail: decimal, without leading zeros. -/
def byte? (cs : List Char) : Option Nat :=
  match cs with
  | [] => none
  | '0' :: _ :: _ => none
  | ds => if 3 < ds.length then none else (number? 10 ds).filter (· < 256)

/-- The two groups that a dotted tail stands for. -/
def dottedTail? (cs : List Char) : Option (List Nat) :=
  match (splitAtChar '.' cs).mapM byte? with
  | some [a, b, c, d] => some [a * 256 + b, c * 256 + d]
  | _ => none

/-- Groups separated by colons, none for an empty text; the last one may be a
dotted tail if `tail` allows it. -/
def groups? (tail : Bool) (cs : List Char) : Option (List Nat) :=
  if cs.isEmpty then some []
  else do
    let parts := splitAtChar ':' cs
    let last ← parts.getLast?
    let front ← parts.dropLast.mapM group?
    if tail ∧ '.' ∈ last then (dottedTail? last).map (front ++ ·)
    else (group? last).map fun g => front ++ [g]

/-- Splits at the first pair of colons. -/
def splitAtGap (before : List Char) : List Char → Option (List Char × List Char)
  | ':' :: ':' :: rest => some (before.reverse, rest)
  | c :: rest => splitAtGap (c :: before) rest
  | [] => none

/-- The pieces of the IPv6 address that a text spells. A pair of colons
stands for at least one group of zeros. -/
def ipv6? (cs : List Char) : Option (List Nat) :=
  match splitAtGap [] cs with
  | none => (groups? true cs).filter (·.length = 8)
  | some (left, right) => do
    let a ← groups? false left
    let b ← groups? true right
    if 7 < a.length + b.length then none
    else some (a ++ List.replicate (8 - a.length - b.length) 0 ++ b)

end SbomGate.Url
