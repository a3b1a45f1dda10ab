import SbomGate.Json.Value
import SbomGate.Binary64.Shortest
/-!
# SbomGate.Json.Printer

The **compact text** of a JSON value: no blanks, members in the order in which
the value lists them.

Strings escape the quote, the backslash and `U+0000` to `U+001F`, five of
these by a letter and the rest as `\u00xx`; every other character stands for
itself. A double is written with the fewest digits that read back,
positionally while its decimal exponent is between -5 and 15.
-/

namespace SbomGate.Json

/-- The decimal digits of a natural number. -/
def digitsOf (n : Nat) : List Char := Nat.toDigits 10 n

/-- An integer in decimal digits. -/
def Number.renderWhole (i : Int) : List Char :=
  if i < 0 then '-' :: digitsOf i.natAbs else digitsOf i.natAbs

/-- Positional notation covers the decimal exponents from -5 to 15. -/
def Number.positional (exponent : Int) : Bool := -5 ≤ exponent && exponent ≤ 15

/-- A decimal number in positional or scientific notation. A whole value
keeps `.0`, an exponent carries its sign. -/
def Number.renderDecimal (d : Decimal) : List Char :=
  if d.digits = 0 then ['0', '.', '0']
  else
    let all := digitsOf d.digits
    let ds := (all.reverse.dropWhile (· = '0')).reverse
    let e : Int := d.exponent + all.length - 1
    if Number.positional e then
      if e < 0 then
        '0' :: '.' :: (List.replicate (-e - 1).toNat '0' ++ ds)
      else
        let point := e.toNat + 1
        let front := ds.take point ++ List.replicate (point - ds.length) '0'
        let back := ds.drop point
        front ++ '.' :: (if back.isEmpty then ['0'] else back)
    else
      let back := ds.drop 1
      let mantissa := ds.take 1 ++ (if back.isEmpty then [] else '.' :: back)
      mantissa ++ 'e' :: (if e < 0 then '-' else '+') :: digitsOf e.natAbs

/-- A number as it is written; a float in the fewest digits that read back to it. -/
def Number.render : Number → List Char
  | whole i => renderWhole i
  | real x =>
    let body := renderDecimal x.shortest
    if x.negative then '-' :: body else body

/-- One hexadecimal digit in lower case. -/
def hexDigit (n : Nat) : Char := Nat.digitChar n

/-- A character inside a string literal. -/
def escapeChar (c : Char) : List Char :=
  if c = '"' then ['\\', '"']
  else if c = '\\' then ['\\', '\\']
  else if c = '\x08' then ['\\', 'b']
  else if c = '\t' then ['\\', 't']
  else if c = '\n' then ['\\', 'n']
  else if c = '\x0c' then ['\\', 'f']
  else if c = '\r' then ['\\', 'r']
  else if c.toNat < 0x20 then
    ['\\', 'u', '0', '0', hexDigit (c.toNat / 16), hexDigit (c.toNat % 16)]
  else [c]

/-- A string in quotes, with the escapes it needs and no others. -/
def renderString (s : String) : List Char :=
  '"' :: (s.toList.flatMap escapeChar ++ ['"'])

mutual

/-- The compact text of a value. -/
def Value.render : Value → List Char
  | .null => ['n', 'u', 'l', 'l']
  | .bool true => ['t', 'r', 'u', 'e']
  | .bool false => ['f', 'a', 'l', 's', 'e']
  | .number n => n.render
  | .string s => renderString s
  | .array items => '[' :: (renderItems items ++ [']'])
  | .object members => '\x7b' :: (renderMembers members ++ ['\x7d'])

/-- The items of an array, commas between them. -/
def renderItems : List Value → List Char
  | [] => []
  | v :: vs => v.render ++ renderItemsAfter vs

/-- Items after the first, each behind a comma. -/
def renderItemsAfter : List Value → List Char
  | [] => []
  | v :: vs => ',' :: (v.render ++ renderItemsAfter vs)

/-- The members of an object, commas between them. -/
def renderMembers : List (String × Value) → List Char
  | [] => []
  | (k, v) :: ms => renderString k ++ ':' :: (v.render ++ renderMembersAfter ms)

/-- Members after the first, each behind a comma. -/
def renderMembersAfter : List (String × Value) → List Char
  | [] => []
  | (k, v) :: ms => ',' :: (renderString k ++ ':' :: (v.render ++ renderMembersAfter ms))

end

/-- The compact text of a value, as a string. -/
def Value.text (v : Value) : String := String.ofList v.render

/-- The text of a number, as a string. -/
def Number.text (n : Number) : String := String.ofList n.render

end SbomGate.Json
