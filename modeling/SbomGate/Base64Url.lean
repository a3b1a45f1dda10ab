import SbomGate.Text.Utf8
/-!
# SbomGate.Base64Url

Base64 with the **URL-safe alphabet** and without padding.

Four symbols stand for three bytes; two or three symbols at the end stand for
one or two, and the bits they have left must be zero, so every byte string has
exactly one spelling. `decode` names the first symbol it cannot take; a wrong
last symbol of a text that is one symbol too long is found before all others.
-/

namespace SbomGate.Base64Url

/-- Why a text is not the spelling of a byte string. -/
inductive Flaw
  /-- A byte that is no symbol, at an offset. -/
  | symbol (offset : Nat) (byte : UInt8)
  /-- One symbol is left over at this length. -/
  | length (n : Nat)
  /-- The last symbol, at an offset, has bits that belong to no byte. -/
  | lastSymbol (offset : Nat) (byte : UInt8)
  /-- The text is padded. -/
  | padding
  deriving DecidableEq

/-- The message of a flaw; offsets count the symbols of the text from zero. -/
def Flaw.message : Flaw → String
  | symbol offset byte =>
    "Invalid symbol " ++ toString byte.toNat ++ ", offset " ++ toString offset ++ "."
  | length n => "Invalid input length: " ++ toString n
  | lastSymbol offset byte =>
    "Invalid last symbol " ++ toString byte.toNat ++ ", offset " ++ toString offset ++ "."
  | padding => "Invalid padding"

/-- The symbol of a six-bit value. -/
def symbolOf (v : Nat) : UInt8 :=
  if v < 26 then UInt8.ofNat (0x41 + v)
  else if v < 52 then UInt8.ofNat (0x61 + v - 26)
  else if v < 62 then UInt8.ofNat (0x30 + v - 52)
  else if v = 62 then 0x2D
  else 0x5F

/-- The six-bit value of a symbol. -/
def value? (b : UInt8) : Option Nat :=
  if 0x41 ≤ b ∧ b ≤ 0x5A then some (b.toNat - 0x41)
  else if 0x61 ≤ b ∧ b ≤ 0x7A then some (b.toNat - 0x61 + 26)
  else if 0x30 ≤ b ∧ b ≤ 0x39 then some (b.toNat - 0x30 + 52)
  else if b = 0x2D then some 62
  else if b = 0x5F then some 63
  else none

/-- The sign that fills up a last group; no text that has it is decoded. -/
def pad : UInt8 := 0x3D

/-- The spelling of a byte string. -/
def encode : Bytes → Bytes
  | [] => []
  | [a] => [symbolOf (a.toNat / 4), symbolOf (a.toNat % 4 * 16)]
  | [a, b] =>
    [symbolOf (a.toNat / 4), symbolOf (a.toNat % 4 * 16 + b.toNat / 16),
      symbolOf (b.toNat % 16 * 4)]
  | a :: b :: c :: rest =>
    symbolOf (a.toNat / 4) :: symbolOf (a.toNat % 4 * 16 + b.toNat / 16) ::
      symbolOf (b.toNat % 16 * 4 + c.toNat / 64) :: symbolOf (c.toNat % 64) :: encode rest

/-- The value of the symbol at an offset. -/
def valueAt (offset : Nat) (b : UInt8) : Except Flaw Nat :=
  match value? b with
  | some v => .ok v
  | none => .error (.symbol offset b)

/-- The three bytes of four values. -/
def threeBytes (a b c d : Nat) : Bytes :=
  [UInt8.ofNat (a * 4 + b / 16), UInt8.ofNat (b % 16 * 16 + c / 4), UInt8.ofNat (c % 4 * 64 + d)]

/-- The values of the last symbols, up to four of them, and whether padding
follows. Padding may only stand behind two symbols and at the very end. -/
def lastValues (offset index : Nat) (padAt : Option Nat) (taken : List Nat) :
    Bytes → Except Flaw (List Nat × Bool)
  | [] => .ok (taken.reverse, padAt.isSome)
  | b :: rest =>
    if b = pad then
      if index < 2 then .error (.symbol (offset + index) b)
      else lastValues offset (index + 1) (padAt.or (some (offset + index))) taken rest
    else
      match padAt with
      | some o => .error (.symbol o pad)
      | none => do
        let v ← valueAt (offset + index) b
        lastValues offset (index + 1) none (v :: taken) rest

/-- The bytes of the last symbols. -/
def decodeLast (offset : Nat) (last : Bytes) : Except Flaw Bytes := do
  let (values, padded) ← lastValues offset 0 none [] last
  if !last.isEmpty ∧ values.length < 2 then throw (.length (offset + values.length))
  if padded then throw .padding
  let wrong : Flaw :=
    .lastSymbol (offset + values.length - 1) ((last[values.length - 1]?).getD 0)
  match values with
  | [a, b] => if b % 16 = 0 then return [UInt8.ofNat (a * 4 + b / 16)] else throw wrong
  | [a, b, c] =>
    if c % 4 = 0 then
      return [UInt8.ofNat (a * 4 + b / 16), UInt8.ofNat (b % 16 * 16 + c / 4)]
    else throw wrong
  | [a, b, c, d] => return threeBytes a b c d
  | _ => return []

/-- The bytes of a text, from an offset on. -/
def decodeFrom (offset : Nat) : Bytes → Except Flaw Bytes
  | a :: b :: c :: d :: e :: rest => do
    let va ← valueAt offset a
    let vb ← valueAt (offset + 1) b
    let vc ← valueAt (offset + 2) c
    let vd ← valueAt (offset + 3) d
    let more ← decodeFrom (offset + 4) (e :: rest)
    return threeBytes va vb vc vd ++ more
  | last => decodeLast offset last

/-- The byte string that a text spells. -/
def decode (text : Bytes) : Except Flaw Bytes :=
  match text.getLast? with
  | some b =>
    if text.length % 4 = 1 ∧ b ≠ pad ∧ (value? b).isNone then
      .error (.symbol (text.length - 1) b)
    else decodeFrom 0 text
  | none => .ok []

/-- The spelling of a byte string, as a text. -/
def encodeText (bytes : Bytes) : String :=
  String.ofList ((encode bytes).map fun b => Char.ofNat b.toNat)

/-- The byte string that a text spells. -/
def decodeText (text : String) : Except Flaw Bytes := decode (bytesOf text)

end SbomGate.Base64Url
