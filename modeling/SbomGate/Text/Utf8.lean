/-!
# SbomGate.Text.Utf8

**UTF-8** over lists of bytes: `first?` reads one character off the front of a
byte string, `decode` reads a whole one, `encode` writes characters as bytes.

Design points:

* A byte sequence is well formed when the number it spells out is a Unicode
  scalar value that no shorter sequence could spell. That single rule excludes
  overlong forms, surrogates and everything above `U+10FFFF` at once.
* `decode` reports the offset of the first byte at which no well-formed
  sequence starts, because readers of larger formats point at that byte.
-/

namespace SbomGate

/-- A byte string, as it arrives from outside. -/
abbrev Bytes := List UInt8

namespace Text.Utf8

/-- Continuation bytes are `0x80` to `0xBF`. -/
def isTail (b : UInt8) : Bool := 0x80 ≤ b && b ≤ 0xBF

/-- The six payload bits of a continuation byte. -/
def tailBits (b : UInt8) : Nat := b.toNat % 64

/-- The scalar value `n`, if it is one and needs the sequence length whose
smallest value is `least`. -/
def scalar? (least n : Nat) : Option Char :=
  if least ≤ n ∧ n.isValidChar then some (Char.ofNat n) else none

/-- The character that starts a byte string, with the number of bytes it
takes; `none` when no well-formed sequence starts there. -/
def first? : Bytes → Option (Char × Nat)
  | [] => none
  | a :: rest =>
    if a < 0x80 then some (Char.ofNat a.toNat, 1)
    else if 0xC0 ≤ a ∧ a < 0xE0 then
      match rest with
      | b :: _ =>
        if isTail b then
          (scalar? 0x80 (a.toNat % 32 * 64 + tailBits b)).map (·, 2)
        else none
      | _ => none
    else if 0xE0 ≤ a ∧ a < 0xF0 then
      match rest with
      | b :: c :: _ =>
        if isTail b && isTail c then
          (scalar? 0x800 ((a.toNat % 16 * 64 + tailBits b) * 64 + tailBits c)).map (·, 3)
        else none
      | _ => none
    else if 0xF0 ≤ a ∧ a < 0xF8 then
      match rest with
      | b :: c :: d :: _ =>
        if isTail b && isTail c && isTail d then
          (scalar? 0x10000
            (((a.toNat % 8 * 64 + tailBits b) * 64 + tailBits c) * 64 + tailBits d)).map (·, 4)
        else none
      | _ => none
    else none

/-- Decoding with the part already read: `taken` holds it in reverse, `skip`
counts the bytes that still belong to its last character. -/
def decodeFrom (taken : List Char) (skip offset : Nat) : Bytes → Except Nat (List Char)
  | [] => .ok taken.reverse
  | b :: rest =>
    match skip with
    | skip + 1 => decodeFrom taken skip (offset + 1) rest
    | 0 =>
      match first? (b :: rest) with
      | some (c, width) => decodeFrom (c :: taken) (width - 1) (offset + 1) rest
      | none => .error offset

/-- The characters of a byte string, or the offset of its first ill-formed
byte. -/
def decode (bytes : Bytes) : Except Nat (List Char) := decodeFrom [] 0 0 bytes

/-- The bytes of a list of characters. -/
def encode (cs : List Char) : Bytes := cs.flatMap String.utf8EncodeChar

@[simp] theorem encode_nil : encode [] = [] := rfl

@[simp] theorem encode_cons (c : Char) (cs : List Char) :
    encode (c :: cs) = String.utf8EncodeChar c ++ encode cs := rfl

theorem encode_append (a b : List Char) : encode (a ++ b) = encode a ++ encode b := by
  simp [encode]

end Text.Utf8

/-- The UTF-8 bytes of a text. -/
def bytesOf (s : String) : Bytes := Text.Utf8.encode s.toList

/-- The text that bytes spell in UTF-8, if they are well formed. -/
def textOf? (bytes : Bytes) : Option String :=
  match Text.Utf8.decode bytes with
  | .ok cs => some (String.ofList cs)
  | .error _ => none

end SbomGate
