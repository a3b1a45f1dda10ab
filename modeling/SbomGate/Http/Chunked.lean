import SbomGate.Text.Utf8
/-!
# SbomGate.Http.Chunked

The **chunked coding** of bodies: chunks with their sizes in front, a chunk of
size zero, trailing fields, and an empty line.

A machine reads one byte at a time. It accepts what recipients accept: blanks
and extensions behind a size, and trailing fields of any form, which are
dropped.
-/

namespace SbomGate.Http

/-- The carriage return. -/
def cr : UInt8 := 0x0D

/-- The line feed. -/
def lf : UInt8 := 0x0A

/-- Whether a byte is a space or a tab. -/
def isBlankByte (b : UInt8) : Bool := b = 0x20 || b = 0x09

/-- The value of a hexadecimal digit. -/
def hexValue? (b : UInt8) : Option Nat :=
  if 0x30 ≤ b && b ≤ 0x39 then some (b.toNat - 0x30)
  else if 0x41 ≤ b && b ≤ 0x46 then some (b.toNat - 0x37)
  else if 0x61 ≤ b && b ≤ 0x66 then some (b.toNat - 0x57)
  else none

/-- What is expected next in a chunked body. -/
inductive ChunkState
  /-- The first digit of a size. -/
  | sizeDue
  /-- More digits of a size, or its end. -/
  | size (n : Nat)
  /-- Blanks behind a size. -/
  | blanks (n : Nat)
  /-- The text of an extension. -/
  | extension (n : Nat)
  /-- The end of the line with a size. -/
  | sizeEnd (n : Nat)
  /-- The rest of a chunk, which is one byte more than `n`. -/
  | data (n : Nat)
  /-- The carriage return behind a chunk. -/
  | dataReturn
  /-- The line feed behind a chunk. -/
  | dataEnd
  /-- The start of a line behind all chunks. -/
  | lineStart
  /-- The text of a trailing field. -/
  | trailer
  /-- The end of a line with a trailing field. -/
  | trailerEnd
  /-- The end of the empty line. -/
  | lastEnd
  deriving DecidableEq

/-- The state behind a size that one digit more is added to; sizes fit 64
bits. -/
def addDigit? (n digit : Nat) : Option ChunkState :=
  if n * 16 + digit < UInt64.size then some (.size (n * 16 + digit)) else none

/-- The state behind a byte that does not belong to a size any more. -/
def afterSize? (n : Nat) (b : UInt8) : Option ChunkState :=
  if isBlankByte b then some (.blanks n)
  else if b = 0x3B then some (.extension n)
  else if b = cr then some (.sizeEnd n)
  else none

/-- The state behind the line with a size. -/
def afterSizeLine : Nat → ChunkState
  | 0 => .lineStart
  | n + 1 => .data n

/-- The state behind one byte, for all states but the last. -/
def ChunkState.next? (s : ChunkState) (b : UInt8) : Option ChunkState :=
  match s with
  | sizeDue => (hexValue? b).bind fun d => addDigit? 0 d
  | size n =>
    match hexValue? b with
    | some d => addDigit? n d
    | none => afterSize? n b
  | blanks n => afterSize? n b
  | extension n =>
    if b = cr then some (.sizeEnd n) else if b = lf then none else some (.extension n)
  | sizeEnd n => if b = lf then some (afterSizeLine n) else none
  | data 0 => some .dataReturn
  | data (n + 1) => some (.data n)
  | dataReturn => if b = cr then some .dataEnd else none
  | dataEnd => if b = lf then some .sizeDue else none
  | lineStart => if b = cr then some .lastEnd else some .trailer
  | trailer => if b = cr then some .trailerEnd else some .trailer
  | trailerEnd => if b = lf then some .lineStart else none
  | lastEnd => none

/-- Whether a byte that is read in a state belongs to the body. -/
def ChunkState.isData : ChunkState → Bool
  | data _ => true
  | _ => false

/-- The body whose bytes so far are `taken`, in reverse. -/
def unchunkFrom (s : ChunkState) (taken : Bytes) : Bytes → Option Bytes
  | [] => none
  | b :: bs =>
    if s = .lastEnd then
      if b = lf then some taken.reverse else none
    else
      match s.next? b with
      | some t => unchunkFrom t (if s.isData then b :: taken else taken) bs
      | none => none

/-- The body in a chunked text, or `none` if it breaks off or breaks the
rules. -/
def unchunk (bytes : Bytes) : Option Bytes := unchunkFrom .sizeDue [] bytes

end SbomGate.Http
