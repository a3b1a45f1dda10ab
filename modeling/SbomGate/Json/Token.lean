import SbomGate.Json.Fault
/-!
# SbomGate.Json.Token

The **tokens** of a JSON text, read off the front of a byte string.

Design points:

* A text is read in two ways. A *reader* wants the value and checks all of it;
  a *skipper* only wants to know where it ends, so it accepts escaped
  surrogates without partners, bytes that are not UTF-8 and numbers of any
  size. A string or number token therefore carries its content as a result
  that may be a fault, and a `Break`, the place where the token itself cannot
  be completed, carries a fault for each way.
* Every function takes the offset of the bytes it is given and blames
  absolute offsets.
-/

namespace SbomGate.Json

/-- Why a text cannot be read on, as those who read it report it. -/
structure Break where
  /-- The fault for a reader. -/
  reading : Fault
  /-- The fault for a skipper. -/
  skipping : Fault
  /-- The fault for a reader of a variant written as an object of one
  member. -/
  choosing : Fault
  deriving DecidableEq

/-- A break on which everyone agrees. -/
def Break.all (f : Fault) : Break := ⟨f, f, f⟩

/-- A break that a skipper reports in another way. -/
def Break.split (reading skipping : Fault) : Break := ⟨reading, skipping, reading⟩

/-- The content of a scalar token. -/
inductive Leaf
  /-- `null` -/
  | null
  /-- `true` or `false` -/
  | bool (b : Bool)
  /-- A number, unless it is beyond the range of doubles. -/
  | number (n : Except Fault Number)
  /-- A string, unless a reader finds fault with its characters. -/
  | string (s : Except Fault String)

/-- A token. -/
inductive Token
  /-- `[` -/
  | listOpen
  /-- `]` -/
  | listClose
  /-- The opening brace. -/
  | objectOpen
  /-- The closing brace. -/
  | objectClose
  /-- `,` -/
  | comma
  /-- `:` -/
  | colon
  /-- A scalar. -/
  | leaf (content : Leaf)
  /-- A string that is not completed. -/
  | brokenString (b : Break)
  /-- A word or number that is not completed. -/
  | brokenScalar (b : Break)
  /-- A byte at which no token starts. -/
  | stray

/-- Whether a byte may stand between tokens. -/
def isBlank (b : UInt8) : Bool := b = 0x20 || b = 0x0A || b = 0x09 || b = 0x0D

/-- Whether a byte is a decimal digit. -/
def isDigit (b : UInt8) : Bool := 0x30 ≤ b && b ≤ 0x39

/-! ### Strings -/

/-- The value of a hexadecimal digit. -/
def hexValue? (b : UInt8) : Option Nat :=
  if 0x30 ≤ b ∧ b ≤ 0x39 then some (b.toNat - 0x30)
  else if 0x41 ≤ b ∧ b ≤ 0x46 then some (b.toNat - 0x41 + 10)
  else if 0x61 ≤ b ∧ b ≤ 0x66 then some (b.toNat - 0x61 + 10)
  else none

/-- The number that four hexadecimal digits spell. -/
def hexQuad (offset : Nat) : Bytes → Except Fault Nat
  | a :: b :: c :: d :: _ =>
    match hexValue? a, hexValue? b, hexValue? c, hexValue? d with
    | some a, some b, some c, some d => .ok (((a * 16 + b) * 16 + c) * 16 + d)
    | _, _, _, _ => .error (Defect.badEscape.at (offset + 4))
  | bytes => .error (Defect.stringEnds.at (offset + bytes.length))

/-- The characters that a one-letter escape stands for. -/
def letterEscape? (b : UInt8) : Option Char :=
  if b = 0x22 then some '"'
  else if b = 0x5C then some '\\'
  else if b = 0x2F then some '/'
  else if b = 0x62 then some '\x08'
  else if b = 0x66 then some '\x0c'
  else if b = 0x6E then some '\n'
  else if b = 0x72 then some '\r'
  else if b = 0x74 then some '\t'
  else none

/-- What stands at one place inside a string. -/
inductive Piece
  /-- The closing quote. -/
  | close
  /-- A character, spelled in `width` bytes. -/
  | char (c : Char) (width : Nat)
  /-- A byte that is not part of well-formed UTF-8. -/
  | illFormed
  /-- Nothing a string can hold. -/
  | fault (f : Fault)

/-- The second half of an escaped pair whose first half `high` ends at
`offset`. -/
def lowHalf (high offset : Nat) : Bytes → Piece
  | [] => .fault (Defect.stringEnds.at offset)
  | b :: rest =>
    if b ≠ 0x5C then .fault (Defect.halfPair.at (offset + 1))
    else
      match rest with
      | [] => .fault (Defect.stringEnds.at (offset + 1))
      | u :: rest =>
        if u ≠ 0x75 then .fault (Defect.halfPair.at (offset + 2))
        else
          match hexQuad (offset + 2) rest with
          | .error f => .fault f
          | .ok low =>
            if low < 0xDC00 ∨ 0xDFFF < low then
              .fault (Defect.loneSurrogate.at (offset + 6))
            else
              .char (Char.ofNat ((high - 0xD800) * 0x400 + (low - 0xDC00) + 0x10000)) 12

/-- An escape by code unit; `offset` is where its four digits start. -/
def unitEscape (offset : Nat) (bytes : Bytes) : Piece :=
  match hexQuad offset bytes with
  | .error f => .fault f
  | .ok n =>
    if 0xDC00 ≤ n ∧ n ≤ 0xDFFF then .fault (Defect.loneSurrogate.at (offset + 4))
    else if 0xD800 ≤ n ∧ n ≤ 0xDBFF then lowHalf n (offset + 4) (bytes.drop 4)
    else .char (Char.ofNat n) 6

/-- An escape; `offset` is where the byte after the backslash stands. -/
def escapePiece (offset : Nat) : Bytes → Piece
  | [] => .fault (Defect.stringEnds.at offset)
  | b :: rest =>
    if b = 0x75 then unitEscape (offset + 1) rest
    else
      match letterEscape? b with
      | some c => .char c 2
      | none => .fault (Defect.badEscape.at (offset + 1))

/-- What stands at the front of the rest of a string. -/
def pieceAt (offset : Nat) : Bytes → Piece
  | [] => .fault (Defect.stringEnds.at offset)
  | b :: rest =>
    if b = 0x22 then .close
    else if b = 0x5C then escapePiece (offset + 1) rest
    else if b < 0x20 then .fault (Defect.rawControl.at (offset + 1))
    else
      match Text.Utf8.first? (b :: rest) with
      | some (c, width) => .char c width
      | none => .illFormed

/-- Reads a string from after its opening quote: its text and the offset
after its closing quote. Ill-formed bytes are reported only once the whole
string has been read, at the first of them. -/
def readString (taken : List Char) (bad : Option Nat) (skip offset : Nat) :
    Bytes → Except Fault (String × Nat)
  | [] => .error (Defect.stringEnds.at offset)
  | b :: rest =>
    match skip with
    | skip + 1 => readString taken bad skip (offset + 1) rest
    | 0 =>
      match pieceAt offset (b :: rest) with
      | .close =>
        match bad with
        | some o => .error (Defect.illFormedText.at (o + 1))
        | none => .ok (String.ofList taken.reverse, offset + 1)
      | .char c width => readString (c :: taken) bad (width - 1) (offset + 1) rest
      | .illFormed => readString taken (bad.or (some offset)) 0 (offset + 1) rest
      | .fault f => .error f

/-- The width of an escape to a skipper; `offset` is where the byte after the
backslash stands. -/
def skipEscape (offset : Nat) : Bytes → Except Fault Nat
  | [] => .error (Defect.stringEnds.at offset)
  | b :: rest =>
    if b = 0x75 then (hexQuad (offset + 1) rest).map fun _ => 6
    else if (letterEscape? b).isSome then .ok 2
    else .error (Defect.badEscape.at (offset + 1))

/-- Skips a string from after its opening quote: the offset after its closing
quote. -/
def skipString (skip offset : Nat) : Bytes → Except Fault Nat
  | [] => .error (Defect.stringEnds.at offset)
  | b :: rest =>
    match skip with
    | skip + 1 => skipString skip (offset + 1) rest
    | 0 =>
      if b = 0x22 then .ok (offset + 1)
      else if b = 0x5C then
        match skipEscape (offset + 1) rest with
        | .ok width => skipString (width - 1) (offset + 1) rest
        | .error f => .error f
      else if b < 0x20 then .error (Defect.rawControl.at offset)
      else skipString 0 (offset + 1) rest

/-- The string token whose opening quote stands before `offset`, and the
offset after it. -/
def stringToken (offset : Nat) (bytes : Bytes) : Token × Nat :=
  match readString [] none 0 offset bytes with
  | .ok (s, stop) => (.leaf (.string (.ok s)), stop)
  | .error reading =>
    match skipString 0 offset bytes with
    | .ok stop => (.leaf (.string (.error reading)), stop)
    | .error skipping => (.brokenString (.split reading skipping), offset)

/-! ### Numbers -/

/-- The parts of a number as they are written. -/
structure NumberText where
  /-- Whether a minus sign stands in front. -/
  negative : Bool
  /-- The digits before the point. -/
  integer : Bytes
  /-- The digits after the point, none without one. -/
  fraction : Bytes
  /-- Whether a point or an exponent is written. -/
  marked : Bool
  /-- Whether the exponent has a minus sign. -/
  exponentNegative : Bool
  /-- The digits of the exponent, none without one. -/
  exponent : Bytes
  /-- The offset at which the digits of the exponent start. -/
  exponentStart : Nat

/-- The number that decimal digits spell. -/
def digitsValue (ds : Bytes) : Nat := ds.foldl (fun n d => n * 10 + (d.toNat - 0x30)) 0

/-- The exponent part of a number, from `offset` on. -/
def scanExponent (t : NumberText) (offset : Nat) (bytes : Bytes) :
    Except Break (NumberText × Nat) :=
  match bytes with
  | e :: rest =>
    if e = 0x65 ∨ e = 0x45 then
      let signed := rest.head? = some 0x2D ∨ rest.head? = some 0x2B
      let start := if signed then offset + 2 else offset + 1
      let rest' := if signed then rest.drop 1 else rest
      let ds := rest'.takeWhile isDigit
      match rest' with
      | [] => .error (.split (Defect.valueEnds.at start) (Defect.badNumber.at start))
      | _ =>
        if ds.isEmpty then .error (.all (Defect.badNumber.at (start + 1)))
        else
          .ok ({ t with marked := true, exponentNegative := rest.head? = some 0x2D,
                        exponent := ds, exponentStart := start }, start + ds.length)
    else .ok (t, offset)
  | [] => .ok (t, offset)

/-- The fraction and exponent of a number, from `offset` on. -/
def scanFraction (t : NumberText) (offset : Nat) (bytes : Bytes) :
    Except Break (NumberText × Nat) :=
  match bytes with
  | p :: rest =>
    if p = 0x2E then
      let ds := rest.takeWhile isDigit
      match rest with
      | [] => .error (.split (Defect.valueEnds.at (offset + 1)) (Defect.badNumber.at (offset + 1)))
      | _ =>
        if ds.isEmpty then .error (.all (Defect.badNumber.at (offset + 2)))
        else
          scanExponent { t with fraction := ds, marked := true } (offset + 1 + ds.length)
            (rest.drop ds.length)
    else scanExponent t offset bytes
  | [] => .ok (t, offset)

/-- The digits of a number, from after its sign. -/
def scanDigits (negative : Bool) (offset : Nat) (bytes : Bytes) :
    Except Break (NumberText × Nat) :=
  match bytes with
  | [] => .error (.split (Defect.valueEnds.at offset) (Defect.badNumber.at offset))
  | d :: rest =>
    if !isDigit d then .error (.all (Defect.badNumber.at (offset + 1)))
    else
      let ds := bytes.takeWhile isDigit
      if d = 0x30 ∧ 1 < ds.length then .error (.all (Defect.badNumber.at (offset + 2)))
      else
        scanFraction ⟨negative, ds, [], false, false, [], 0⟩ (offset + ds.length)
          ((d :: rest).drop ds.length)

/-- The parts of the number at the front of a byte string, and the offset
after it. -/
def scanNumber (offset : Nat) (bytes : Bytes) : Except Break (NumberText × Nat) :=
  match bytes with
  | b :: rest =>
    if b = 0x2D then scanDigits true (offset + 1) rest else scanDigits false offset bytes
  | [] => scanDigits false offset []

/-- The number of digits after which an exponent exceeds the largest one that
is taken literally, `2 ^ 31 - 1`. -/
def exponentOverflow? (value count : Nat) : Bytes → Option Nat
  | [] => none
  | d :: ds =>
    let value := value * 10 + (d.toNat - 0x30)
    if 0x80000000 ≤ value then some (count + 1) else exponentOverflow? value (count + 1) ds

/-- The number that its parts denote; `stop` is the offset after it. A whole
number without point and exponent stays whole while it fits a signed or an
unsigned 64-bit word, minus zero apart. -/
def NumberText.value (t : NumberText) (stop : Nat) : Except Fault Number :=
  let n := digitsValue t.integer
  if !t.marked && !t.negative && n < UInt64.size then .ok (.whole n)
  else if !t.marked && t.negative && n ≠ 0 && n ≤ 0x8000000000000000 then .ok (.whole (-n))
  else
    let digits := digitsValue (t.integer ++ t.fraction)
    match exponentOverflow? 0 0 t.exponent with
    | some count =>
      if digits = 0 ∨ t.exponentNegative then .ok (.real (Binary64.zero t.negative))
      else .error (Defect.numberTooLarge.at (t.exponentStart + count))
    | none =>
      let e : Int := digitsValue t.exponent
      let scale : Int := (if t.exponentNegative then -e else e) - t.fraction.length
      match Binary64.ofDecimal? t.negative ⟨digits, scale⟩ with
      | some x => .ok (.real x)
      | none => .error (Defect.numberTooLarge.at stop)

/-- The number token at the front of a byte string, and the offset after
it. -/
def numberToken (offset : Nat) (bytes : Bytes) : Token × Nat :=
  match scanNumber offset bytes with
  | .ok (t, stop) => (.leaf (.number (t.value stop)), stop)
  | .error b => (.brokenScalar b, offset)

/-! ### Words and tokens -/

/-- Compares the rest of a word, from `offset` on. -/
def scanWord (offset : Nat) : (rest : Bytes) → Bytes → Except Fault Nat
  | [], _ => .ok offset
  | _ :: _, [] => .error (Defect.valueEnds.at offset)
  | e :: es, b :: bs =>
    if b = e then scanWord (offset + 1) es bs else .error (Defect.unknownWord.at (offset + 1))

/-- The word token whose first letter stands before `offset`, and the offset
after it. -/
def wordToken (content : Leaf) (rest : String) (offset : Nat) (bytes : Bytes) : Token × Nat :=
  match scanWord offset (bytesOf rest) bytes with
  | .ok stop => (.leaf content, stop)
  | .error f => (.brokenScalar (.all f), offset)

/-- The token that starts with byte `b` at `offset`, followed by `rest`, and
the offset after it. -/
def tokenAt (offset : Nat) (b : UInt8) (rest : Bytes) : Token × Nat :=
  let next := offset + 1
  if b = 0x5B then (.listOpen, next)
  else if b = 0x5D then (.listClose, next)
  else if b = 0x7B then (.objectOpen, next)
  else if b = 0x7D then (.objectClose, next)
  else if b = 0x2C then (.comma, next)
  else if b = 0x3A then (.colon, next)
  else if b = 0x22 then stringToken next rest
  else if b = 0x6E then wordToken .null "ull" next rest
  else if b = 0x74 then wordToken (.bool true) "rue" next rest
  else if b = 0x66 then wordToken (.bool false) "alse" next rest
  else if b = 0x2D || isDigit b then numberToken offset (b :: rest)
  else (.stray, next)

end SbomGate.Json
