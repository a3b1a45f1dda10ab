import SbomGate.Http.Chunked
/-!
# SbomGate.Http.Reply

**Replies** as they come in over a connection: a status line, fields, and a
body that a length, chunks or the end of the connection delimits.

A reply whose head can be read has a status even if its body cannot be read,
so the two are kept apart: `Reply.body` is `none` for a body that breaks off.
-/

namespace SbomGate.Http

/-- A reply. -/
structure Reply where
  status : Nat
  /-- The body, if all of it came. -/
  body : Option Bytes
  deriving DecidableEq

/-- The head of a reply. -/
structure Reply.Head where
  /-- Whether the reply is of version 1.0 and not of 1.1. -/
  old : Bool
  status : Nat
  /-- The fields in order; names are in lower case. -/
  fields : List (String × Bytes)
  deriving DecidableEq

/-! ### Lines and fields -/

/-- The first line of a text without its end, and what follows it. -/
def splitLine? (bytes : Bytes) : Option (Bytes × Bytes) :=
  let line := bytes.takeWhile (· ≠ lf)
  match bytes.dropWhile (· ≠ lf) with
  | [] => none
  | _ :: rest => some (if line.getLast? = some cr then line.dropLast else line, rest)

/-- Bytes of a reason and of field values. -/
def isValueByte (b : UInt8) : Bool := b = 0x09 || (0x20 ≤ b && b ≠ 0x7F)

/-- Bytes of field names: letters, digits and the signs of a token. -/
def isNameByte (b : UInt8) : Bool :=
  (0x30 ≤ b && b ≤ 0x39) || (0x41 ≤ b && b ≤ 0x5A) || (0x61 ≤ b && b ≤ 0x7A) ||
    (bytesOf "!#$%&'*+-.^_\x60|~").contains b

/-- The text of ASCII bytes in lower case. -/
def lowerText (bytes : Bytes) : String :=
  String.ofList (bytes.map fun b => (Char.ofNat b.toNat).toLower)

/-- A value without the blanks around it. -/
def trimBlanks (bytes : Bytes) : Bytes :=
  ((bytes.dropWhile isBlankByte).reverse.dropWhile isBlankByte).reverse

/-- The field that a line spells. -/
def readField? (line : Bytes) : Option (String × Bytes) :=
  let name := line.takeWhile isNameByte
  match line.dropWhile isNameByte with
  | 0x3A :: value =>
    if !name.isEmpty && value.all isValueByte then some (lowerText name, trimBlanks value)
    else none
  | _ => none

/-- The most fields that a reply may have. -/
def mostFields : Nat := 100

/-- Up to `room` fields, and what follows the empty line behind them. -/
def readFields? (room : Nat) (bytes : Bytes) : Option (List (String × Bytes) × Bytes) :=
  match splitLine? bytes with
  | none => none
  | some ([], rest) => some ([], rest)
  | some (line, rest) =>
    match room with
    | 0 => none
    | room + 1 => do
      let field ← readField? line
      let (fields, rest) ← readFields? room rest
      return (field :: fields, rest)

/-! ### The head -/

/-- What follows the empty lines at the start. -/
def dropEmptyLines : Bytes → Bytes
  | 0x0A :: rest => dropEmptyLines rest
  | 0x0D :: 0x0A :: rest => dropEmptyLines rest
  | bytes => bytes

/-- The value of a decimal digit. -/
def digitValue? (b : UInt8) : Option Nat :=
  if 0x30 ≤ b && b ≤ 0x39 then some (b.toNat - 0x30) else none

/-- What a status line starts with. -/
def versionStart : Bytes := bytesOf "HTTP/1."

/-- The version and the status of a status line; statuses start at 100. -/
def readStatusLine? (line : Bytes) : Option (Bool × Nat) :=
  if line.take versionStart.length = versionStart then
    match line.drop versionStart.length with
    | version :: 0x20 :: a :: b :: c :: rest => do
      let old ← if version = 0x30 then some true else if version = 0x31 then some false else none
      let status := (← digitValue? a) * 100 + (← digitValue? b) * 10 + (← digitValue? c)
      let reasonFits : Bool :=
        match rest with
        | [] => true
        | d :: reason => d = 0x20 && reason.all isValueByte
      if reasonFits && 100 ≤ status then some (old, status) else none
    | _ => none
  else none

/-- The head of a reply and what follows it. -/
def Reply.Head.read? (bytes : Bytes) : Option (Reply.Head × Bytes) := do
  let (line, rest) ← splitLine? (dropEmptyLines bytes)
  let (old, status) ← readStatusLine? line
  let (fields, rest) ← readFields? mostFields rest
  return (⟨old, status, fields⟩, rest)

/-- The values of all fields of a name. -/
def Reply.Head.values (h : Reply.Head) (name : String) : List Bytes :=
  (h.fields.filter (·.1 = name)).map (·.2)

/-! ### The body -/

/-- What delimits a body. -/
inductive Framing
  /-- There is no body. -/
  | absent
  /-- The body comes in chunks. -/
  | chunked
  /-- The body has a length. -/
  | sized (length : Nat)
  /-- The body goes on to the end. -/
  | toEnd
  deriving DecidableEq

/-- The items of a value, between its commas. -/
def splitItems (value : Bytes) : List Bytes := value.splitOn 0x2C

/-- The number that digits spell, if it fits 64 bits. -/
def readLength? (item : Bytes) : Option Nat :=
  if item.isEmpty then none
  else
    item.foldl
      (fun n b => do
        let n ← n
        let d ← digitValue? b
        if n * 10 + d < UInt64.size then some (n * 10 + d) else none)
      (some 0)

/-- The greatest length of a body. -/
def greatestLength : Nat := UInt64.size - 3

/-- The one length that all items give. -/
def commonLength? (items : List Bytes) : Option Nat :=
  match items.map fun i => readLength? (trimBlanks i) with
  | some n :: rest => if rest.all (· = some n) then some n else none
  | _ => none

/-- Whether the last coding of the last value is the chunked one. -/
def endsChunked (values : List Bytes) : Bool :=
  match values.getLast? with
  | some value =>
    ((splitItems value).getLast?.map fun i => lowerText (trimBlanks i)) = some "chunked"
  | none => false

/-- What delimits the body of a reply; `none` if its fields contradict each
other. -/
def Reply.Head.framing? (h : Reply.Head) : Option Framing :=
  let codings := h.values "transfer-encoding"
  let lengths := h.values "content-length"
  if h.status = 101 ∨ h.status = 204 ∨ h.status = 304 then some .absent
  else if !codings.isEmpty then
    if h.old then none else if endsChunked codings then some .chunked else some .toEnd
  else if !lengths.isEmpty then
    (commonLength? (lengths.flatMap splitItems)).bind fun n =>
      if n ≤ greatestLength then some (.sized n) else none
  else some .toEnd

/-- The body that follows a head. -/
def Framing.body (f : Framing) (rest : Bytes) : Option Bytes :=
  match f with
  | absent => some []
  | chunked => unchunk rest
  | sized n => if (rest.take n).length = n then some (rest.take n) else none
  | toEnd => some rest

/-- The first reply that is not a mere interim one; `fuel` bounds their
number. -/
def Reply.readWith? : Nat → Bytes → Option Reply
  | 0, _ => none
  | fuel + 1, bytes => do
    let (head, rest) ← Head.read? bytes
    if head.status < 200 ∧ head.status ≠ 101 then readWith? fuel rest
    else return ⟨head.status, (← head.framing?).body rest⟩

/-- The reply in what came in until the connection ended. -/
def Reply.ofBytes? (bytes : Bytes) : Option Reply := readWith? (bytes.length + 1) bytes

end SbomGate.Http
