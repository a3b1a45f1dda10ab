import SbomGate.Text.Numeral
/-!
# SbomGate.Net.SocketAddress

**Socket addresses**: an IP address and a port, as in `127.0.0.1:80` and
`[::1]:80`, with a reader and a printer.

A reader takes what it can from the front of a text and returns the rest.
Octets have no leading zeros; pieces of IPv6 addresses and ports may have some.
-/

namespace SbomGate.Net

/-- An IP address and a port. -/
inductive SocketAddress
  /-- Four octets and a port. -/
  | v4 (octets : List Nat) (port : Nat)
  /-- Eight 16-bit pieces, the number of a zone, and a port. -/
  | v6 (pieces : List Nat) (zone port : Nat)
  deriving DecidableEq, Repr

/-! ### Readers -/

/-- A number of all digits at the front; at most `limit`. -/
def readNumber (base limit : Nat) (fits : List Char → Bool) (cs : List Char) :
    Option (Nat × List Char) :=
  let isDigit (c : Char) : Bool := (Text.digit? base c).isSome
  let digits := cs.takeWhile isDigit
  let n := digits.foldl (fun n c => n * base + (Text.digit? base c).getD 0) 0
  if digits.isEmpty || !fits digits || limit < n then none else some (n, cs.dropWhile isDigit)

/-- What follows a character at the front. -/
def dropChar? (c : Char) : List Char → Option (List Char)
  | d :: cs => if c = d then some cs else none
  | [] => none

/-- An octet: up to three digits, no leading zero. -/
def readOctet : List Char → Option (Nat × List Char) :=
  readNumber 10 255 fun ds => ds.length ≤ 3 && (ds.length = 1 || ds.head? ≠ some '0')

/-- Four octets with dots between them. -/
def readOctets (cs : List Char) : Option (List Nat × List Char) := do
  let (a, cs) ← readOctet cs
  let cs ← dropChar? '.' cs
  let (b, cs) ← readOctet cs
  let cs ← dropChar? '.' cs
  let (c, cs) ← readOctet cs
  let cs ← dropChar? '.' cs
  let (d, cs) ← readOctet cs
  return ([a, b, c, d], cs)

/-- A piece of an IPv6 address: up to four hexadecimal digits. -/
def readPiece : List Char → Option (Nat × List Char) := readNumber 16 65535 fun ds => ds.length ≤ 4

/-- A port or the number of a zone. -/
def readDecimal (limit : Nat) : List Char → Option (Nat × List Char) :=
  readNumber 10 limit fun _ => true

/-- What follows a separator, which the first item does not have. -/
def afterSeparator (isFirst : Bool) (cs : List Char) : Option (List Char) :=
  if isFirst then some cs else dropChar? ':' cs

/-- Up to `room` pieces, whether the last two of them are written as octets,
and the rest. -/
def readPieces (isFirst : Bool) : Nat → List Char → List Nat × Bool × List Char
  | 0, cs => ([], false, cs)
  | room + 1, cs =>
    let octets := if room = 0 then none else (afterSeparator isFirst cs).bind readOctets
    match octets with
    | some ([a, b, c, d], rest) => ([a * 256 + b, c * 256 + d], true, rest)
    | _ =>
      match (afterSeparator isFirst cs).bind readPiece with
      | some (p, rest) =>
        let (ps, octets, rest) := readPieces false room rest
        (p :: ps, octets, rest)
      | none => ([], false, cs)

/-- The eight pieces of an IPv6 address; two colons stand for zeros. -/
def readIpv6 (cs : List Char) : Option (List Nat × List Char) :=
  let (front, octets, rest) := readPieces true 8 cs
  if front.length = 8 then some (front, rest)
  else if octets then none
  else do
    let rest ← dropChar? ':' rest
    let rest ← dropChar? ':' rest
    let (back, _, rest) := readPieces true (7 - front.length) rest
    return (front ++ List.replicate (8 - front.length - back.length) 0 ++ back, rest)

/-- The zone behind an IPv6 address; zero if none is named. -/
def readZone (cs : List Char) : Nat × List Char :=
  match (dropChar? '%' cs).bind (readDecimal 4294967295) with
  | some (zone, rest) => (zone, rest)
  | none => (0, cs)

/-- A colon and a port. -/
def readPort (cs : List Char) : Option (Nat × List Char) :=
  (dropChar? ':' cs).bind (readDecimal 65535)

namespace SocketAddress

/-- A socket address of four octets. -/
def readV4 (cs : List Char) : Option (SocketAddress × List Char) := do
  let (octets, cs) ← readOctets cs
  let (port, cs) ← readPort cs
  return (.v4 octets port, cs)

/-- A socket address of eight pieces. -/
def readV6 (cs : List Char) : Option (SocketAddress × List Char) := do
  let cs ← dropChar? '[' cs
  let (pieces, cs) ← readIpv6 cs
  let (zone, cs) := readZone cs
  let cs ← dropChar? ']' cs
  let (port, cs) ← readPort cs
  return (.v6 pieces zone port, cs)

/-- The socket address that a text spells. -/
def ofText? (s : String) : Option SocketAddress :=
  match (readV4 s.toList).or (readV6 s.toList) with
  | some (a, []) => some a
  | _ => none

/-! ### Printing -/

/-- The octets of an address of version 4, with dots between them. -/
def octetsText (octets : List Nat) : String := ".".intercalate (octets.map toString)

/-- Some pieces of an address of version 6 in hexadecimal digits, with colons between them. -/
def piecesText (pieces : List Nat) : String :=
  ":".intercalate (pieces.map fun p => String.ofList (Nat.toDigits 16 p))

/-- The number of zeros at the front. -/
def zerosAtFront (pieces : List Nat) : Nat := (pieces.takeWhile (· = 0)).length

/-- The start and the length of the first of the longest runs of zeros from
position `i` on. -/
def longestZeros (i : Nat) : List Nat → Nat × Nat
  | [] => (i, 0)
  | p :: ps =>
    let later := longestZeros (i + 1) ps
    let here := zerosAtFront (p :: ps)
    if here = 0 ∨ here < later.2 then later else (i, here)

/-- The pieces of an address that holds an IPv4 address, which is then written
as octets. -/
def mappedOctets? : List Nat → Option (List Nat)
  | [0, 0, 0, 0, 0, 0xFFFF, a, b] => some [a / 256, a % 256, b / 256, b % 256]
  | _ => none

/-- An IPv6 address; the longest run of two zeros or more is left out. -/
def ipv6Text (pieces : List Nat) : String :=
  match mappedOctets? pieces with
  | some octets => "::ffff:" ++ octetsText octets
  | none =>
    let (start, length) := longestZeros 0 pieces
    if 1 < length then
      piecesText (pieces.take start) ++ "::" ++ piecesText (pieces.drop (start + length))
    else piecesText pieces

/-- The text of a socket address. -/
def text : SocketAddress → String
  | v4 octets port => octetsText octets ++ ":" ++ toString port
  | v6 pieces zone port =>
    "[" ++ ipv6Text pieces ++ (if zone = 0 then "" else "%" ++ toString zone) ++ "]:" ++
      toString port

end SocketAddress

end SbomGate.Net
