import SbomGate.Url.Address
import SbomGate.Url.Domain
import SbomGate.Text.Utf8
/-!
# SbomGate.Url.Parser

Reading **absolute URLs** from texts, as browsers read them: blanks around the
text and line breaks inside it are dropped, and schemes such as `http` take
backslashes for slashes, decode and map their hosts and shorten their paths.

The text is cut in the order in which a URL is written: scheme, authority,
path, query, fragment. Every cut is a `takeWhile` and a `dropWhile`, so each
part is read by a function of its own.
-/

namespace SbomGate.Url

open Text (splitAtChar digit? number?)

/-- Controls and the blank, which are dropped at both ends of a text. -/
def isEdge (c : Char) : Bool := c.toNat ≤ 0x20

/-- Characters that are dropped wherever they stand. -/
def isDropped (c : Char) : Bool := c = '\t' || c = '\n' || c = '\r'

/-- The characters of a text that count. -/
def significant (s : String) : List Char :=
  let front := s.toList.dropWhile isEdge
  ((front.reverse.dropWhile isEdge).reverse).filter (!isDropped ·)

/-! ### Percent-encoding -/

/-- A byte as `%` and two digits. -/
def percentByte (b : UInt8) : List Char :=
  ['%', Char.toUpper (Nat.digitChar (b.toNat / 16)), Char.toUpper (Nat.digitChar (b.toNat % 16))]

/-- Encodes the characters that are not ASCII or that `escaped` names. -/
def percentEncode (escaped : Char → Bool) (cs : List Char) : List Char :=
  cs.flatMap fun c =>
    if 0x7F ≤ c.toNat ∨ c.toNat < 0x20 ∨ escaped c then (Text.Utf8.encode [c]).flatMap percentByte
    else [c]

/-- Decodes every `%` that two hexadecimal digits follow; `skip` counts the
digits already used. -/
def percentDecodeFrom (skip : Nat) : List Char → Bytes
  | [] => []
  | c :: cs =>
    match skip with
    | skip + 1 => percentDecodeFrom skip cs
    | 0 =>
      let pair : Option Nat :=
        match c, cs with
        | '%', a :: b :: _ =>
          match digit? 16 a, digit? 16 b with
          | some x, some y => some (x * 16 + y)
          | _, _ => none
        | _, _ => none
      match pair with
      | some n => UInt8.ofNat n :: percentDecodeFrom 2 cs
      | none => Text.Utf8.encode [c] ++ percentDecodeFrom 0 cs

/-- The bytes that a percent-encoded text stands for. -/
def percentDecode (cs : List Char) : Bytes := percentDecodeFrom 0 cs

/-! ### Hosts -/

/-- A host in brackets, or `none` for a host without. -/
def bracketed? (cs : List Char) : Option (Except Flaw Host) :=
  match cs with
  | '[' :: rest =>
    if rest.getLast? = some ']' then
      some ((ipv6? rest.dropLast).elim (.error .badIpv6) fun ps => .ok (.ipv6 ps))
    else some (.error .badIpv6)
  | _ => none

/-- The host of a special scheme. -/
def readHost (cs : List Char) : Except Flaw Host :=
  match bracketed? cs with
  | some r => r
  | none =>
    match (Text.Utf8.decode (percentDecode cs)).toOption.bind domain? with
    | none => .error .badDomain
    | some [] => .error .emptyHost
    | some name =>
      if endsInNumber name then (ipv4? name).elim (.error .badIpv4) fun a => .ok (.ipv4 a)
      else .ok (.domain (String.ofList name))

/-- Characters that the host of an ordinary scheme may not hold. -/
def isForbiddenInHost (c : Char) : Bool :=
  c ∈ ['\x00', '\t', '\n', '\r', ' ', '#', '/', ':', '<', '>', '?', '@', '[', '\\', ']', '^', '|']

/-- The host of an ordinary scheme. -/
def readVerbatimHost (cs : List Char) : Except Flaw Host :=
  match bracketed? cs with
  | some r => r
  | none =>
    if cs.any isForbiddenInHost then .error .badHostCharacter
    else .ok (.verbatim (String.ofList (percentEncode (fun _ => false) cs)))

/-! ### Authority -/

/-- Whether a character ends the authority. -/
def endsAuthority (kind : SchemeKind) (c : Char) : Bool :=
  c = '/' || c = '?' || c = '#' || (kind.isSpecial && c = '\\')

/-- The end of the host: a colon outside brackets. -/
def hostLength (inside : Bool) : List Char → Nat
  | [] => 0
  | c :: cs =>
    if c = ':' ∧ !inside then 0
    else hostLength (if c = '[' then true else if c = ']' then false else inside) cs + 1

/-- The default port of a scheme. -/
def defaultPort? (scheme : String) : Option Nat :=
  if scheme = "http" ∨ scheme = "ws" then some 80
  else if scheme = "https" ∨ scheme = "wss" then some 443
  else if scheme = "ftp" then some 21
  else none

/-- The port behind the colon; none when nothing or the default is written. -/
def readPort (scheme : String) (cs : List Char) : Except Flaw (Option Nat) :=
  if cs.isEmpty then .ok none
  else if !cs.all Char.isDigit then .error .badPort
  else
    match number? 10 cs with
    | some n =>
      if 65535 < n then .error .badPort
      else .ok (if defaultPort? scheme = some n then none else some n)
    | none => .error .badPort

/-- What stands in front of the last `@`, if there is one, and what stands
behind it. -/
def splitUser (cs : List Char) : Option (List Char) × List Char :=
  let behind := (cs.reverse.takeWhile (· ≠ '@')).reverse
  if behind.length = cs.length then (none, cs)
  else (some (cs.take (cs.length - behind.length - 1)), behind)

/-- Whether user information says anything: a lone colon does not. -/
def namesUser (user : List Char) : Bool := !user.isEmpty && user ≠ [':']

/-- The host and the port of an authority; `last` holds when nothing follows
it. An empty user in front of an empty place is refused unless it is the
end. A backslash ends the port in every scheme. -/
def readAuthority (scheme : String) (kind : SchemeKind) (last : Bool) (cs : List Char) :
    Except Flaw (Option Host × Option Nat) := do
  let (user, place) := splitUser cs
  if user = some [] ∧ place.isEmpty ∧ !last then throw .emptyHost
  let n := hostLength false place
  let hostText := place.take n
  let host ←
    if kind = .hierarchical then
      if hostText.isEmpty then throw .emptyHost else (readHost hostText).map some
    else if hostText.isEmpty then pure none
    else (readVerbatimHost hostText).map some
  match place.drop n with
  | [] =>
    if host.isNone ∧ (user.any namesUser) then throw .emptyHost
    return (host, none)
  | _ :: portText =>
    if host.isNone then throw .emptyHost
    let port ← readPort scheme (portText.takeWhile (· ≠ '\\'))
    return (host, port)

/-! ### Path, query and fragment -/

/-- Whether a character of a path is percent-encoded although it is ASCII and no control. -/
def isEscapedInPath (c : Char) : Bool :=
  c ∈ [' ', '"', '#', '<', '>', '?', '^', '\x60', '\x7b', '\x7d']

/-- Whether a character of a query is percent-encoded although it is ASCII and no control. -/
def isEscapedInQuery (kind : SchemeKind) (c : Char) : Bool :=
  c ∈ [' ', '"', '#', '<', '>'] || (kind.isSpecial && c = '\'')

/-- A segment that stays where it is. -/
def isSingleDot (cs : List Char) : Bool :=
  let t := String.ofList (cs.map Char.toLower)
  t = "." || t = "%2e"

/-- A segment that goes one up. -/
def isDoubleDot (cs : List Char) : Bool :=
  let t := String.ofList (cs.map Char.toLower)
  t ∈ ["..", ".%2e", "%2e.", "%2e%2e"]

/-- Shortens a path: `done` holds the segments so far in reverse. A dot at the
end leaves an empty segment. -/
def normalSegments (done : List (List Char)) : List (List Char) → List (List Char)
  | [] => done.reverse
  | s :: rest =>
    if isDoubleDot s then
      normalSegments (if rest.isEmpty then [] :: done.drop 1 else done.drop 1) rest
    else if isSingleDot s then
      normalSegments (if rest.isEmpty then [] :: done else done) rest
    else normalSegments (s :: done) rest

/-- The normal form of a path of slashes and segments. -/
def readPath (kind : SchemeKind) (cs : List Char) : List Char :=
  let cs := if kind.isSpecial then cs.map fun c => if c = '\\' then '/' else c else cs
  match cs with
  | [] => if kind.isSpecial then ['/'] else []
  | c :: rest =>
    let body := if c = '/' then rest else cs
    let segments := normalSegments [] (splitAtChar '/' body)
    segments.flatMap fun s => '/' :: percentEncode isEscapedInPath s

/-- The query of what follows a path: the part from `?` to `#`. -/
def readQuery (kind : SchemeKind) (cs : List Char) : Option String :=
  match cs with
  | '?' :: rest =>
    some (String.ofList (percentEncode (isEscapedInQuery kind) (rest.takeWhile (· ≠ '#'))))
  | _ => none

/-- Whether a character ends the path. -/
def endsPath (c : Char) : Bool := c = '?' || c = '#'

/-- A URL from its scheme, host and port and what follows them. -/
def assemble (scheme : String) (kind : SchemeKind) (place : Option Host × Option Nat)
    (rest : List Char) : Url :=
  { scheme := scheme
    host := place.1
    port := place.2
    path := String.ofList (readPath kind (rest.takeWhile (!endsPath ·)))
    query := readQuery kind (rest.dropWhile (!endsPath ·)) }

/-! ### The three kinds of scheme -/

/-- A URL from what follows the two slashes behind its scheme. -/
def readWithAuthority (scheme : String) (kind : SchemeKind) (cs : List Char) :
    Except Flaw Url := do
  let rest := cs.dropWhile (!endsAuthority kind ·)
  let place ← readAuthority scheme kind rest.isEmpty (cs.takeWhile (!endsAuthority kind ·))
  return assemble scheme kind place rest

/-- A drive letter, which is no host: a letter and a colon or bar. -/
def isDriveLetter (cs : List Char) : Bool :=
  match cs with
  | [a, b] => a.isAlpha && (b = ':' || b = '|')
  | _ => false

/-- What follows the scheme `file` and its colon. A host is read only behind
two slashes; `localhost` is the same as none. -/
def readFile (scheme : String) (cs : List Char) : Except Flaw Url :=
  let slash (c : Char) : Bool := c = '/' || c = '\\'
  match cs with
  | a :: b :: rest =>
    if slash a && slash b then
      let hostText := rest.takeWhile (!endsAuthority .file ·)
      if hostText.isEmpty || isDriveLetter hostText then
        .ok (assemble scheme .file (none, none) rest)
      else
        (readHost hostText).map fun h =>
          let host := if h = .domain "localhost" then none else some h
          assemble scheme .file (host, none) (rest.dropWhile (!endsAuthority .file ·))
    else .ok (assemble scheme .file (none, none) cs)
  | _ => .ok (assemble scheme .file (none, none) cs)

/-- What follows an ordinary scheme and its colon. Without a slash the path is
one opaque text. -/
def readOrdinary (scheme : String) (cs : List Char) : Except Flaw Url :=
  match cs with
  | '/' :: '/' :: rest => readWithAuthority scheme .ordinary rest
  | '/' :: _ => .ok (assemble scheme .ordinary (none, none) cs)
  | _ =>
    .ok { scheme := scheme, host := none, port := none,
          path := String.ofList (percentEncode (fun _ => false) (cs.takeWhile (!endsPath ·))),
          query := readQuery .ordinary (cs.dropWhile (!endsPath ·)) }

/-- The characters of a scheme behind its first letter. -/
def isSchemeChar (c : Char) : Bool := c.isAlphanum || c = '+' || c = '-' || c = '.'

/-- The scheme in lower case and what follows its colon. -/
def splitScheme? (cs : List Char) : Option (String × List Char) :=
  match cs with
  | c :: _ =>
    if c.isAlpha then
      match cs.dropWhile isSchemeChar with
      | ':' :: rest => some (String.ofList ((cs.takeWhile isSchemeChar).map Char.toLower), rest)
      | _ => none
    else none
  | [] => none

end SbomGate.Url

namespace SbomGate

open Url in
/-- The absolute URL that a text spells, or why it spells none. -/
def Url.parse (text : String) : Except Url.Flaw Url :=
  match splitScheme? (significant text) with
  | none => .error .relative
  | some (scheme, rest) =>
    match SchemeKind.of scheme with
    | .file => readFile scheme rest
    | .hierarchical =>
      readWithAuthority scheme .hierarchical (rest.dropWhile fun c => c = '/' || c = '\\')
    | .ordinary => readOrdinary scheme rest

end SbomGate
