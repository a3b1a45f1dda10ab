import SbomGate.Text.Utf8
/-!
# SbomGate.Http.Message

**Requests and responses** of HTTP, without what the connection is concerned
with.
-/

namespace SbomGate.Http

/-- A request. -/
structure Request where
  method : String
  /-- The target: a path, which a query may follow, with or without a scheme and an
  authority in front. -/
  target : String
  /-- The headers in order; names are in lower case. -/
  headers : List (String × Bytes)
  body : Bytes
  deriving DecidableEq

namespace Request

/-- Whether a character ends the path of a target. -/
def endsPath (c : Char) : Bool := c = '?' || c = '#'

/-- What follows the scheme and the authority of a target that has them. -/
def behindAuthority? (target : List Char) : Option (List Char) :=
  match target.dropWhile (· ≠ ':') with
  | ':' :: '/' :: '/' :: rest => some (rest.dropWhile fun c => c ≠ '/' && !endsPath c)
  | _ => none

/-- The path that the target names. Behind an authority, no path at all stands for the
root. A target that is neither a path nor has an authority names none, except for the
asterisk, which is one itself. -/
def path (r : Request) : String :=
  match r.target.toList with
  | '/' :: cs => String.ofList ('/' :: cs.takeWhile (!endsPath ·))
  | ['*'] => "*"
  | cs =>
    match (behindAuthority? cs).map (·.takeWhile (!endsPath ·)) with
    | some [] => "/"
    | some cs => String.ofList cs
    | none => ""

/-- The value of the first header of a name. -/
def header? (r : Request) (name : String) : Option Bytes :=
  (r.headers.find? (·.1 = name)).map (·.2)

end Request

/-- Bytes that a header value can be read as text with: visible ones, spaces
and tabs. -/
def isTextByte (b : UInt8) : Bool := b = 0x09 || (0x20 ≤ b && b < 0x7F)

/-- The text of a header value; none if it has other bytes. -/
def headerText? (value : Bytes) : Option String :=
  if value.all isTextByte then some (String.ofList (value.map fun b => Char.ofNat b.toNat))
  else none

/-- A response. -/
structure Response where
  status : Nat
  /-- The headers; names are in lower case. -/
  headers : List (String × String)
  body : String
  deriving DecidableEq

namespace Response

/-- The value of the first header of a name. -/
def header? (r : Response) (name : String) : Option String :=
  (r.headers.find? (·.1 = name)).map (·.2)

/-- A response without a body. -/
def empty (status : Nat) (headers : List (String × String)) : Response := ⟨status, headers, ""⟩

end Response

end SbomGate.Http
