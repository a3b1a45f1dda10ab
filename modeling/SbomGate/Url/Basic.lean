/-!
# SbomGate.Url.Basic

**Absolute URLs** as they come out of parsing, and why a text is none.
-/

namespace SbomGate

/-- Why a text is not an absolute URL. -/
inductive Url.Flaw
  /-- There is no host where one must be. -/
  | emptyHost
  /-- The host is no domain name, even after mapping and decoding. -/
  | badDomain
  /-- The port is not a number below 65536. -/
  | badPort
  /-- The host ends in a number but is no IPv4 address. -/
  | badIpv4
  /-- The host stands in brackets but is no IPv6 address. -/
  | badIpv6
  /-- The host of an ordinary scheme holds a forbidden character. -/
  | badHostCharacter
  /-- There is no scheme. -/
  | relative
  deriving DecidableEq, Repr

/-- The message of a flaw. -/
def Url.Flaw.message : Url.Flaw → String
  | emptyHost => "empty host"
  | badDomain => "invalid international domain name"
  | badPort => "invalid port number"
  | badIpv4 => "invalid IPv4 address"
  | badIpv6 => "invalid IPv6 address"
  | badHostCharacter => "invalid domain character"
  | relative => "relative URL without a base"

/-- How the rest of a URL is read depends on its scheme. -/
inductive Url.SchemeKind
  /-- `file`: a host is optional and there is no port. -/
  | file
  /-- `http` and its like: slashes may lean either way, a host is required. -/
  | hierarchical
  /-- Any other scheme. -/
  | ordinary
  deriving DecidableEq, Repr

/-- The kind of a scheme in lower case. -/
def Url.SchemeKind.of (scheme : String) : Url.SchemeKind :=
  if scheme = "file" then .file
  else if scheme ∈ ["http", "https", "ws", "wss", "ftp"] then .hierarchical
  else .ordinary

/-- Whether a scheme has rules of its own: all do that are not ordinary. -/
def Url.SchemeKind.isSpecial : Url.SchemeKind → Bool
  | ordinary => false
  | _ => true

/-- The host of a URL. -/
inductive Url.Host
  /-- A domain name in its normal form. -/
  | domain (name : String)
  /-- An IPv4 address as one number. -/
  | ipv4 (address : Nat)
  /-- An IPv6 address as eight 16-bit pieces. -/
  | ipv6 (pieces : List Nat)
  /-- The host of an ordinary scheme, taken as it is. -/
  | verbatim (text : String)
  deriving DecidableEq, Repr

/-- An absolute URL. -/
structure Url where
  /-- The scheme in lower case. -/
  scheme : String
  /-- The host, if there is one. -/
  host : Option Url.Host
  /-- The port, if it is written and not the default of the scheme. -/
  port : Option Nat
  /-- The path in its normal, percent-encoded form. -/
  path : String
  /-- The percent-encoded query, if there is one. -/
  query : Option String
  deriving DecidableEq, Repr

/-- What a request for the URL names: its path and query. -/
def Url.target (u : Url) : String :=
  (if u.path.isEmpty then "/" else u.path) ++
    match u.query with
    | some q => "?" ++ q
    | none => ""

end SbomGate
