import SbomGate.Token.Jwk
/-!
# SbomGate.Token.Header

The **header** of a token: how it is signed and with which key.
-/

namespace SbomGate.Token

open Json

/-- The header of a token. -/
structure Header where
  /-- The type of the token. -/
  typ : Option String
  algorithm : Algorithm
  /-- The type of the content. -/
  cty : Option String
  /-- Where the key set of the signer is. -/
  jku : Option String
  /-- The key of the signer. -/
  jwk : Option Jwk
  /-- The identifier of the key. -/
  kid : Option String
  /-- Where the certificates of the key are. -/
  x5u : Option String
  /-- The certificates of the key. -/
  x5c : Option (List String)
  /-- The SHA-1 thumbprint of the certificate. -/
  x5t : Option String
  /-- The SHA-256 thumbprint of the certificate. -/
  x5tS256 : Option String
  deriving DecidableEq

namespace Header

/-- A field that an object may leave out. -/
def optionalField (name : String) (s : Schema) : String × Presence × Schema :=
  (name, .nullable, .optional s)

/-- The form of a header. -/
def schema : Schema :=
  .record "Header" false
    [optionalField "typ" .string, ("alg", .required, .choice (Algorithm.all.map Algorithm.name)),
      optionalField "cty" .string, optionalField "jku" .string, optionalField "jwk" Jwk.schema,
      optionalField "kid" .string, optionalField "x5u" .string,
      optionalField "x5c" (.list .string), optionalField "x5t" .string,
      optionalField "x5t#S256" .string]

/-- The key among the members of a header; null stands for none. -/
def jwkOf (ms : Members) : Option Jwk :=
  match ms.get? "jwk" with
  | some (.object inner) => some (Jwk.ofMembers inner)
  | _ => none

/-- A header from the members of a projection. -/
def ofMembers (ms : Members) : Header :=
  { typ := ms.text? "typ"
    algorithm := ((ms.text? "alg").bind Algorithm.ofName?).getD .hs256
    cty := ms.text? "cty"
    jku := ms.text? "jku"
    jwk := jwkOf ms
    kid := ms.text? "kid"
    x5u := ms.text? "x5u"
    x5c := ms.texts? "x5c"
    x5t := ms.text? "x5t"
    x5tS256 := ms.text? "x5t#S256" }

/-- A member with a key, or none. -/
def jwkMember? : Option Jwk → Members
  | some k => [("jwk", k.toValue)]
  | none => []

/-- A header as an object; absent fields are left out. -/
def toValue (h : Header) : Value :=
  .object (textMember? "typ" h.typ ++ textMember "alg" h.algorithm.name ++
    textMember? "cty" h.cty ++ textMember? "jku" h.jku ++ jwkMember? h.jwk ++
    textMember? "kid" h.kid ++ textMember? "x5u" h.x5u ++ textsMember? "x5c" h.x5c ++
    textMember? "x5t" h.x5t ++ textMember? "x5t#S256" h.x5tS256)

/-- The header of a token that is signed with a key of a given identifier. -/
def signing (kid : Option String) : Header :=
  { typ := some "JWT", algorithm := .rs256, cty := none, jku := none, jwk := none, kid := kid,
    x5u := none, x5c := none, x5t := none, x5tS256 := none }

end Header

end SbomGate.Token
