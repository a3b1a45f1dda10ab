import SbomGate.Keys.Fault
import SbomGate.Token.Compact
/-!
# SbomGate.Keys.KeySet

**Key sets** as they are published, and the choice of the key for a token.

The first key with the name that a token gives is the one; keys with the same
name behind it are not looked at.
-/

namespace SbomGate.Keys

open Token

/-- The keys that were published at a place. -/
structure KeySet where
  url : String
  keys : List Jwk
  deriving DecidableEq

/-- The keys that a text spells. -/
def readKeys (text : Bytes) : Except Json.ReadError (List Jwk) :=
  (keySetSchema.readBytes text).map fun v => keysOfMembers v.members

/-- The key that verifies signatures, of a published one. -/
def signatureKey (k : Jwk) : Except Refusal VerificationKey :=
  match k.algorithm with
  | some a => if a = .signing .rs256 then signatureKeyOf k else .error (.algorithm a)
  | none => signatureKeyOf k
where
  /-- The key of the material, for a key that does not name another
  algorithm. -/
  signatureKeyOf (k : Jwk) : Except Refusal VerificationKey :=
    if k.use = some "enc" then .error .encryption
    else
      match k.material with
      | .rsa n e => ((rsaKey n e).mapError .components).map .rsa
      | .curvePoint _ _ _ => .error .curvePoint
      | .secret _ => .error .secret
      | .octetPair _ _ => .error .octetPair

namespace KeySet

/-- The first key of a name. -/
def find? (s : KeySet) (kid : String) : Option Jwk := s.keys.find? fun k => k.kid = some kid

/-- The key for the tokens that name it. -/
def verificationKey (s : KeySet) (kid : String) : Except Fault VerificationKey :=
  match s.find? kid with
  | none => .error (.keyNotFound kid)
  | some k => (signatureKey k).mapError (.unusableKey kid)

/-- The names of the keys, in the order of the set. -/
def kids (s : KeySet) : List (Option String) := s.keys.map (·.kid)

end KeySet

end SbomGate.Keys
