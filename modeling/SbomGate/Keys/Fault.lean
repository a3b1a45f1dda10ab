import SbomGate.Duration.Label
import SbomGate.Token.Rejection
/-!
# SbomGate.Keys.Fault

Why the **key of a token** cannot be found.
-/

namespace SbomGate.Keys

/-- Why a key verifies no accepted signatures. -/
inductive Refusal
  /-- It is meant for another algorithm. -/
  | algorithm (a : Token.KeyAlgorithm)
  /-- It is meant for encryption. -/
  | encryption
  /-- Its numbers cannot be read. -/
  | components (f : Token.Fault)
  /-- It is a point on a curve. -/
  | curvePoint
  /-- It is a shared secret. -/
  | secret
  /-- It is a pair of octet strings. -/
  | octetPair
  /-- A reason that a caller states in words. -/
  | stated (text : String)
  deriving DecidableEq

/-- The message of a refusal, without the name of the key. -/
def Refusal.message : Refusal → String
  | algorithm a => "declared algorithm " ++ a.label ++ ", expected RS256"
  | encryption => "key is published for encryption, not signatures"
  | components f => "invalid RSA components: " ++ f.message
  | curvePoint => "EC key"
  | secret => "symmetric key"
  | octetPair => "OKP key"
  | stated text => text

/-- Why no key is found. -/
inductive Fault
  /-- The request for the key set failed. -/
  | transport (url : String)
  /-- The key set did not come in time. -/
  | timeout (url : String) (limit : Duration)
  /-- The answer has a status other than success. -/
  | httpStatus (url : String) (status : Nat)
  /-- The answer is no key set. -/
  | malformed (url : String) (error : Json.ReadError)
  /-- The source of keys is not available. -/
  | unavailable (url message : String)
  /-- The token names no key. -/
  | missingKeyId
  /-- No key has the name that the token gives. -/
  | keyNotFound (kid : String)
  /-- The key verifies no accepted signatures. -/
  | unusableKey (kid : String) (reason : Refusal)
  deriving DecidableEq

/-- The message of a fault; what is wrong with a malformed key set is left out. -/
def Fault.message : Fault → String
  | transport url => "JWKS request to " ++ url ++ " failed"
  | timeout url limit => "JWKS request to " ++ url ++ " timed out after " ++ limit.label
  | httpStatus url status => "JWKS endpoint " ++ url ++ " returned HTTP " ++ toString status
  | malformed url _ => "JWKS document from " ++ url ++ " is malformed"
  | unavailable url message => "JWKS source " ++ url ++ " unavailable: " ++ message
  | missingKeyId => "Token header has no 'kid'"
  | keyNotFound kid => "Signing key not found: " ++ kid
  | unusableKey kid reason => "Signing key " ++ kid ++ " is unusable: " ++ reason.message

/-- The fault behind a fault, in words. -/
def Fault.cause? : Fault → Option String
  | malformed _ e => some e.message
  | _ => none

end SbomGate.Keys
