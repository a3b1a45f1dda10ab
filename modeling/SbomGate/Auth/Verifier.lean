import SbomGate.Auth.Credential
import SbomGate.Config.Verifier
import SbomGate.Keys.Cache
/-!
# SbomGate.Auth.Verifier

The **admission of callers** by the token they present.

The key set is looked up first, whatever the token looks like; then the name of
the key, the key, the algorithm, the signature and the claims are checked, and
the first failure decides.
-/

namespace SbomGate.Auth

open Token Keys

/-- The header of a token, with a failure to decode it as an error. -/
def readHeader (token : Bytes) : Except Error Header :=
  (headerOf token).mapError fun f => .tokenInvalid (.malformed (.header f))

/-- The name of the key that a header gives. -/
def requireKid (header : Header) : Except Error String :=
  match header.kid with
  | some kid => (checkKid kid).map fun _ => kid
  | none => .error (.keyResolution .missingKeyId)

/-- What a token says, checked with a key set at the time `now`. -/
def verifyWithKeys (set : KeySet) (e : Expectation) (now : Int) (token : Bytes) :
    Except Error VerifiedClaims := do
  let header ← readHeader token
  let kid ← requireKid header
  let key ← (set.verificationKey kid).mapError .keyResolution
  checkAlgorithm header.algorithm.name
  let claims ← (verifySignature key token).mapError .tokenInvalid
  (claims.verify e now).mapError .ofClaimFailure

/-- Verifies a token with the keys in a store. -/
def verifyToken (config : Config.Verifier) (now : Int) (s : Store) (token : String) :
    Store × Except Error VerifiedClaims :=
  match s.get config.keySetUrl with
  | (s, .ok set) => (s, verifyWithKeys set config.expectation now (bytesOf token))
  | (s, .error f) => (s, .error (.keyResolution f))

/-- Verifies a credential with the keys in a store. -/
def verify (config : Config.Verifier) (now : Int) (s : Store) (credential : Option String) :
    Store × Except Error VerifiedClaims :=
  match bearerToken credential with
  | .ok token => verifyToken config now s token
  | .error e => (s, .error e)

end SbomGate.Auth
