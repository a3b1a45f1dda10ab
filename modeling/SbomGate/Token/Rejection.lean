import SbomGate.Base64Url
import SbomGate.Json.Fault
import SbomGate.Token.Algorithm
/-!
# SbomGate.Token.Rejection

Why a **token is not accepted**: first what can go wrong in reading and
verifying signed tokens of any kind, then the rejections that a service makes
of it.
-/

namespace SbomGate.Token

/-- What can go wrong with a signed token or its key. -/
inductive Fault
  /-- The token does not have three parts. -/
  | invalidToken
  /-- The signature does not fit. -/
  | invalidSignature
  /-- A key on a curve is unusable. -/
  | invalidEcdsaKey
  /-- An RSA key is unusable. -/
  | invalidRsaKey (reason : String)
  /-- A signature could not be made. -/
  | rsaFailedSigning
  /-- A name is not that of an algorithm. -/
  | invalidAlgorithmName
  /-- A key is not in the expected form. -/
  | invalidKeyFormat
  /-- A claim that has to be there is not. -/
  | missingRequiredClaim (name : String)
  /-- The token has expired. -/
  | expiredSignature
  /-- The issuer is another one. -/
  | invalidIssuer
  /-- The audience is another one. -/
  | invalidAudience
  /-- The subject is another one. -/
  | invalidSubject
  /-- The token is not valid yet. -/
  | immatureSignature
  /-- The algorithm is not one of those allowed. -/
  | invalidAlgorithm
  /-- No algorithm is allowed. -/
  | missingAlgorithm
  /-- A part of the token is not Base64. -/
  | base64 (flaw : Base64Url.Flaw)
  /-- A part of the token is not the JSON it has to be. -/
  | json (error : Json.ReadError)
  deriving DecidableEq

/-- The message of a fault. -/
def Fault.message : Fault → String
  | invalidToken => "InvalidToken"
  | invalidSignature => "InvalidSignature"
  | invalidEcdsaKey => "InvalidEcdsaKey"
  | invalidRsaKey reason => "RSA key invalid: " ++ reason
  | rsaFailedSigning => "RsaFailedSigning"
  | invalidAlgorithmName => "InvalidAlgorithmName"
  | invalidKeyFormat => "InvalidKeyFormat"
  | missingRequiredClaim name => "Missing required claim: " ++ name
  | expiredSignature => "ExpiredSignature"
  | invalidIssuer => "InvalidIssuer"
  | invalidAudience => "InvalidAudience"
  | invalidSubject => "InvalidSubject"
  | immatureSignature => "ImmatureSignature"
  | invalidAlgorithm => "InvalidAlgorithm"
  | missingAlgorithm => "MissingAlgorithm"
  | base64 flaw => "Base64 error: " ++ flaw.message
  | json e => "JSON error: " ++ e.message

/-- Why a token is no decodable token. -/
inductive Malformation
  /-- Its header cannot be decoded. -/
  | header (f : Fault)
  /-- It cannot be decoded. -/
  | token (f : Fault)
  /-- A reason that a caller states in words. -/
  | stated (text : String)
  deriving DecidableEq

/-- What is malformed about a token, in words. -/
def Malformation.message : Malformation → String
  | header f => "Failed to decode JWT header: " ++ f.message
  | token f => f.message
  | stated text => text

/-- Why the algorithm of a token is not accepted. -/
inductive AlgorithmRefusal
  /-- It is forbidden. -/
  | forbidden (name : String)
  /-- It is not the one that is accepted. -/
  | unaccepted (name : String)
  /-- It does not go with the key. -/
  | mismatch
  /-- A reason that a caller states in words. -/
  | stated (text : String)
  deriving DecidableEq

/-- Why an algorithm is refused, in words. -/
def AlgorithmRefusal.message : AlgorithmRefusal → String
  | forbidden name => "Algorithm '" ++ name ++ "' is not allowed for security reasons"
  | unaccepted name =>
    "Algorithm '" ++ name ++ "' is not in accepted list (only RS256 is supported)"
  | mismatch => "algorithm not accepted"
  | stated text => text

/-- How a claim differs from what it should be. -/
inductive ClaimRefusal
  /-- It is another text than the expected one. -/
  | unequal (expected got : String)
  /-- It is no single string but this JSON. -/
  | notText (json : String)
  /-- A reason that a caller states in words. -/
  | stated (text : String)
  deriving DecidableEq

/-- Why a claim is refused, in words. -/
def ClaimRefusal.message : ClaimRefusal → String
  | unequal expected got => "expected '" ++ expected ++ "', got '" ++ got ++ "'"
  | notText json => "expected a single string, got " ++ json
  | stated text => text

/-- Why a token is rejected although its key is known. -/
inductive Rejection
  /-- It is no decodable token. -/
  | malformed (reason : Malformation)
  /-- Its header names an algorithm that is not accepted. -/
  | unsupportedAlgorithm (reason : AlgorithmRefusal)
  /-- Its signature does not fit. -/
  | invalidSignature
  /-- It comes from another issuer. -/
  | invalidIssuer (reason : ClaimRefusal)
  /-- It is meant for another audience. -/
  | invalidAudience (reason : ClaimRefusal)
  /-- A required claim is absent or empty. -/
  | missingClaim (name : String)
  deriving DecidableEq

namespace Rejection

/-- The message of a rejection, which starts with its kind. -/
def message : Rejection → String
  | malformed reason => "malformed token: " ++ reason.message
  | unsupportedAlgorithm reason => "unsupported algorithm: " ++ reason.message
  | invalidSignature => "invalid signature"
  | invalidIssuer reason => "invalid issuer: " ++ reason.message
  | invalidAudience reason => "invalid audience: " ++ reason.message
  | missingClaim name => "missing claim: " ++ name

/-- The rejection that a fault leads to. -/
def ofFault : Fault → Rejection
  | .invalidSignature => invalidSignature
  | .invalidAlgorithm | .invalidAlgorithmName => unsupportedAlgorithm .mismatch
  | .invalidAudience => invalidAudience (.stated "audience mismatch")
  | .invalidIssuer => invalidIssuer (.stated "issuer mismatch")
  | f => malformed (.token f)

end Rejection

end SbomGate.Token
