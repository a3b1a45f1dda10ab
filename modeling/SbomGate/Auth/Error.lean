import SbomGate.Keys.Fault
import SbomGate.Token.Claims
/-!
# SbomGate.Auth.Error

Why a **caller is not admitted**: four categories, which are all that a caller
learns, with the reasons inside for the log.
-/

namespace SbomGate.Auth

/-- Why a caller is not admitted. -/
inductive Error
  /-- There is no credential. -/
  | unauthenticated
  /-- The key of the token cannot be found. -/
  | keyResolution (f : Keys.Fault)
  /-- The token is not accepted. -/
  | tokenInvalid (r : Token.Rejection)
  /-- The token has expired. -/
  | tokenExpired
  deriving DecidableEq

/-- The categories that a caller learns. -/
inductive Category
  /-- There is no credential. -/
  | unauthenticated
  /-- The key of the token cannot be found. -/
  | keyResolution
  /-- The token is not accepted. -/
  | tokenInvalid
  /-- The token has expired. -/
  | tokenExpired
  deriving DecidableEq, Repr

namespace Error

/-- The category of an error, which is all that a caller is told of it. -/
def category : Error → Category
  | unauthenticated => .unauthenticated
  | keyResolution _ => .keyResolution
  | tokenInvalid _ => .tokenInvalid
  | tokenExpired => .tokenExpired

/-- The message of an error, with its cause; a caller is told the category alone. -/
def message : Error → String
  | unauthenticated => "Missing or malformed Authorization header"
  | keyResolution f => "Key resolution failed: " ++ f.message
  | tokenInvalid r => "Invalid token: " ++ r.message
  | tokenExpired => "Token expired"

/-- The wordings of an error and of those behind it, the outermost first. -/
def chain (e : Error) : List String :=
  e.message ::
    match e with
    | keyResolution f => f.message :: f.cause?.toList
    | tokenInvalid r => [r.message]
    | unauthenticated | tokenExpired => []

/-- The error that a failure of the claim checks is. -/
def ofClaimFailure : Token.ClaimFailure → Error
  | .rejected r => tokenInvalid r
  | .expired => tokenExpired

end Error

end SbomGate.Auth
