import SbomGate.Auth.Error
import SbomGate.Http.Message
import SbomGate.Intake.Sink
import SbomGate.Json.Printer
/-!
# SbomGate.Gate.Refusal

Why a **submission is refused**, and the response that says so.

Of a failed admission the response tells the category and nothing else; the
reason stays inside. A document that breaks the rules is answered with all of
them.
-/

namespace SbomGate.Gate

open Json Http

/-- Why a submission is refused. -/
inductive Refusal
  /-- The caller is not admitted. -/
  | auth (e : Auth.Error)
  /-- The body is longer than the limit. -/
  | bodyTooLong
  /-- The document breaks the rules. -/
  | invalid (r : Spdx.Rejection)
  /-- The sink does not take the document in. -/
  | sink (f : Intake.Fault)
  deriving DecidableEq

namespace Refusal

/-- What is said of a body over the limit. -/
def bodyTooLongText : String := "Failed to buffer the request body: length limit exceeded"

/-- The wordings of a refusal and of what is behind it, the outermost first. -/
def chain : Refusal → List String
  | auth e => e.chain
  | bodyTooLong => [bodyTooLongText]
  | invalid r => [r.message]
  | sink f => [f.message]

/-- The status of a failed admission. -/
def statusOf : Auth.Category → Nat
  | .unauthenticated => 401
  | .keyResolution | .tokenInvalid | .tokenExpired => 403

/-- The status of the response to a refusal. -/
def status : Refusal → Nat
  | auth e => statusOf e.category
  | bodyTooLong => 413
  | invalid _ => 422
  | sink _ => 500

/-- What a caller is told of a failed admission. -/
def notice : Auth.Category → String
  | .unauthenticated => "Missing or malformed Authorization header. Expected: Bearer <oidc-token>"
  | .keyResolution => "Unable to retrieve or select JWKS signing key."
  | .tokenInvalid => "OIDC token validation failed."
  | .tokenExpired => "OIDC token has expired."

/-- What every JSON response says of its body. -/
def jsonHeader : String × String := ("content-type", "application/json")

/-- A caller without a credential is told which one to bring. -/
def challengeOf : Auth.Category → List (String × String)
  | .unauthenticated => [("www-authenticate", "Bearer")]
  | .keyResolution | .tokenInvalid | .tokenExpired => []

/-- The body that names an error. -/
def errorBody (text : String) : Value := .object (textMember "error" text)

/-- The body of the response to a refusal. Only the problems of a document are told. -/
def body : Refusal → Value
  | auth e => errorBody (notice e.category)
  | bodyTooLong => errorBody bodyTooLongText
  | invalid r =>
    .object (textMember "error" Spdx.Rejection.detail ++
      textsMember? "messages" (some r.messages))
  | sink _ => errorBody "Internal server error"

/-- The headers of the response to a refusal. -/
def headers : Refusal → List (String × String)
  | auth e => jsonHeader :: challengeOf e.category
  | bodyTooLong | invalid _ | sink _ => [jsonHeader]

/-- The response to a refused submission. -/
def response (r : Refusal) : Response := ⟨r.status, r.headers, r.body.text⟩

end Refusal

end SbomGate.Gate
