import SbomGate.Auth.Verifier
import SbomGate.Gate.Refusal
/-!
# SbomGate.Gate.Router

The **gate**: which requests it knows and how it answers them.

A submission goes through four steps: the caller is admitted, the body fits,
the document satisfies the rules, the sink takes it in. The first step that
fails decides the response, and no later step is taken.
-/

namespace SbomGate

/-- The state of a gate. -/
structure Gate where
  /-- Whose tokens are accepted. -/
  verifier : Config.Verifier
  /-- Where keys are looked up. -/
  store : Keys.Store
  sink : Intake.Sink
  /-- The greatest length of a body. -/
  bodyLimit : Nat

namespace Gate

open Json Http

/-- The version that the gate reports. -/
def version : String := "0.1.0"

/-- The credential of a request: its first one, if it can be read as text. -/
def credential (r : Request) : Option String := (r.header? "authorization").bind headerText?

/-- A response with a JSON body. -/
def jsonResponse (status : Nat) (body : Value) : Response :=
  ⟨status, [Refusal.jsonHeader], body.text⟩

/-- The submission in a body, which may have as many bytes as the limit but not one more. -/
def readBody (limit : Nat) (body : Bytes) : Except Refusal Spdx.Submission :=
  if limit < body.length then .error .bodyTooLong
  else (Spdx.Submission.ofBytes body).mapError .invalid

/-- The steps behind the admission of a caller. -/
def takeIn (g : Gate) (claims : Token.VerifiedClaims) (body : Bytes) :
    Gate × Except Refusal Intake.Receipt :=
  match readBody g.bodyLimit body with
  | .error r => (g, .error r)
  | .ok submission =>
    let (sink, result) := g.sink.accept ⟨claims, submission⟩
    ({ g with sink }, result.mapError .sink)

/-- All steps of a submission at the time `now`. -/
def submit (g : Gate) (now : Int) (r : Request) : Gate × Except Refusal Intake.Receipt :=
  match Auth.verify g.verifier now g.store (credential r) with
  | (store, .ok claims) => { g with store }.takeIn claims r.body
  | (store, .error e) => ({ g with store }, .error (.auth e))

/-- The response to a submission, taken in or refused. -/
def submissionResponse : Except Refusal Intake.Receipt → Response
  | .ok receipt => jsonResponse 202 receipt.toValue
  | .error refusal => refusal.response

/-- The report that the gate is up. -/
def healthReport : Value := .object (textMember "status" "ok" ++ textMember "version" version)

/-- The response to a question for the health of the gate; a question for the
head of it has no body. -/
def healthResponse (method : String) : Response :=
  let full := jsonResponse 200 healthReport
  if method = "GET" then full
  else if method = "HEAD" then { full with body := "" }
  else .empty 405 [("allow", "GET,HEAD")]

/-- The path that takes submissions. -/
def submissionPath : String := "/ingest/sbom"

/-- The path of the health report. -/
def healthPath : String := "/health"

/-- Answers a request at the time `now`. -/
def handle (g : Gate) (now : Int) (r : Request) : Gate × Response :=
  if r.path = submissionPath then
    if r.method = "POST" then
      let (g, result) := g.submit now r
      (g, submissionResponse result)
    else (g, .empty 405 [("allow", "POST")])
  else if r.path = healthPath then (g, healthResponse r.method)
  else (g, .empty 404 [])

end Gate

end SbomGate
