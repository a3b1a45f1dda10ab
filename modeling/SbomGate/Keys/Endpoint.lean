import SbomGate.Http.Message
import SbomGate.Http.Reply
import SbomGate.Keys.KeySet
import SbomGate.Url.Parser
/-!
# SbomGate.Keys.Endpoint

Key sets from an **endpoint** that answers over HTTP: the request that asks for
one, and what follows from what comes back.
-/

namespace SbomGate.Keys

open Token Http

/-- The schemes of URLs that key sets are fetched from. -/
def endpointSchemes : List String := ["http", "https"]

/-- The request for the key set at a place, if the place is an endpoint. -/
def request? (url : String) : Option Request :=
  match Url.parse url with
  | .ok u =>
    if u.scheme ∈ endpointSchemes then
      some { method := "GET", target := u.target,
             headers := [("accept", bytesOf "application/json")], body := [] }
    else none
  | .error _ => none

/-- What comes back from an endpoint. -/
inductive Feedback
  /-- These bytes, and then the end of the connection. -/
  | bytes (sent : Bytes)
  /-- Nothing within the limit of time. -/
  | silence
  deriving DecidableEq

/-- The key set in a reply. A reply without success is a fault before its body
is looked at. -/
def keysOfReply (url : String) (r : Reply) : Except Fault (List Jwk) :=
  if r.status < 200 ∨ 300 ≤ r.status then .error (.httpStatus url r.status)
  else
    match r.body with
    | none => .error (.transport url)
    | some body => (readKeys body).mapError (.malformed url)

/-- The key set of an endpoint from what comes back of it. -/
def keysOfFeedback (url : String) (limit : Duration) : Feedback → Except Fault (List Jwk)
  | .silence => .error (.timeout url limit)
  | .bytes sent =>
    match Reply.ofBytes? sent with
    | some r => keysOfReply url r
    | none => .error (.transport url)

/-- Asks the endpoint at a place; `feedback` says what comes back of the
request. -/
def fetchFrom (url : String) (limit : Duration) (feedback : Request → Feedback) :
    Except Fault (List Jwk) :=
  match request? url with
  | some r => keysOfFeedback url limit (feedback r)
  | none => .error (.transport url)

end SbomGate.Keys
