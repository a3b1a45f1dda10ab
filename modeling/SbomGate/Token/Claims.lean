import SbomGate.Json.Projection
import SbomGate.Token.Rejection
/-!
# SbomGate.Token.Claims

The **claims** of a token: as they are found in it, and as they are once they
have been checked.

Design points:

* `Claims` holds what was found, with every claim optional, so that a missing
  claim is reported as such and not as a decoding error. Claims that identify
  the sender must have the right type; all others are dropped when their type
  is wrong, numbers excepted, which become text.
* `VerifiedClaims.ofClaims` applies the checks in their fixed order. Expiry
  comes last, so an expired token is reported as expired only if it is right
  in every other way.
* Times are whole seconds; a fraction is rounded down and a time outside the
  64-bit range is moved to its end.
-/

namespace SbomGate.Token

open Json

/-! ### Lenient claims -/

/-- The text of a lenient claim. -/
def lenientText : Value → Option String
  | .string s => some s
  | .number n => some n.text
  | _ => none

/-- Moves an integer into the signed 64-bit range. -/
def clampTime (i : Int) : Int := max (-0x8000000000000000) (min i 0x7FFFFFFFFFFFFFFF)

/-- The time of a lenient claim. -/
def lenientTime : Value → Option Int
  | .number (.whole i) => some (clampTime i)
  | .number (.real x) => some (clampTime x.floor)
  | _ => none

/-! ### Claims as they are found -/

/-- The claims of a token before any check. -/
structure Claims where
  iss : Option String
  /-- The audience, whatever its type. -/
  aud : Option Value
  exp : Option Int
  repository : Option String
  actor : Option String
  sub : Option String
  /-- The owner of the repository. -/
  repositoryOwner : Option String
  /-- The number of the repository. -/
  repositoryId : Option String
  /-- The branch or tag that the workflow ran on. -/
  ref : Option String
  /-- The commit that the workflow ran on. -/
  sha : Option String
  /-- The name of the workflow. -/
  workflow : Option String
  /-- The event that started the workflow. -/
  eventName : Option String
  /-- The number of the run. -/
  runId : Option String
  /-- The identifier of the token. -/
  jti : Option String
  iat : Option Int
  /-- The time before which the token is not valid. -/
  nbf : Option Int
  deriving DecidableEq

/-- The names of the claims in the order of their declaration. -/
def claimNames : List String :=
  ["iss", "aud", "exp", "repository", "actor", "sub", "repository_owner", "repository_id", "ref",
    "sha", "workflow", "event_name", "run_id", "jti", "iat", "nbf"]

namespace Claims

/-- The claims that must be strings where they are present. -/
def strictNames : List String := ["iss", "repository", "actor"]

/-- The form of a payload. The strict claims have to be texts or null; the
others may be anything. -/
def schema : Schema :=
  .record "JwtClaims" false
    (claimNames.map fun name =>
      (name, .defaulted, if name ∈ strictNames then .optional .string else .anything))

/-- The text of a lenient claim among members. -/
def textOf (ms : Members) (name : String) : Option String := (ms.get? name).bind lenientText

/-- The time of a lenient claim among members. -/
def timeOf (ms : Members) (name : String) : Option Int := (ms.get? name).bind lenientTime

/-- The audience among members; null stands for none. -/
def audienceOf (ms : Members) : Option Value := (ms.get? "aud").filter (· ≠ .null)

/-- Claims from the members of a projection; lenient ones of a wrong type are dropped. -/
def ofMembers (ms : Members) : Claims :=
  { iss := ms.text? "iss"
    aud := audienceOf ms
    exp := timeOf ms "exp"
    repository := ms.text? "repository"
    actor := ms.text? "actor"
    sub := textOf ms "sub"
    repositoryOwner := textOf ms "repository_owner"
    repositoryId := textOf ms "repository_id"
    ref := textOf ms "ref"
    sha := textOf ms "sha"
    workflow := textOf ms "workflow"
    eventName := textOf ms "event_name"
    runId := textOf ms "run_id"
    jti := textOf ms "jti"
    iat := timeOf ms "iat"
    nbf := timeOf ms "nbf" }

/-- The claims that a text spells. -/
def ofBytes (text : Bytes) : Except ReadError Claims :=
  (schema.readBytes text).map fun v => ofMembers v.members

end Claims

/-! ### Claims that have been checked -/

/-- The claims of a token that passed every check. -/
structure VerifiedClaims where
  /-- The issuer, which is the expected one. -/
  iss : String
  /-- The audience, which is the expected one. -/
  aud : String
  /-- The time of expiry, which was still to come. -/
  exp : Int
  repository : String
  actor : String
  sub : Option String
  /-- The owner of the repository. -/
  repositoryOwner : Option String
  /-- The number of the repository. -/
  repositoryId : Option String
  /-- The branch or tag that the workflow ran on. -/
  ref : Option String
  /-- The commit that the workflow ran on. -/
  sha : Option String
  /-- The name of the workflow. -/
  workflow : Option String
  /-- The event that started the workflow. -/
  eventName : Option String
  /-- The number of the run. -/
  runId : Option String
  /-- The identifier of the token. -/
  jti : Option String
  iat : Option Int
  /-- The time before which the token is not valid. -/
  nbf : Option Int
  deriving DecidableEq

namespace VerifiedClaims

/-- The required claims that are strings. -/
def requiredTexts : List String := ["iss", "aud", "repository", "actor"]

/-- The form of one verified claim. -/
def fieldOf (name : String) : String × Presence × Schema :=
  if name ∈ requiredTexts then (name, .required, .string)
  else if name = "exp" then (name, .required, .int64)
  else if name ∈ ["iat", "nbf"] then (name, .defaulted, .optional .int64)
  else (name, .defaulted, .optional .string)

/-- The form of verified claims. -/
def schema : Schema := .record "VerifiedClaims" false (claimNames.map fieldOf)

/-- Verified claims from the members of a projection. -/
def ofMembers (ms : Members) : VerifiedClaims :=
  { iss := ms.text "iss"
    aud := ms.text "aud"
    exp := (ms.whole? "exp").getD 0
    repository := ms.text "repository"
    actor := ms.text "actor"
    sub := ms.text? "sub"
    repositoryOwner := ms.text? "repository_owner"
    repositoryId := ms.text? "repository_id"
    ref := ms.text? "ref"
    sha := ms.text? "sha"
    workflow := ms.text? "workflow"
    eventName := ms.text? "event_name"
    runId := ms.text? "run_id"
    jti := ms.text? "jti"
    iat := ms.whole? "iat"
    nbf := ms.whole? "nbf" }

/-- The verified claims that a text spells. -/
def ofBytes (text : Bytes) : Except ReadError VerifiedClaims :=
  (schema.readBytes text).map fun v => ofMembers v.members

/-- Verified claims as an object; absent ones are left out. -/
def toValue (c : VerifiedClaims) : Value :=
  .object (textMember "iss" c.iss ++ textMember "aud" c.aud ++ wholeMember? "exp" (some c.exp) ++
    textMember "repository" c.repository ++ textMember "actor" c.actor ++
    textMember? "sub" c.sub ++ textMember? "repository_owner" c.repositoryOwner ++
    textMember? "repository_id" c.repositoryId ++ textMember? "ref" c.ref ++
    textMember? "sha" c.sha ++ textMember? "workflow" c.workflow ++
    textMember? "event_name" c.eventName ++ textMember? "run_id" c.runId ++
    textMember? "jti" c.jti ++ wholeMember? "iat" c.iat ++ wholeMember? "nbf" c.nbf)

end VerifiedClaims

/-! ### The checks -/

/-- What the claims of a token are compared with. -/
structure Expectation where
  issuer : String
  audience : String
  deriving DecidableEq

/-- Why the claims of a readable token are not accepted. -/
inductive ClaimFailure
  /-- A claim is absent or wrong. -/
  | rejected (r : Rejection)
  /-- Only the time of expiry has come. -/
  | expired
  deriving DecidableEq

/-- The text of a claim that must not be empty. -/
def requireText (name : String) (claim : Option String) : Except ClaimFailure String :=
  match claim with
  | some s => if s.isEmpty then .error (.rejected (.missingClaim name)) else .ok s
  | none => .error (.rejected (.missingClaim name))

/-- The issuer is the expected one. -/
def checkIssuer (expected : String) (claim : Option String) : Except ClaimFailure String :=
  (requireText "iss" claim).bind fun iss =>
    if iss = expected then .ok iss
    else .error (.rejected (.invalidIssuer (.unequal expected iss)))

/-- The audience is one string, the expected one. -/
def checkAudience (expected : String) (claim : Option Value) : Except ClaimFailure String :=
  match claim with
  | none | some .null => .error (.rejected (.missingClaim "aud"))
  | some (.string aud) =>
    if aud = expected then .ok aud
    else .error (.rejected (.invalidAudience (.unequal expected aud)))
  | some other => .error (.rejected (.invalidAudience (.notText other.text)))

/-- The time of expiry is there. -/
def requireTime (name : String) (claim : Option Int) : Except ClaimFailure Int :=
  match claim with
  | some t => .ok t
  | none => .error (.rejected (.missingClaim name))

/-- Checks claims at the time `now`: issuer, audience, who submits, expiry. -/
def Claims.verify (c : Claims) (e : Expectation) (now : Int) :
    Except ClaimFailure VerifiedClaims := do
  let iss ← checkIssuer e.issuer c.iss
  let aud ← checkAudience e.audience c.aud
  let repository ← requireText "repository" c.repository
  let actor ← requireText "actor" c.actor
  let exp ← requireTime "exp" c.exp
  if exp ≤ now then throw .expired
  return { iss, aud, exp, repository, actor, sub := c.sub, repositoryOwner := c.repositoryOwner,
           repositoryId := c.repositoryId, ref := c.ref, sha := c.sha, workflow := c.workflow,
           eventName := c.eventName, runId := c.runId, jti := c.jti, iat := c.iat, nbf := c.nbf }

end SbomGate.Token
