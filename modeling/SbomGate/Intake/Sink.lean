import SbomGate.Spdx.Submission
import SbomGate.Token.Claims
/-!
# SbomGate.Intake.Sink

**Sinks**, which take submissions in and answer with a receipt.

A sink remembers what it was offered, so that it can be said of a run which
submissions reached it, and with whose claims.
-/

namespace SbomGate.Intake

open Json

/-- The answer to a submission that was taken in. -/
structure Receipt where
  /-- What becomes of the submission. -/
  message : String
  /-- The repository that submitted it. -/
  repository : String
  /-- The number of packages in it. -/
  packageCount : Nat
  deriving DecidableEq

namespace Receipt

/-- The receipt for a submission that is queued. -/
def queued (repository : String) (packageCount : Nat) : Receipt :=
  ⟨"queued", repository, packageCount⟩

/-- A receipt as it is sent to the caller. -/
def toValue (r : Receipt) : Value :=
  .object (textMember "message" r.message ++ textMember "repository" r.repository ++
    wholeMember? "package_count" (some r.packageCount))

end Receipt

/-- Why a sink does not take a submission in. -/
inductive Fault
  /-- The sink cannot be reached at the moment. -/
  | unavailable (message : String)
  /-- The sink failed. -/
  | internal (message : String)
  deriving DecidableEq, Repr

/-- The message of a fault; a caller does not see it. -/
def Fault.message : Fault → String
  | unavailable message => "submission sink unavailable: " ++ message
  | internal message => "submission sink failed: " ++ message

/-- A submission with the claims of who submits it. -/
structure Offer where
  claims : Token.VerifiedClaims
  submission : Spdx.Submission
  deriving DecidableEq

/-- A sink. -/
structure Sink where
  /-- What the sink answers to an offer. -/
  answer : Offer → Except Fault Receipt
  /-- What it was offered so far, the first offer first. -/
  offers : List Offer

namespace Sink

/-- A sink that takes everything in. -/
def accepting : Sink :=
  { answer := fun o => .ok (.queued o.claims.repository o.submission.packageCount), offers := [] }

/-- A sink that takes nothing in. -/
def failing (f : Fault) : Sink := { answer := fun _ => .error f, offers := [] }

/-- Offers a submission to a sink. -/
def accept (s : Sink) (o : Offer) : Sink × Except Fault Receipt :=
  ({ s with offers := s.offers ++ [o] }, s.answer o)

end Sink

end SbomGate.Intake
