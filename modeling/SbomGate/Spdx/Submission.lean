import SbomGate.Json.Reader
import SbomGate.Spdx.Check
import SbomGate.Spdx.Document
/-!
# SbomGate.Spdx.Submission

From the **bytes of a submission** to a document: the text is read, an envelope
is taken off, the rules are checked, and the document is read off the value
that satisfies them.

The submission keeps the value as it was received beside the document, so
nothing that the document leaves out is lost.
-/

namespace SbomGate.Spdx

open Json

/-! ### Envelopes -/

/-- The name of the member that an envelope holds its document in. -/
def envelopeName : String := "sbom"

/-- The document in an envelope, or `none` for a value that is no envelope.
An envelope is an object whose `sbom` is an object; whatever else it holds is
dropped. -/
def unwrap? (v : Value) : Option Value :=
  match v.member? envelopeName with
  | some (.object ms) => some (.object ms)
  | _ => none

/-- The value without its envelope, if it has one. -/
def unwrap (v : Value) : Value := (unwrap? v).getD v

/-- A value in an envelope. -/
def wrap (v : Value) : Value := .object [(envelopeName, v)]

/-- The text of a document in an envelope. -/
def wrapText (v : Value) : String := (wrap v).text

/-! ### Submissions -/

/-- A document that satisfies the rules, with the value it was read from. -/
structure Submission where
  document : Document
  /-- The value as received, without its envelope. -/
  raw : Value
  deriving DecidableEq

/-- How many packages were submitted. -/
def Submission.packageCount (s : Submission) : Nat := s.document.packages.length

/-- The submission that a value stands for. -/
def Submission.ofValue (raw : Value) : Except Rejection Submission :=
  match raw with
  | .object members =>
    match check members with
    | [] =>
      match Document.schema.project raw with
      | .ok projection => .ok ⟨Document.ofMembers projection.members, raw⟩
      | .error m => .error (.of (.mistyped m))
    | problems => .error ⟨problems⟩
  | v => .error (.of (.notObject v.kindName))

/-- The value of a text; a text that is no JSON has this one problem. -/
def decode (text : Bytes) : Except Rejection Value :=
  (Value.ofBytes text).mapError fun e => .of (.notJson e)

/-- The submission that a text without an envelope stands for. -/
def Submission.ofDocument (text : Bytes) : Except Rejection Submission :=
  (decode text).bind Submission.ofValue

/-- The submission that a text stands for, with or without an envelope. -/
def Submission.ofBytes (text : Bytes) : Except Rejection Submission :=
  (decode text).bind fun v => Submission.ofValue (unwrap v)

end SbomGate.Spdx
