import SbomGate.Json.Fault
import SbomGate.Url.Basic
/-!
# SbomGate.Spdx.Problem

What can be **wrong with a submitted document**, one cause each, and the
rejection that lists them.
-/

namespace SbomGate.Spdx

open Json

/-- The versions of the format that are read. -/
def supportedVersions : List String := ["SPDX-2.2", "SPDX-2.3"]

/-- What every identifier of an SPDX element starts with. -/
def idStart : String := "SPDXRef-"

/-- A violated rule. -/
inductive Problem
  /-- The text is not JSON. -/
  | notJson (error : ReadError)
  /-- The document is a value of this kind and no object. -/
  | notObject (kind : String)
  /-- A required field is absent. -/
  | missing (field : String)
  /-- A required field is a value of this kind and no string. -/
  | notText (field kind : String)
  /-- The version is none of the supported ones. -/
  | unsupportedVersion (version : String)
  /-- The identifier does not start as it must. -/
  | badId (id : String)
  /-- The namespace is not an absolute URI. -/
  | badNamespace (uri : String) (flaw : Url.Flaw)
  /-- The name holds nothing but blanks. -/
  | blankName
  /-- The packages are a value of this kind and no array. -/
  | packagesNotList (kind : String)
  /-- A package is a value of this kind and no object. -/
  | packageNotObject (index : Nat) (kind : String)
  /-- A field does not have the type that the format gives it. -/
  | mistyped (mismatch : Mismatch)
  /-- A problem that a caller states in words. -/
  | stated (text : String)
  deriving DecidableEq

/-- The message of a problem. It starts with the member that the problem is
about, if there is one. -/
def Problem.message : Problem → String
  | notJson e => "document is not valid JSON: " ++ e.message
  | notObject kind => "document must be a JSON object, found " ++ kind
  | missing field => field ++ ": field required"
  | notText field kind => field ++ ": must be a string, found " ++ kind
  | unsupportedVersion v =>
    "spdxVersion: unsupported version '" ++ v ++ "', expected one of " ++
      ", ".intercalate supportedVersions
  | badId id => "SPDXID: '" ++ id ++ "' must start with '" ++ idStart ++ "'"
  | badNamespace uri flaw =>
    "documentNamespace: '" ++ uri ++ "' is not an absolute URI (" ++ flaw.message ++ ")"
  | blankName => "name: must not be empty"
  | packagesNotList kind => "packages: must be an array, found " ++ kind
  | packageNotObject index kind =>
    "packages[" ++ toString index ++ "]: must be an object, found " ++ kind
  | mistyped m => "document: " ++ m.message
  | stated text => text

/-- Why a document is rejected: every violated rule. -/
structure Rejection where
  /-- The problems in the order of the rules. -/
  problems : List Problem
  deriving DecidableEq

namespace Rejection

/-- A rejection for one problem alone. -/
def of (p : Problem) : Rejection := ⟨[p]⟩

/-- What is said of every rejection. -/
def detail : String := "Invalid SPDX document."

/-- The messages of the problems, in the order of the checks. -/
def messages (r : Rejection) : List String := r.problems.map Problem.message

/-- What the log says of a rejection. -/
def message (r : Rejection) : String :=
  detail ++ " (" ++ toString r.problems.length ++ " problem(s))"

end Rejection

end SbomGate.Spdx
