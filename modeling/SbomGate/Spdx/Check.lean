import SbomGate.Spdx.Problem
import SbomGate.Text.Blank
import SbomGate.Url.Parser
/-!
# SbomGate.Spdx.Check

The **rules for the required content** of a document, each with the problems
it finds. `check` applies all of them, so a submitter sees every problem at
once.
-/

namespace SbomGate.Spdx

open Json

/-- A required string field that has to satisfy a rule of its own. -/
def checkText (members : Members) (field : String) (rule : String → List Problem) :
    List Problem :=
  match members.get? field with
  | none => [.missing field]
  | some (.string s) => rule s
  | some v => [.notText field v.kindName]

/-- The version is a supported one. -/
def checkVersion (version : String) : List Problem :=
  if version ∈ supportedVersions then [] else [.unsupportedVersion version]

/-- The identifier starts as it must. -/
def checkId (id : String) : List Problem :=
  if idStart.toList.isPrefixOf id.toList then [] else [.badId id]

/-- The namespace is an absolute URI. -/
def checkNamespace (uri : String) : List Problem :=
  match Url.parse uri with
  | .ok _ => []
  | .error flaw => [.badNamespace uri flaw]

/-- A name of nothing but blanks is none. -/
def checkName (name : String) : List Problem := if Text.blank name then [.blankName] else []

/-- Every package from `index` on is an object. -/
def checkEntries (index : Nat) : List Value → List Problem
  | [] => []
  | v :: vs =>
    (if v.isObject then [] else [.packageNotObject index v.kindName]) ++
      checkEntries (index + 1) vs

/-- The packages, if there are any, are a list of objects. -/
def checkPackages (members : Members) : List Problem :=
  match members.get? "packages" with
  | none => []
  | some (.array entries) => checkEntries 0 entries
  | some v => [.packagesNotList v.kindName]

/-- Every violation of the rules among the members of a document. -/
def check (members : Members) : List Problem :=
  checkText members "spdxVersion" checkVersion ++ checkText members "SPDXID" checkId ++
    checkText members "documentNamespace" checkNamespace ++
    checkText members "name" checkName ++ checkPackages members

end SbomGate.Spdx
