import SbomGate.Json.Schema
/-!
# SbomGate.Spdx.Document

**SPDX documents** as far as this library looks into them: the identity of the
document, its packages and its relationships.

Design points:

* Each type comes with its `schema`, the total function `ofMembers` that makes
  a value of a projection, and `toValue`, which writes it with the names of
  the SPDX format in a fixed order. Absent members are left out, the packages
  of a document and the creators of its creation data are always written.
* Every field of a package is optional, so that an entry counts however little
  it says.
-/

namespace SbomGate.Spdx

open Json

/-! ### Schemas -/

/-- A text field that may be missing or null. -/
def optionalText (name : String) : String × Presence × Schema :=
  (name, .defaulted, .optional .string)

/-- A text field that has to be there. -/
def requiredText (name : String) : String × Presence × Schema := (name, .required, .string)

/-- A list field that may be missing. -/
def listField (name : String) (item : Schema) : String × Presence × Schema :=
  (name, .defaulted, .list item)

/-! ### Parts of a document -/

/-- When and by whom a document was made. -/
structure CreationInfo where
  created : Option String
  creators : List String
  deriving DecidableEq

namespace CreationInfo

/-- The form of creation data. -/
def schema : Schema :=
  .record "CreationInfo" false [optionalText "created", listField "creators" .string]

/-- Creation data from the members of a projection. -/
def ofMembers (ms : Members) : CreationInfo :=
  { created := ms.text? "created", creators := (ms.texts? "creators").getD [] }

/-- Creation data as an object. -/
def toValue (c : CreationInfo) : Value :=
  .object (textMember? "created" c.created ++ textsMember? "creators" (some c.creators))

end CreationInfo

/-- A reference from a package to the world outside the document. -/
structure ExternalRef where
  /-- The category, such as `PACKAGE-MANAGER`. -/
  category : String
  /-- The type, such as `purl`. -/
  type : String
  /-- What is referred to. -/
  locator : String
  deriving DecidableEq

namespace ExternalRef

/-- The form of an external reference. -/
def schema : Schema :=
  .record "ExternalRef" false
    [("referenceCategory", .defaulted, .string), requiredText "referenceType",
      requiredText "referenceLocator"]

/-- An external reference from its projection. -/
def ofMembers (ms : Members) : ExternalRef :=
  { category := ms.text "referenceCategory", type := ms.text "referenceType",
    locator := ms.text "referenceLocator" }

/-- A reference as an object. -/
def toValue (r : ExternalRef) : Value :=
  .object (textMember "referenceCategory" r.category ++ textMember "referenceType" r.type ++
    textMember "referenceLocator" r.locator)

end ExternalRef

/-- A digest of a package. -/
structure Checksum where
  /-- The algorithm, such as `SHA256`. -/
  algorithm : String
  /-- The digest in hexadecimal digits. -/
  digest : String
  deriving DecidableEq

namespace Checksum

/-- The form of a checksum. -/
def schema : Schema :=
  .record "Checksum" false [requiredText "algorithm", requiredText "checksumValue"]

/-- A checksum from the members of a projection. -/
def ofMembers (ms : Members) : Checksum :=
  { algorithm := ms.text "algorithm", digest := ms.text "checksumValue" }

/-- A checksum as an object. -/
def toValue (c : Checksum) : Value :=
  .object (textMember "algorithm" c.algorithm ++ textMember "checksumValue" c.digest)

end Checksum

/-- A package. -/
structure Package where
  /-- Its identifier in the document. -/
  id : Option String
  name : Option String
  version : Option String
  /-- Where it is downloaded from. -/
  downloadLocation : Option String
  /-- The license found for it. -/
  licenseConcluded : Option String
  licenseDeclared : Option String
  copyright : Option String
  supplier : Option String
  /-- Its references to the world outside. -/
  externalRefs : List ExternalRef
  checksums : List Checksum
  deriving DecidableEq

namespace Package

/-- The form of a package. -/
def schema : Schema :=
  .record "SpdxPackage" false
    [optionalText "SPDXID", optionalText "name", optionalText "versionInfo",
      optionalText "downloadLocation", optionalText "licenseConcluded",
      optionalText "licenseDeclared", optionalText "copyrightText", optionalText "supplier",
      listField "externalRefs" ExternalRef.schema, listField "checksums" Checksum.schema]

/-- A package from the members of a projection. -/
def ofMembers (ms : Members) : Package :=
  { id := ms.text? "SPDXID"
    name := ms.text? "name"
    version := ms.text? "versionInfo"
    downloadLocation := ms.text? "downloadLocation"
    licenseConcluded := ms.text? "licenseConcluded"
    licenseDeclared := ms.text? "licenseDeclared"
    copyright := ms.text? "copyrightText"
    supplier := ms.text? "supplier"
    externalRefs := (ms.items "externalRefs").map fun v => ExternalRef.ofMembers v.members
    checksums := (ms.items "checksums").map fun v => Checksum.ofMembers v.members }

/-- A package as an object; what it does not say is left out. -/
def toValue (p : Package) : Value :=
  .object (textMember? "SPDXID" p.id ++ textMember? "name" p.name ++
    textMember? "versionInfo" p.version ++ textMember? "downloadLocation" p.downloadLocation ++
    textMember? "licenseConcluded" p.licenseConcluded ++
    textMember? "licenseDeclared" p.licenseDeclared ++ textMember? "copyrightText" p.copyright ++
    textMember? "supplier" p.supplier ++
    listMember "externalRefs" ExternalRef.toValue p.externalRefs ++
    listMember "checksums" Checksum.toValue p.checksums)

/-- The locator of the first reference of type `purl`, in letters of either
case. -/
def purl (p : Package) : Option String :=
  (p.externalRefs.find? fun r => r.type.toList.map Char.toLower = "purl".toList).map (·.locator)

end Package

/-- A relationship between two elements. -/
structure Relationship where
  /-- The element that the relationship starts from. -/
  element : String
  /-- Its kind, such as `DEPENDS_ON`. -/
  type : String
  /-- The element that it leads to. -/
  related : String
  deriving DecidableEq

namespace Relationship

/-- The form of a relationship. -/
def schema : Schema :=
  .record "SpdxRelationship" false
    [requiredText "spdxElementId", requiredText "relationshipType",
      requiredText "relatedSpdxElement"]

/-- A relationship from the members of a projection. -/
def ofMembers (ms : Members) : Relationship :=
  { element := ms.text "spdxElementId", type := ms.text "relationshipType",
    related := ms.text "relatedSpdxElement" }

/-- A relationship as an object. -/
def toValue (r : Relationship) : Value :=
  .object (textMember "spdxElementId" r.element ++ textMember "relationshipType" r.type ++
    textMember "relatedSpdxElement" r.related)

end Relationship

/-! ### The document -/

/-- An SPDX document. -/
structure Document where
  /-- The version of the format. -/
  spdxVersion : String
  /-- The identifier of the document itself. -/
  id : String
  /-- The URI that identifies the document everywhere. -/
  namespaceUri : String
  /-- The name of the document. -/
  name : String
  /-- The license of the data. -/
  dataLicense : Option String
  /-- When and by whom it was made. -/
  creationInfo : Option CreationInfo
  packages : List Package
  relationships : List Relationship
  deriving DecidableEq

namespace Document

/-- The form of a document, as the typed reading sees it. The rules for its four
required texts are checked elsewhere. -/
def schema : Schema :=
  .record "SpdxDocument" false
    [requiredText "spdxVersion", requiredText "SPDXID", requiredText "documentNamespace",
      requiredText "name", optionalText "dataLicense",
      ("creationInfo", .defaulted, .optional CreationInfo.schema),
      listField "packages" Package.schema, listField "relationships" Relationship.schema]

/-- The creation data among the members of a document; null stands for
none. -/
def creationInfoOf (ms : Members) : Option CreationInfo :=
  match ms.get? "creationInfo" with
  | some (.object inner) => some (CreationInfo.ofMembers inner)
  | _ => none

/-- A document from the members of a projection. -/
def ofMembers (ms : Members) : Document :=
  { spdxVersion := ms.text "spdxVersion"
    id := ms.text "SPDXID"
    namespaceUri := ms.text "documentNamespace"
    name := ms.text "name"
    dataLicense := ms.text? "dataLicense"
    creationInfo := creationInfoOf ms
    packages := (ms.items "packages").map fun v => Package.ofMembers v.members
    relationships := (ms.items "relationships").map fun v => Relationship.ofMembers v.members }

/-- A member with creation data, or none. -/
def creationMember? : Option CreationInfo → Members
  | some c => [("creationInfo", c.toValue)]
  | none => []

/-- A document as an object; the list of packages is written even if it is empty. -/
def toValue (d : Document) : Value :=
  .object (textMember "spdxVersion" d.spdxVersion ++ textMember "SPDXID" d.id ++
    textMember "documentNamespace" d.namespaceUri ++ textMember "name" d.name ++
    textMember? "dataLicense" d.dataLicense ++ creationMember? d.creationInfo ++
    [("packages", .array (d.packages.map Package.toValue))] ++
    listMember "relationships" Relationship.toValue d.relationships)

end Document

end SbomGate.Spdx
