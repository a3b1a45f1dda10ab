import SbomGate.Proofs.Envelope
/-!
# SbomGate.Proofs.TypedView

**The document agrees with the value it was read from**, field by field and
under the names of the format.

For each type there is a predicate `Agrees`, which says what the value gives
for every field: a required text is the string under its name, an optional one
is absent or null instead, and lists agree item by item. `Value.field?` finds
what is under a name. For an object it is the member. Apart from packages,
which the rules require to be objects, a record may also be written as the list
of its fields, and then it is the item in their order.
-/

namespace SbomGate.Json

/-! ### Fields -/

/-- A value is a text and nothing but it. -/
def IsText (v : Value) (t : String) : Prop := v = .string t

/-- A text that may be left out, which leaves it empty. -/
def DefaultText (v : Option Value) (t : String) : Prop :=
  v = some (.string t) ∨ v = none ∧ t = ""

/-- Something that may be absent or null. -/
def OptionalOf {α : Type} (R : Value → α → Prop) (v : Option Value) : Option α → Prop
  | some x => ∃ given, v = some given ∧ R given x
  | none => v = none ∨ v = some .null

/-- A list that may be left out, which leaves it empty. Its items agree one by
one. -/
def ListOf {α : Type} (R : Value → α → Prop) (v : Option Value) (xs : List α) : Prop :=
  (v = none ∧ xs = []) ∨ ∃ items, v = some (.array items) ∧ List.Forall₂ R items xs

/-! ### Reading fields -/

theorem project_string {v w : Value} (h : Schema.string.project v = .ok w) :
    ∃ t, v = .string t ∧ w = .string t := by
  cases v with
  | string t =>
      simp only [Schema.project, Schema.projectScalar, Except.ok.injEq] at h
      exact ⟨t, rfl, h.symm⟩
  | _ => simp [Schema.project, Schema.core, Schema.projectScalar] at h

theorem project_optional {s : Schema} {v w : Value} (h : (Schema.optional s).project v = .ok w) :
    (v = .null ∧ w = .null) ∨ s.project v = .ok w := by
  cases v with
  | null =>
      simp only [Schema.project, Schema.projectScalar, Except.ok.injEq] at h
      exact .inl ⟨rfl, h.symm⟩
  | array items => exact .inr (by simpa only [Schema.project, Schema.core] using h)
  | object members => exact .inr (by simpa only [Schema.project, Schema.core] using h)
  | _ => exact .inr (by simpa only [Schema.project, Schema.projectScalar] using h)

/-- A field that was read stands for something that was given, and a field that
was not for nothing. -/
theorem Projected.cases {s : Schema} {v w : Option Value} (h : Projected s v w) :
    (v = none ∧ w = none) ∨ ∃ v' w', v = some v' ∧ w = some w' ∧ s.project v' = .ok w' := by
  cases v with
  | none =>
      cases w with
      | none => exact .inl ⟨rfl, rfl⟩
      | some w => exact absurd h id
  | some v =>
      cases w with
      | none => exact absurd h id
      | some w => exact .inr ⟨v, w, rfl, rfl, h⟩

theorem forall₂_asString? {items ws : List Value}
    (h : List.Forall₂ (fun v w => Schema.string.project v = .ok w) items ws) :
    List.Forall₂ IsText items (ws.filterMap Value.asString?) := by
  induction h with
  | nil => exact .nil
  | cons hw hrest ih =>
      obtain ⟨t, rfl, rfl⟩ := project_string hw
      exact .cons rfl ih

namespace RecordRead

variable {fields : Fields} {v : Value} {out : Members} {name : String}

theorem defaultText (h : RecordRead fields v out) {p : Presence}
    (hfield : fields.find? (·.1 = name) = some (name, p, .string)) :
    DefaultText (v.field? (fields.map (·.1)) name) (Members.text out name) := by
  rcases (h.field hfield).1.cases with ⟨hv, hw⟩ | ⟨given, w, hv, hw, hread⟩
  · exact .inr ⟨hv, by simp [Members.text, hw]⟩
  · obtain ⟨t, rfl, rfl⟩ := project_string hread
    exact .inl (by simp [Members.text, hv, hw])

theorem requiredText (h : RecordRead fields v out)
    (hfield : fields.find? (·.1 = name) = some (name, .required, .string)) :
    v.field? (fields.map (·.1)) name = some (.string (Members.text out name)) := by
  rcases (h.field hfield).1.cases with ⟨-, hw⟩ | ⟨given, w, hv, hw, hread⟩
  · -- a record without a required field is not read
    have hsome := (h.field hfield).2 rfl
    simp [hw] at hsome
  · obtain ⟨t, rfl, rfl⟩ := project_string hread
    simp [Members.text, hv, hw]

theorem optionalText (h : RecordRead fields v out) {p : Presence}
    (hfield : fields.find? (·.1 = name) = some (name, p, .optional .string)) :
    OptionalOf IsText (v.field? (fields.map (·.1)) name) (Members.text? out name) := by
  rcases (h.field hfield).1.cases with ⟨hv, hw⟩ | ⟨given, w, hv, hw, hread⟩
  · simp [Members.text?, hw, OptionalOf, hv]
  · rcases project_optional hread with ⟨rfl, rfl⟩ | hread
    · simp [Members.text?, hw, OptionalOf, Value.asString?, hv]
    · obtain ⟨t, rfl, rfl⟩ := project_string hread
      simp [Members.text?, hw, OptionalOf, Value.asString?, hv, IsText]

theorem list (h : RecordRead fields v out) {p : Presence} {item : Schema}
    (hfield : fields.find? (·.1 = name) = some (name, p, .list item)) :
    ListOf (fun v w => item.project v = .ok w) (v.field? (fields.map (·.1)) name)
      (Members.items out name) := by
  rcases (h.field hfield).1.cases with ⟨hv, hw⟩ | ⟨given, w, hv, hw, hread⟩
  · exact .inl ⟨hv, by simp [Members.items, hw]⟩
  · cases given with
    | array items =>
        obtain ⟨ws, rfl, hitems⟩ := project_list rfl hread
        exact .inr ⟨items, hv, by simpa [Members.items, hw] using hitems⟩
    | _ => simp [Schema.project, Schema.core, Schema.projectScalar] at hread

/-- What is made of the items of a list agrees when each of them does. -/
theorem listOf {α : Type} {f : Value → α} {R : Value → α → Prop} {item : Schema}
    (h : RecordRead fields v out) {p : Presence}
    (hfield : fields.find? (·.1 = name) = some (name, p, .list item))
    (hitem : ∀ v w, item.project v = .ok w → R v (f w)) :
    ListOf R (v.field? (fields.map (·.1)) name) ((Members.items out name).map f) := by
  rcases h.list hfield with ⟨hv, hnone⟩ | ⟨items, hv, hitems⟩
  · exact .inl ⟨hv, by simp [hnone]⟩
  · refine .inr ⟨items, hv, ?_⟩
    rw [List.forall₂_map_right_iff]
    exact hitems.imp fun {v w} => hitem v w

theorem texts (h : RecordRead fields v out) {p : Presence}
    (hfield : fields.find? (·.1 = name) = some (name, p, .list .string)) :
    ListOf IsText (v.field? (fields.map (·.1)) name) ((Members.texts? out name).getD []) := by
  have htexts : (Members.texts? out name).getD [] =
      (Members.items out name).filterMap Value.asString? := by
    simp only [Members.texts?, Members.items]
    split <;> simp
  rw [htexts]
  rcases h.list hfield with ⟨hv, hnone⟩ | ⟨items, hv, hitems⟩
  · exact .inl ⟨hv, by simp [hnone]⟩
  · exact .inr ⟨items, hv, forall₂_asString? hitems⟩

end RecordRead

end SbomGate.Json

namespace SbomGate.Spdx

open Json

/-! ### Parts of a document -/

namespace CreationInfo

/-- The members of creation data, in the order of the items if it is an array. -/
def fieldNames : List String := ["created", "creators"]

/-- Creation data says what the value of its member says. -/
structure Agrees (v : Value) (c : CreationInfo) : Prop where
  record : v.IsRecord fieldNames
  created : OptionalOf IsText (v.field? fieldNames "created") c.created
  creators : ListOf IsText (v.field? fieldNames "creators") c.creators

theorem agrees_of_project {v w : Value} (h : schema.project v = .ok w) :
    ∃ out, w = .object out ∧ Agrees v (ofMembers out) := by
  obtain ⟨out, rfl, hread⟩ := recordRead_of_project h
  exact ⟨out, rfl, hread.isRecord, hread.optionalText rfl, hread.texts rfl⟩

end CreationInfo

namespace ExternalRef

/-- The members of a reference, in the order of the items if it is an array. -/
def fieldNames : List String := ["referenceCategory", "referenceType", "referenceLocator"]

/-- A reference says what its value says; only the category may be left out. -/
structure Agrees (v : Value) (r : ExternalRef) : Prop where
  record : v.IsRecord fieldNames
  category : DefaultText (v.field? fieldNames "referenceCategory") r.category
  type : v.field? fieldNames "referenceType" = some (.string r.type)
  locator : v.field? fieldNames "referenceLocator" = some (.string r.locator)

theorem agrees_of_project (v w : Value) (h : schema.project v = .ok w) :
    Agrees v (ofMembers w.members) := by
  obtain ⟨out, rfl, hread⟩ := recordRead_of_project h
  exact ⟨hread.isRecord, hread.defaultText rfl, hread.requiredText rfl, hread.requiredText rfl⟩

end ExternalRef

namespace Checksum

/-- The members of a checksum, in the order of the items if it is an array. -/
def fieldNames : List String := ["algorithm", "checksumValue"]

/-- A checksum says what its value says. -/
structure Agrees (v : Value) (c : Checksum) : Prop where
  record : v.IsRecord fieldNames
  algorithm : v.field? fieldNames "algorithm" = some (.string c.algorithm)
  digest : v.field? fieldNames "checksumValue" = some (.string c.digest)

theorem agrees_of_project (v w : Value) (h : schema.project v = .ok w) :
    Agrees v (ofMembers w.members) := by
  obtain ⟨out, rfl, hread⟩ := recordRead_of_project h
  exact ⟨hread.isRecord, hread.requiredText rfl, hread.requiredText rfl⟩

end Checksum

namespace Relationship

/-- The members of a relationship, in the order of the items if it is an array. -/
def fieldNames : List String := ["spdxElementId", "relationshipType", "relatedSpdxElement"]

/-- A relationship says what its value says. -/
structure Agrees (v : Value) (r : Relationship) : Prop where
  record : v.IsRecord fieldNames
  element : v.field? fieldNames "spdxElementId" = some (.string r.element)
  type : v.field? fieldNames "relationshipType" = some (.string r.type)
  related : v.field? fieldNames "relatedSpdxElement" = some (.string r.related)

theorem agrees_of_project (v w : Value) (h : schema.project v = .ok w) :
    Agrees v (ofMembers w.members) := by
  obtain ⟨out, rfl, hread⟩ := recordRead_of_project h
  exact ⟨hread.isRecord, hread.requiredText rfl, hread.requiredText rfl, hread.requiredText rfl⟩

end Relationship

namespace Package

/-- The members of a package, in the order of the items if it is an array. -/
def fieldNames : List String :=
  ["SPDXID", "name", "versionInfo", "downloadLocation", "licenseConcluded", "licenseDeclared",
    "copyrightText", "supplier", "externalRefs", "checksums"]

/-- A package says what its value says; nothing in it has to be there. -/
structure Agrees (v : Value) (p : Package) : Prop where
  record : v.IsRecord fieldNames
  id : OptionalOf IsText (v.field? fieldNames "SPDXID") p.id
  name : OptionalOf IsText (v.field? fieldNames "name") p.name
  version : OptionalOf IsText (v.field? fieldNames "versionInfo") p.version
  downloadLocation : OptionalOf IsText (v.field? fieldNames "downloadLocation") p.downloadLocation
  licenseConcluded : OptionalOf IsText (v.field? fieldNames "licenseConcluded") p.licenseConcluded
  licenseDeclared : OptionalOf IsText (v.field? fieldNames "licenseDeclared") p.licenseDeclared
  copyright : OptionalOf IsText (v.field? fieldNames "copyrightText") p.copyright
  supplier : OptionalOf IsText (v.field? fieldNames "supplier") p.supplier
  externalRefs : ListOf ExternalRef.Agrees (v.field? fieldNames "externalRefs") p.externalRefs
  checksums : ListOf Checksum.Agrees (v.field? fieldNames "checksums") p.checksums

theorem agrees_of_project (v w : Value) (h : schema.project v = .ok w) :
    Agrees v (ofMembers w.members) := by
  obtain ⟨out, rfl, hread⟩ := recordRead_of_project h
  exact
    { record := hread.isRecord
      id := hread.optionalText rfl
      name := hread.optionalText rfl
      version := hread.optionalText rfl
      downloadLocation := hread.optionalText rfl
      licenseConcluded := hread.optionalText rfl
      licenseDeclared := hread.optionalText rfl
      copyright := hread.optionalText rfl
      supplier := hread.optionalText rfl
      externalRefs := hread.listOf rfl ExternalRef.agrees_of_project
      checksums := hread.listOf rfl Checksum.agrees_of_project }

end Package

/-! ### Package URLs -/

/-- Whether a reference is of type `purl`, in letters of either case. -/
def isPurl (ref : Value) : Bool :=
  match ref.field? ExternalRef.fieldNames "referenceType" with
  | some (.string t) => t.toList.map Char.toLower = "purl".toList
  | _ => false

/-- The locator of a reference, as its value has it. -/
def locatorOf (ref : Value) : Option String :=
  (ref.field? ExternalRef.fieldNames "referenceLocator").bind Value.asString?

/-- The locator of the first reference of type `purl` that a package lists. -/
def listedPurl (package : Value) : Option String :=
  match package.field? Package.fieldNames "externalRefs" with
  | some (.array refs) => (refs.find? isPurl).bind locatorOf
  | _ => none

theorem find?_purl {refs : List Value} {rs : List ExternalRef}
    (h : List.Forall₂ ExternalRef.Agrees refs rs) :
    (rs.find? fun r => r.type.toList.map Char.toLower = "purl".toList).map (·.locator) =
      (refs.find? isPurl).bind locatorOf := by
  induction h with
  | nil => rfl
  | @cons ref r refs rs hr hrest ih =>
      have htype : isPurl ref = decide (r.type.toList.map Char.toLower = "purl".toList) := by
        simp only [isPurl, hr.type]
      simp only [List.find?_cons, htype]
      split
      · simp [locatorOf, hr.locator, Value.asString?]
      · exact ih

theorem purl_of_agrees {v : Value} {p : Package} (h : p.Agrees v) : p.purl = listedPurl v := by
  unfold Package.purl listedPurl
  rcases h.externalRefs with ⟨hv, hnone⟩ | ⟨refs, hv, hrefs⟩
  · simp [hv, hnone]
  · simp only [hv]
    exact find?_purl hrefs

/-! ### Documents -/

/-- A document agrees with an object. Its packages are objects as well, and the
locator that a package gives is the one that it lists. -/
structure Document.Agrees (v : Value) (d : Document) : Prop where
  object : v.isObject = true
  spdxVersion : v.member? "spdxVersion" = some (.string d.spdxVersion)
  id : v.member? "SPDXID" = some (.string d.id)
  namespaceUri : v.member? "documentNamespace" = some (.string d.namespaceUri)
  name : v.member? "name" = some (.string d.name)
  dataLicense : OptionalOf IsText (v.member? "dataLicense") d.dataLicense
  creationInfo : OptionalOf CreationInfo.Agrees (v.member? "creationInfo") d.creationInfo
  packages : ListOf (fun v p => v.isObject = true ∧ p.Agrees v ∧ p.purl = listedPurl v)
    (v.member? "packages") d.packages
  relationships : ListOf Relationship.Agrees (v.member? "relationships") d.relationships

theorem isObject_of_checkEntries {entries : List Value} :
    ∀ {index : Nat}, checkEntries index entries = [] → ∀ v ∈ entries, v.isObject = true := by
  induction entries with
  | nil => simp
  | cons v entries ih =>
      intro index h
      obtain ⟨hv, hrest⟩ := List.append_eq_nil_iff.mp h
      intro w hw
      rcases List.mem_cons.mp hw with rfl | hw
      · by_contra hne
        simp [hne] at hv
      · exact ih hrest w hw

/-- The packages of a document that breaks no rule are objects. -/
theorem isObject_of_check {members : Members} (h : check members = []) {entries : List Value}
    (hentries : members.get? "packages" = some (.array entries)) :
    ∀ v ∈ entries, v.isObject = true := by
  have hp : checkPackages members = [] := (List.append_eq_nil_iff.mp h).2
  rw [checkPackages, hentries] at hp
  exact isObject_of_checkEntries hp

theorem creationInfoOf_agrees {fields : Fields} {v : Value} {out : Members}
    (h : RecordRead fields v out) {p : Presence}
    (hfield : fields.find? (·.1 = "creationInfo") =
      some ("creationInfo", p, .optional CreationInfo.schema)) :
    OptionalOf CreationInfo.Agrees (v.field? (fields.map (·.1)) "creationInfo")
      (Document.creationInfoOf out) := by
  rcases (h.field hfield).1.cases with ⟨hv, hw⟩ | ⟨given, w, hv, hw, hread⟩
  · simp [Document.creationInfoOf, hw, OptionalOf, hv]
  · rcases project_optional hread with ⟨rfl, rfl⟩ | hread
    · simp [Document.creationInfoOf, hw, OptionalOf, hv]
    · obtain ⟨inner, rfl, hagrees⟩ := CreationInfo.agrees_of_project hread
      simp only [Document.creationInfoOf, hw]
      exact ⟨given, hv, hagrees⟩

theorem ofValue_agrees {raw : Value} {s : Submission} (h : Submission.ofValue raw = .ok s) :
    s.raw = raw ∧ s.document.Agrees raw := by
  obtain ⟨members, w, rfl, hcheck, hproject, rfl⟩ := ofValue_eq_ok_iff.mp h
  obtain ⟨out, rfl, hread⟩ := recordRead_of_project hproject
  refine ⟨rfl, ?_⟩
  have hpackages : ListOf Package.Agrees (Members.get? members "packages")
      (Document.ofMembers out).packages := hread.listOf rfl Package.agrees_of_project
  exact
    { object := rfl
      spdxVersion := hread.requiredText rfl
      id := hread.requiredText rfl
      namespaceUri := hread.requiredText rfl
      name := hread.requiredText rfl
      dataLicense := hread.optionalText rfl
      creationInfo := creationInfoOf_agrees hread rfl
      packages := by
        rcases hpackages with hnone | ⟨entries, hentries, hagrees⟩
        · exact .inl hnone
        · refine .inr ⟨entries, hentries, ?_⟩
          have hpurl := hagrees.imp fun {v p} h => And.intro h (purl_of_agrees h)
          exact (List.forall₂_and_left _ _).mpr ⟨isObject_of_check hcheck hentries, hpurl⟩
      relationships := hread.listOf rfl Relationship.agrees_of_project }

/-- **The document agrees with what was received**, for everything that is
accepted, as a value or as a text: every field is what stands under its name,
lists agree item by item, packages are objects, and every other record is an
object or the list of its fields. -/
theorem document_agrees {raw : Value} {s : Submission}
    (h : Submission.ofValue raw = .ok s ∨ ∃ text, Submission.ofBytes text = .ok s ∧ s.raw = raw) :
    s.raw = raw ∧ s.document.Agrees raw := by
  rcases h with h | ⟨text, h, rfl⟩
  · exact ofValue_agrees h
  · obtain ⟨-, -, hvalue⟩ := raw_of_ofBytes h
    exact ofValue_agrees hvalue

/-- A document with records in either form. -/
def listedText : Bytes :=
  ["\x7b\"spdxVersion\":\"SPDX-2.3\",", "\"SPDXID\":\"SPDXRef-D\",\"name\":\"n\",",
    "\"documentNamespace\":\"a:b\",", "\"creationInfo\":[", "\"2024-05-01T00:00:00Z\",",
    "[\"Tool: t\"]],", "\"packages\":[\x7b\"name\":\"p\",", "\"supplier\":null,",
    "\"externalRefs\":[", "\x7b\"referenceType\":\"cpe\",", "\"referenceLocator\":\"c\"\x7d,",
    "[\"PACKAGE-MANAGER\",\"PURL\",", "\"pkg:cargo/p\"]]\x7d]\x7d"].flatMap bytesOf

theorem ofBytes_listedText :
    (Submission.ofBytes listedText).map (fun s => (s.raw.member? "creationInfo",
      s.document.creationInfo, s.document.packages.map Package.purl)) =
    .ok (some (.array [.string "2024-05-01T00:00:00Z", .array [.string "Tool: t"]]),
      some ⟨some "2024-05-01T00:00:00Z", ["Tool: t"]⟩, [some "pkg:cargo/p"]) := by
  decide +kernel

/-- Records in either form give the same fields. -/
theorem document_agrees_listed :
    ∃ s, Submission.ofBytes listedText = .ok s ∧ s.document.Agrees s.raw ∧
      s.document.creationInfo = some ⟨some "2024-05-01T00:00:00Z", ["Tool: t"]⟩ ∧
      s.document.packages.map Package.purl = [some "pkg:cargo/p"] := by
  obtain ⟨s, hs, hview⟩ := map_eq_ok_iff.mp ofBytes_listedText
  obtain ⟨-, hrest⟩ := Prod.mk.inj hview
  obtain ⟨hcreation, hpurls⟩ := Prod.mk.inj hrest
  exact ⟨s, hs, (document_agrees (.inr ⟨listedText, hs, rfl⟩)).2, hcreation, hpurls⟩

/-- Not every record is an object: creation data is accepted as a list. -/
theorem creationInfo_not_always_object :
    ¬ ∀ (text : Bytes) (s : Submission), Submission.ofBytes text = .ok s →
      ∀ v, s.raw.member? "creationInfo" = some v → v = .null ∨ v.isObject = true := by
  intro hall
  obtain ⟨s, hs, hview⟩ := map_eq_ok_iff.mp ofBytes_listedText
  rcases hall listedText s hs _ (Prod.mk.inj hview).1 with h | h <;> cases h

end SbomGate.Spdx
