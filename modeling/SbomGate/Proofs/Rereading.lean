import SbomGate.Proofs.Rules
import SbomGate.Proofs.Transparency
import SbomGate.Proofs.TypedView
import SbomGate.Proofs.Written
/-!
# SbomGate.Proofs.Rereading

**A document that was read can be written and read again.**

For every type of a document what is written is read back by its schema
(`rereads`), and makes the same value (`ofMembers_toValue`); the two are put
together from the parts of a type to the type. That the text written for a
document satisfies the rules is a matter of its four texts and of its packages
being objects, and with no member of the name of an envelope it is taken for
none.
-/

namespace SbomGate.Spdx

open Json

variable {levels : Nat}

/-! ### Parts of a document -/

namespace CreationInfo

theorem rereads (c : CreationInfo) : Rereads schema (levels + 2) c.toValue :=
  .record ((Written.text? "created" c.created).append (Written.texts "creators" c.creators))
    (by decide) "CreationInfo"

theorem ofMembers_toValue (c : CreationInfo) : ofMembers c.toValue.members = c := by
  have hcreated : Members.text? c.toValue.members "created" = c.created :=
    Members.text?_of_get? (by simp [toValue, Value.members, Members.get?_append])
  have hcreators : Members.texts? c.toValue.members "creators" = some c.creators :=
    Members.texts?_of_get? (by simp [toValue, Value.members, Members.get?_append])
  rw [ofMembers, hcreated, hcreators]
  rfl

end CreationInfo

namespace ExternalRef

theorem rereads (r : ExternalRef) : Rereads schema (levels + 1) r.toValue :=
  .record (((Written.text "referenceCategory" _ r.category).append
    (Written.text "referenceType" _ r.type)).append
    (Written.text "referenceLocator" _ r.locator)) (by decide) "ExternalRef"

theorem ofMembers_toValue (r : ExternalRef) : ofMembers r.toValue.members = r := by
  simp [ofMembers, toValue, Value.members, Members.text, Members.get?_append,
    Members.get?_textMember]

end ExternalRef

namespace Checksum

theorem rereads (c : Checksum) : Rereads schema (levels + 1) c.toValue :=
  .record ((Written.text "algorithm" _ c.algorithm).append
    (Written.text "checksumValue" _ c.digest)) (by decide) "Checksum"

theorem ofMembers_toValue (c : Checksum) : ofMembers c.toValue.members = c := by
  simp [ofMembers, toValue, Value.members, Members.text, Members.get?_append,
    Members.get?_textMember]

end Checksum

namespace Relationship

theorem rereads (r : Relationship) : Rereads schema (levels + 1) r.toValue :=
  .record (((Written.text "spdxElementId" _ r.element).append
    (Written.text "relationshipType" _ r.type)).append
    (Written.text "relatedSpdxElement" _ r.related)) (by decide) "SpdxRelationship"

theorem ofMembers_toValue (r : Relationship) : ofMembers r.toValue.members = r := by
  simp [ofMembers, toValue, Value.members, Members.text, Members.get?_append,
    Members.get?_textMember]

end Relationship

namespace Package

theorem rereads (p : Package) : Rereads schema (levels + 3) p.toValue :=
  .record ((((((((((Written.text? "SPDXID" p.id).append
    (Written.text? "name" p.name)).append
    (Written.text? "versionInfo" p.version)).append
    (Written.text? "downloadLocation" p.downloadLocation)).append
    (Written.text? "licenseConcluded" p.licenseConcluded)).append
    (Written.text? "licenseDeclared" p.licenseDeclared)).append
    (Written.text? "copyrightText" p.copyright)).append
    (Written.text? "supplier" p.supplier)).append
    (Written.list "externalRefs" p.externalRefs fun r _ => r.rereads)).append
    (Written.list "checksums" p.checksums fun c _ => c.rereads)) (by decide) "SpdxPackage"

theorem ofMembers_toValue (p : Package) : ofMembers p.toValue.members = p := by
  obtain ⟨id, name, version, location, concluded, declared, copyright, supplier, refs, sums⟩ := p
  rw [ofMembers, Package.mk.injEq]
  refine ⟨Members.text?_of_get? ?_, Members.text?_of_get? ?_, Members.text?_of_get? ?_,
    Members.text?_of_get? ?_, Members.text?_of_get? ?_, Members.text?_of_get? ?_,
    Members.text?_of_get? ?_, Members.text?_of_get? ?_,
    Members.items_of_get?_ite ExternalRef.ofMembers_toValue ?_,
    Members.items_of_get?_ite Checksum.ofMembers_toValue ?_⟩
  all_goals simp [toValue, Value.members, Members.get?_append]

end Package

/-! ### The document -/

namespace Document

theorem written_creationMember? (c : Option CreationInfo) :
    Written (levels + 2) [("creationInfo", .defaulted, .optional CreationInfo.schema)]
      (creationMember? c) := by
  cases c with
  | none => exact .skip (by decide) .nil
  | some c => exact .keep c.rereads.optional .nil

@[simp] theorem get?_creationMember? (c : Option CreationInfo) (name : String) :
    Members.get? (creationMember? c) name =
      if "creationInfo" = name then c.map CreationInfo.toValue else none := by
  cases c with
  | none => simp [creationMember?]
  | some c => rfl

theorem creationInfoOf_of_get? {ms : Members} {c : Option CreationInfo}
    (h : ms.get? "creationInfo" = c.map CreationInfo.toValue) : creationInfoOf ms = c := by
  rw [creationInfoOf, h]
  cases c with
  | none => rfl
  | some c => exact congrArg some c.ofMembers_toValue

theorem written (d : Document) : ∃ fields, schema = .record "SpdxDocument" false fields ∧
    (fields.map (·.1)).Nodup ∧ Written 4 fields d.toValue.members :=
  ⟨_, rfl, by decide, (((((((Written.text "spdxVersion" _ d.spdxVersion).append
    (Written.text "SPDXID" _ d.id)).append
    (Written.text "documentNamespace" _ d.namespaceUri)).append
    (Written.text "name" _ d.name)).append
    (Written.text? "dataLicense" d.dataLicense)).append
    (written_creationMember? d.creationInfo)).append
    (Written.array "packages" d.packages fun p _ => p.rereads)).append
    (Written.list "relationships" d.relationships fun r _ => r.rereads)⟩

/-- A document nests five arrays and objects: itself, its packages, a package,
the references of that and one of these. -/
theorem rereads (d : Document) : Rereads schema 5 d.toValue := by
  obtain ⟨fields, hschema, hnames, h⟩ := d.written
  rw [hschema]
  exact .record h hnames "SpdxDocument"

theorem ofMembers_toValue (d : Document) : ofMembers d.toValue.members = d := by
  obtain ⟨version, id, uri, name, license, creation, packages, relationships⟩ := d
  rw [ofMembers, Document.mk.injEq]
  refine ⟨Members.text_of_get? ?_, Members.text_of_get? ?_, Members.text_of_get? ?_,
    Members.text_of_get? ?_, Members.text?_of_get? ?_, creationInfoOf_of_get? ?_,
    Members.items_of_get? Package.ofMembers_toValue ?_,
    Members.items_of_get?_ite Relationship.ofMembers_toValue ?_⟩
  all_goals simp [toValue, Value.members, Members.get?_append, Members.get?_textMember]

/-- The members of a document that was written and read as a value. -/
def rereadMembers (d : Document) : Members :=
  Members.sort (Value.canonicalMembers d.toValue.members)

theorem canonical_toValue (d : Document) : d.toValue.canonical = .object d.rereadMembers := by
  rw [toValue, Value.canonical]
  rfl

theorem get?_rereadMembers (d : Document) (name : String) :
    d.rereadMembers.get? name = (Members.get? d.toValue.members name).map Value.canonical := by
  obtain ⟨fields, -, hnames, h⟩ := d.written
  exact Members.get?_canonical (hnames.sublist h.names) name

theorem get?_rereadMembers_of_text {d : Document} {name t : String}
    (h : Members.get? d.toValue.members name = some (.string t)) :
    d.rereadMembers.get? name = some (.string t) := by
  rw [get?_rereadMembers, h]
  rfl

/-- What is written for a document that agrees with members breaks no rule that
these do not break. -/
theorem check_rereadMembers {d : Document} {members : Members} (h : d.Agrees (.object members))
    (hcheck : check members = []) : check d.rereadMembers = [] := by
  refine check_eq_nil_iff.mpr ⟨fun text htext => ?_, ?_⟩
  · have hsame : d.rereadMembers.get? text.1 = members.get? text.1 := by
      have hrequired := mem_required_of_mem_texts htext
      simp only [required, List.mem_cons, List.not_mem_nil, or_false] at hrequired
      rcases hrequired with heq | heq | heq | heq <;> rw [heq]
      · exact (get?_rereadMembers_of_text (by rfl)).trans h.spdxVersion.symm
      · exact (get?_rereadMembers_of_text (by rfl)).trans h.id.symm
      · exact (get?_rereadMembers_of_text (by rfl)).trans h.namespaceUri.symm
      · exact (get?_rereadMembers_of_text (by rfl)).trans h.name.symm
    rw [checkText_congr hsame]
    exact (check_eq_nil_iff.mp hcheck).1 text htext
  · have hpackages : d.rereadMembers.get? "packages" =
        some (.array ((d.packages.map Package.toValue).map Value.canonical)) := by
      rw [get?_rereadMembers, ← canonicalItems_eq_map]
      simp [toValue, Value.members, Members.get?_append, Members.get?_textMember, Value.canonical]
    refine checkPackages_of_isObject hpackages fun v hv => ?_
    obtain ⟨w, hw, rfl⟩ := List.mem_map.mp hv
    obtain ⟨p, -, rfl⟩ := List.mem_map.mp hw
    rw [Package.toValue, Value.canonical]
    rfl

end Document

/-! ### Submissions -/

/-- The text written for the document of a submission is the submission of the
same document, and the value received is that text. -/
theorem ofBytes_toValue_text {v : Value} {s : Submission} (h : Submission.ofValue v = .ok s) :
    let text := bytesOf s.document.toValue.text
    Value.ofBytes text = .ok s.document.toValue.canonical ∧
      Submission.ofBytes text = .ok ⟨s.document, s.document.toValue.canonical⟩ := by
  intro text
  obtain ⟨members, w, rfl, hcheck, -, -⟩ := ofValue_eq_ok_iff.mp h
  obtain ⟨-, hagrees⟩ := ofValue_agrees h
  have hreread := s.document.rereads
  have hread : Value.ofBytes text = .ok s.document.toValue.canonical :=
    (ofBytes_text_of_inRange hreread.inRange).1 (hreread.depth.trans (by decide))
  -- no member of a document has the name that envelopes use
  have hunwrap : unwrap s.document.toValue.canonical = s.document.toValue.canonical := by
    refine unwrap_of_no_member fun ms hms => ?_
    rw [Document.canonical_toValue, Value.member?, Document.get?_rereadMembers] at hms
    simp [Document.toValue, Value.members, Members.get?_append, Members.get?_textMember,
      envelopeName] at hms
  refine ⟨hread, ofBytes_eq_ok_iff.mpr ⟨_, hread, ?_⟩⟩
  rw [hunwrap]
  refine ofValue_eq_ok_iff.mpr ⟨_, _, s.document.canonical_toValue,
    Document.check_rereadMembers hagrees hcheck, hreread.project, ?_⟩
  rw [Document.ofMembers_toValue]

/-- **Writing and reading a document changes nothing.** What is accepted can be
written and read again, to the same document with the same packages and package
URLs, and what is then received is what was written. -/
theorem ofBytes_document_text {text : Bytes} {p : Submission}
    (h : Submission.ofBytes text = .ok p) :
    ∃ q, Submission.ofBytes (bytesOf p.document.toValue.text) = .ok q ∧
      q.document = p.document ∧ q.packageCount = p.packageCount ∧
      q.document.packages.map Package.purl = p.document.packages.map Package.purl ∧
      q.raw = p.document.toValue.canonical ∧
      Value.ofBytes (bytesOf p.document.toValue.text) = .ok q.raw := by
  obtain ⟨-, -, hvalue⟩ := raw_of_ofBytes h
  obtain ⟨hread, hsubmission⟩ := ofBytes_toValue_text hvalue
  exact ⟨_, hsubmission, rfl, rfl, rfl, rfl, hread⟩

/-- A document whose creation data came as a list is written with an object,
and read again to the same document. -/
theorem ofBytes_document_text_listed :
    ∃ p q, Submission.ofBytes listedText = .ok p ∧
      Submission.ofBytes (bytesOf p.document.toValue.text) = .ok q ∧
      q.document = p.document ∧
      q.document.packages.map Package.purl = [some "pkg:cargo/p"] ∧ q.raw ≠ p.raw := by
  obtain ⟨p, hp, hview⟩ := map_eq_ok_iff.mp ofBytes_listedText
  obtain ⟨hlist, hrest⟩ := Prod.mk.inj hview
  obtain ⟨hcreation, hpurls⟩ := Prod.mk.inj hrest
  obtain ⟨q, hq, hsame, -, hpurl, hraw, -⟩ := ofBytes_document_text hp
  refine ⟨p, q, hp, hq, hsame, hpurl.trans hpurls, fun heq => ?_⟩
  have hobject : p.document.toValue.canonical.member? "creationInfo" =
      (p.document.creationInfo.map CreationInfo.toValue).map Value.canonical := by
    rw [Document.canonical_toValue, Value.member?, Document.get?_rereadMembers]
    simp [Document.toValue, Value.members, Members.get?_append, Members.get?_textMember]
  rw [← hraw, heq, hlist, hcreation] at hobject
  cases hobject

end SbomGate.Spdx
