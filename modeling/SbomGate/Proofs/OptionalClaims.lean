import SbomGate.Proofs.Admission
import SbomGate.Proofs.PlainReading
import SbomGate.Proofs.Signing
/-!
# SbomGate.Proofs.OptionalClaims

**What optional claims can do to a token.**

A payload is read twice, and the second reading, the standard view, is not as
lenient as the first. `Claims.view` says what both make of the members of a
payload; the text decides about nothing but the place of a fault
(`ofPayload_of_spellsObject`). Optional claims matter for `view` only where the
standard view stops at one of them (`view_alike`).

Main results:

* `verifyToken_unobtrusive_alike` — two tokens that differ in unobtrusive
  optional claims are accepted or refused alike; no token with another optional
  claim is accepted.
* `verifyToken_listed_subject` — such a claim is the one difference between a
  token that is accepted and one that is not.
-/

namespace SbomGate.Json

/-! ### Values in the way of the standard view -/

/-- Arrays and objects that are not empty. -/
def Value.isFilled : Value → Bool
  | .array (_ :: _) | .object (_ :: _) => true
  | _ => false

theorem Value.isFilled_of_scalar {v : Value} (h : v.isContainer = false) : v.isFilled = false := by
  cases v with
  | array items => cases h
  | object members => cases h
  | _ => rfl

namespace Members

theorem insert_ne_nil (name : String) (value : Value) (ms : Members) :
    insert name value ms ≠ [] := by
  cases ms with
  | nil => simp [insert]
  | cons m ms =>
      rw [insert]
      split
      · simp
      · split <;> simp

theorem foldl_insert_ne_nil (ms : Members) {acc : Members} (h : acc ≠ []) :
    ms.foldl (fun acc m => insert m.1 m.2 acc) acc ≠ [] := by
  induction ms generalizing acc with
  | nil => exact h
  | cons m ms ih => exact ih (insert_ne_nil m.1 m.2 acc)

end Members

theorem Value.isFilled_canonical (v : Value) : v.canonical.isFilled = v.isFilled := by
  cases v with
  | array items => cases items <;> rfl
  | object ms =>
      cases ms with
      | nil => rfl
      | cons m ms =>
          obtain ⟨m', ms', hsort⟩ := List.exists_cons_of_ne_nil
            (Members.foldl_insert_ne_nil (canonicalMembers ms)
              (Members.insert_ne_nil m.1 m.2.canonical []))
          rw [canonical, canonicalMembers, Members.sort, List.foldl_cons, hsort]
          rfl
  | _ => rfl

end SbomGate.Json

namespace SbomGate.Token

open Json

/-- A claim in the way of the standard view, which looks into times and does
not begin to read a subject. -/
def obstructs (m : String × Value) : Bool :=
  if m.1 = "exp" ∨ m.1 = "nbf" then m.2.isFilled else m.1 = "sub" && m.2.isContainer

theorem isContainer_of_read {limit : Nat} {n : Node} {v : Value} (h : n.read limit = .ok v) :
    isContainer n = v.isContainer := by
  cases n with
  | leaf start stop content =>
      rw [Node.read] at h
      rw [Leaf.scalar_of_read h]
      rfl
  | list start items close => obtain ⟨vs, -, rfl, -⟩ := Node.read_list_iff.mp h; rfl
  | object start members close => obtain ⟨ms, -, rfl, -⟩ := Node.read_object_iff.mp h; rfl
  | stub start b => rw [Node.read] at h; cases h
  | broken start b => rw [Node.read] at h; cases h

theorem firstInside?_of_read {limit : Nat} {n : Node} {v : Value} (h : n.read limit = .ok v) :
    (firstInside? n).isSome = v.isFilled := by
  cases n with
  | leaf start stop content =>
      rw [Node.read] at h
      rw [Value.isFilled_of_scalar (Leaf.scalar_of_read h)]
      rfl
  | list start items close =>
      obtain ⟨vs, -, rfl, -, -, hvs⟩ := Node.read_list_iff.mp h
      cases items with
      | nil => rw [Node.readItems] at hvs; cases hvs; rfl
      | cons n ns =>
          obtain ⟨v, rest, rfl, -⟩ := Node.readItems_cons_iff.mp hvs
          rfl
  | object start members close =>
      obtain ⟨ms, -, rfl, -, -, hms⟩ := Node.read_object_iff.mp h
      cases members with
      | nil => rw [Node.readMembers] at hms; cases hms; rfl
      | cons m members => obtain ⟨k, v, rest, rfl, -⟩ := Node.readMembers_cons_iff.mp hms; rfl
  | stub start b => rw [Node.read] at h; cases h
  | broken start b => rw [Node.read] at h; cases h

theorem standardStop?_of_read {limit : Nat} {n : Node} {v : Value} (h : n.read limit = .ok v)
    (name : String) : (standardStop? name n).isSome = obstructs (name, v.canonical) := by
  have hcontainer : v.canonical.isContainer = isContainer n := by
    rw [isContainer_of_read h]
    cases v <;> rfl
  have hfilled : v.canonical.isFilled = (firstInside? n).isSome := by
    rw [firstInside?_of_read h, Value.isFilled_canonical]
  simp only [standardStop?, obstructs, hcontainer, hfilled]
  split
  · rfl
  · split <;> simp_all
    cases isContainer n <;> rfl

theorem memberStop?_of_read {limit : Nat} {ns : List (Name × Node)} {ms : Members}
    (h : Node.readMembers limit ns = .ok ms) :
    (memberStop? ns).isSome = (Value.canonicalMembers ms).any obstructs := by
  induction ns generalizing ms with
  | nil =>
      rw [Node.readMembers] at h
      cases h
      rfl
  | cons m ns ih =>
      obtain ⟨name, n⟩ := m
      obtain ⟨k, v, rest, rfl, hk, hv, hrest⟩ := Node.readMembers_cons_iff.mp h
      simp only [memberStop?, hk, Option.isSome_or, standardStop?_of_read hv, ih hrest,
        Value.canonicalMembers, List.any_cons]

/-! ### Both views of a payload -/

namespace Claims

/-- The fields of a payload, as its schema lists them. -/
def fields : Fields :=
  claimNames.map fun name =>
    (name, .defaulted, if name ∈ strictNames then .optional .string else .anything)

theorem fields_plain : ∀ field ∈ fields, field.2.2.IsPlain ∧ field.2.1 ≠ .required := by
  decide

/-- What the members of a payload come to: the first mismatch, a claim in the
way of the standard view, or claims. -/
def view (ms : Members) : Except Cause Claims :=
  match ms.findSome? fields.mismatch? with
  | some e => .error (.mismatch e)
  | none =>
    if ms.any obstructs then .error (.defect .memberEndDue) else .ok (ofMembers ms)

theorem ofMembers_congr {out ms : Members}
    (h : ∀ {name}, name ∈ claimNames → Members.get? out name = Members.get? ms name) :
    ofMembers out = ofMembers ms := by
  simp (disch := decide) only [ofMembers, textOf, timeOf, audienceOf, Members.text?, h]

/-- What a payload comes to is up to its members, and only the place of a fault
is up to its text. -/
theorem ofPayload_of_spellsObject {text : Bytes} {ms : Members} (h : SpellsObject text ms)
    (hnodup : (ms.map (·.1)).Nodup) :
    ∃ line column,
      ofPayload text = (view ms).mapError fun cause => .json ⟨cause, line, column⟩ := by
  have hplain : ∀ field ∈ fields, field.2.2.IsPlain := fun field hmem => (fields_plain field hmem).1
  obtain ⟨o, hread⟩ : ∃ o, schema.readBytes text =
      (schema.project (.object ms)).mapError fun m => (m.at o).locate text :=
    readBytes_of_spellsObject (Fields.takeWhole_of_isPlain hplain ms) h
  have hproject := @project_of_nodup "JwtClaims" fields fields_plain ms hnodup
  change match ms.findSome? fields.mismatch? with
    | some e => schema.project (.object ms) = .error e
    | none => ∃ out, schema.project (.object ms) = .ok (.object out) ∧
        ∀ {name}, name ∈ claimNames → Members.get? out name = Members.get? ms name at hproject
  obtain ⟨start, ns, stop, written, hdocument, hns, rfl⟩ := h.document
  have hstop := memberStop?_of_read hns
  rw [Schema.readBytes] at hread
  simp only [ofPayload, view, hread]
  cases hmismatch : (Value.canonicalMembers written).findSome? fields.mismatch? with
  | some e =>
      simp only [hmismatch] at hproject
      rw [hproject]
      exact ⟨_, _, rfl⟩
  | none =>
      simp only [hmismatch] at hproject
      obtain ⟨out, hout, hget⟩ := hproject
      rw [hout, hdocument, ← hstop]
      simp only [standardFault?, Except.mapError, ok_bind]
      cases memberStop? ns with
      | some o => exact ⟨_, _, rfl⟩
      | none =>
        refine ⟨0, 0, ?_⟩
        simp [Value.members, ofMembers_congr hget]
        rfl

/-! ### Optional claims -/

/-- The claims that a token may leave out. -/
def optionalNames : List String :=
  ["sub", "repository_owner", "repository_id", "ref", "sha", "workflow", "event_name", "run_id",
    "jti", "iat", "nbf"]

/-- The members other than the optional claims, in the order of the text. -/
def essential (ms : Members) : Members := ms.filter (·.1 ∉ optionalNames)

/-- No optional claim is in the way of the standard view: the subject is no
array or object, and the time of validity at most an empty one. -/
structure Unobtrusive (ms : Members) : Prop where
  sub : ∀ v, Members.get? ms "sub" = some v → v.isContainer = false
  nbf : ∀ v, Members.get? ms "nbf" = some v → v.isFilled = false

/-- Claims that agree in what the checks look at. -/
structure Agree (d d' : Claims) : Prop where
  iss : d.iss = d'.iss
  aud : d.aud = d'.aud
  exp : d.exp = d'.exp
  repository : d.repository = d'.repository
  actor : d.actor = d'.actor

/-- Objects that differ in optional claims at most. -/
def SameEssentials (ms ms' : Members) : Prop :=
  ∀ name ∉ optionalNames, Members.get? ms name = Members.get? ms' name

/-- Objects with the same essential members, in the same order. -/
theorem SameEssentials.of_essential {ms ms' : Members} (h : essential ms = essential ms') :
    SameEssentials ms ms' := by
  have hget : ∀ {name}, name ∉ optionalNames → ∀ ms : Members,
      Members.get? (essential ms) name = Members.get? ms name := by
    intro name hname ms
    exact Members.get?_filter (p := fun k => k ∉ optionalNames) (by simpa using hname) ms
  intro name hname
  rw [← hget hname ms, h, hget hname ms']

theorem not_strict_of_optional : ∀ name ∈ optionalNames, name ∉ strictNames := by
  decide

theorem mismatch?_of_optional {m : String × Value} (h : m.1 ∈ optionalNames) :
    fields.mismatch? m = none := by
  unfold Fields.mismatch?
  split
  · rfl
  · next name p s hfind =>
      obtain ⟨name', -, hfield⟩ := List.mem_map.mp (List.mem_of_find?_eq_some hfind)
      have hname : name = m.1 := by simpa using List.find?_some hfind
      obtain ⟨rfl, rfl, rfl⟩ : name' = name ∧ Presence.defaulted = p ∧
          (if name' ∈ strictNames then Schema.optional .string else .anything) = s := by
        simpa using hfield
      rw [if_neg (not_strict_of_optional _ (hname ▸ h)), Schema.project_of_isPlain (by decide)]
      rfl

theorem Unobtrusive.not_obstructs {ms : Members} (hu : Unobtrusive ms)
    (hnodup : (ms.map (·.1)).Nodup) {m : String × Value} (hm : m ∈ ms)
    (hoptional : m.1 ∈ optionalNames) : obstructs m = false := by
  obtain ⟨k, v⟩ := m
  have hget := (Members.get?_eq_some_iff hnodup).mpr hm
  unfold obstructs
  split
  · next htime =>
      have hexp : "exp" ∉ optionalNames := by decide
      rcases htime with rfl | rfl
      · exact absurd hoptional hexp
      · exact hu.nbf v hget
  · by_cases hsub : k = "sub"
    · subst hsub
      simpa using hu.sub v hget
    · simp [hsub]

/-- What is not about optional claims is found in one object if it is found in
the other. -/
theorem SameEssentials.exists {ms ms' : Members} (h : SameEssentials ms ms')
    (hn : (ms.map (·.1)).Nodup) (hn' : (ms'.map (·.1)).Nodup) {P : String × Value → Prop}
    (hP : ∀ m ∈ ms, m.1 ∈ optionalNames → ¬ P m) (hex : ∃ m ∈ ms, P m) : ∃ m ∈ ms', P m := by
  obtain ⟨⟨k, v⟩, hm, hp⟩ := hex
  have hk : k ∉ optionalNames := fun hk => hP _ hm hk hp
  refine ⟨(k, v), ?_, hp⟩
  rw [← Members.get?_eq_some_iff hn', ← h k hk]
  exact (Members.get?_eq_some_iff hn).mpr hm

/-- The first mismatch is one of the essential members. -/
theorem findSome?_essential (ms : Members) :
    (essential ms).findSome? fields.mismatch? = ms.findSome? fields.mismatch? := by
  induction ms with
  | nil => rfl
  | cons m ms ih =>
      unfold essential at ih ⊢
      by_cases hm : m.1 ∈ optionalNames
      · rw [List.filter_cons_of_neg (by simpa using hm), ih, List.findSome?_cons,
          mismatch?_of_optional hm]
      · rw [List.filter_cons_of_pos (by simpa using hm), List.findSome?_cons, ih,
          List.findSome?_cons]

section

variable {ms ms' : Members} (hn : (ms.map (·.1)).Nodup) (hn' : (ms'.map (·.1)).Nodup)
include hn hn'

theorem SameEssentials.mismatch (h : SameEssentials ms ms')
    (hms : ms'.findSome? fields.mismatch? = none) : ms.findSome? fields.mismatch? = none := by
  cases hfirst : ms.findSome? fields.mismatch? with
  | none => rfl
  | some e =>
      obtain ⟨m, hm, he⟩ := h.exists hn hn' (P := fun m => fields.mismatch? m = some e)
        (fun m _ hoptional => by simp [mismatch?_of_optional hoptional])
        (List.exists_of_findSome?_eq_some hfirst)
      rw [List.findSome?_eq_none_iff.mp hms m hm] at he
      cases he

theorem SameEssentials.obstructs (h : SameEssentials ms ms') (hu : Unobtrusive ms)
    (hms : ms.any Token.obstructs = true) : ms'.any Token.obstructs = true := by
  rw [List.any_eq_true] at hms ⊢
  refine h.exists hn hn' ?_ hms
  intro m hm hoptional
  simp [hu.not_obstructs hn hm hoptional]

end

theorem Agree.of_same {ms ms' : Members} (h : SameEssentials ms ms') :
    Agree (ofMembers ms) (ofMembers ms') := by
  have hget : ∀ {name}, name ∉ optionalNames → Members.get? ms name = Members.get? ms' name :=
    fun {name} hname => h name hname
  constructor <;>
    simp (disch := decide) only [ofMembers, timeOf, audienceOf, Members.text?, hget]

/-- Two payloads that differ in unobtrusive optional claims come to the same. -/
theorem view_alike {ms ms' : Members} (hn : (ms.map (·.1)).Nodup) (hn' : (ms'.map (·.1)).Nodup)
    (hu : Unobtrusive ms) (hu' : Unobtrusive ms') (h : SameEssentials ms ms')
    {E : Cause → Cause → Prop} (hE : ∀ c c', (essential ms = essential ms' → c = c') → E c c') :
    Alike E Agree (view ms) (view ms') := by
  have hback : SameEssentials ms' ms := fun name hname => (h name hname).symm
  unfold view
  cases hms : ms.findSome? fields.mismatch? with
  | some e =>
      cases hms' : ms'.findSome? fields.mismatch? with
      | some e' =>
          refine .error (hE _ _ ?_)
          intro heq
          rw [← findSome?_essential, heq, findSome?_essential, hms'] at hms
          cases hms
          rfl
      | none =>
          rw [h.mismatch hn hn' hms'] at hms
          cases hms
  | none =>
      rw [hback.mismatch hn' hn hms]
      by_cases hstop : ms.any Token.obstructs = true
      · simp only [hstop, h.obstructs hn hn' hu hstop, if_true]
        exact .error (hE _ _ fun _ => rfl)
      · have hstop' : ¬ ms'.any Token.obstructs = true :=
          mt (hback.obstructs hn' hn hu') hstop
        simp only [hstop, hstop']
        exact .ok (.of_same h)

/-- Only unobtrusive optional claims let a payload pass. -/
theorem unobtrusive_of_view {ms : Members} (hn : (ms.map (·.1)).Nodup) {d : Claims}
    (h : view ms = .ok d) : Unobtrusive ms := by
  have hfree : ∀ {name v}, Members.get? ms name = some v → Token.obstructs (name, v) = false := by
    intro name v hget
    unfold view at h
    split at h
    · cases h
    · split at h
      · cases h
      · next hstop =>
          rw [Bool.not_eq_true, List.any_eq_false] at hstop
          simpa using hstop _ ((Members.get?_eq_some_iff hn).mp hget)
  refine ⟨fun v hv => ?_, fun v hv => ?_⟩
  · simpa [Token.obstructs] using hfree hv
  · simpa [Token.obstructs] using hfree hv

end Claims

/-- Verified claims that agree in everything that is required. -/
structure VerifiedClaims.Agree (c c' : VerifiedClaims) : Prop where
  iss : c.iss = c'.iss
  aud : c.aud = c'.aud
  exp : c.exp = c'.exp
  repository : c.repository = c'.repository
  actor : c.actor = c'.actor

/-- The checks look at nothing but the required claims. -/
theorem Claims.Agree.verify {d d' : Claims} (h : d.Agree d') (e : Expectation) (now : Int) :
    Alike Eq VerifiedClaims.Agree (d.verify e now) (d'.verify e now) := by
  unfold Claims.verify
  rw [h.iss, h.aud, h.exp, h.repository, h.actor]
  refine .bind_same (fun _ => rfl) fun iss _ => ?_
  refine .bind_same (fun _ => rfl) fun aud _ => ?_
  refine .bind_same (fun _ => rfl) fun repository _ => ?_
  refine .bind_same (fun _ => rfl) fun actor _ => ?_
  refine .bind_same (fun _ => rfl) fun exp _ => ?_
  by_cases hle : exp ≤ now
  · simp only [if_pos hle]
    exact .error rfl
  · simp only [if_neg hle]
    exact .ok ⟨rfl, rfl, rfl, rfl, rfl⟩

end SbomGate.Token

namespace SbomGate.Auth

open Token Keys Json

/-- The error of a token whose payload is not the JSON it has to be. -/
def Error.payload (cause : Cause) (line column : Nat) : Error :=
  .tokenInvalid (.malformed (.token (.json ⟨cause, line, column⟩)))

/-- Errors that are the same, except that the JSON of a payload may be at fault
in another place, and for another cause that `E` relates. -/
inductive Error.Near (E : Cause → Cause → Prop) : Error → Error → Prop where
  | same (e : Error) : Near E e e
  | payload {c c' : Cause} (h : E c c') (line column line' column' : Nat) :
      Near E (Error.payload c line column) (Error.payload c' line' column')

/-- A token whose payload is an object with these members, under different
names, and whose signature fits the key that is looked up for it, if there is
one. -/
structure Carries (lookup : Except Keys.Fault KeySet) (token : String) (p : Parts) (ms : Members) :
    Prop where
  parts : Parts.ofToken? (bytesOf token) = some p
  payload : ∃ text, decodePart p.payload = .ok text ∧ SpellsObject text ms
  names : (ms.map (·.1)).Nodup
  signed : ∀ set h key, lookup = .ok set → Header.ofPart p.header = .ok h → Selects set h key →
    ∃ bytes, decodePart p.signature = .ok bytes ∧ Rsa.verify key p.message bytes = true

variable {lookup : Except Keys.Fault KeySet} {token : String} {p : Parts} {ms : Members}

theorem Carries.headerOf (h : Carries lookup token p ms) :
    headerOf (bytesOf token) = Header.ofPart p.header := by
  rw [Token.headerOf, h.parts]

/-- The claims of a token that carries an object are what the views make of it. -/
theorem Carries.verifySignature (hc : Carries lookup token p ms) {set : KeySet} {h : Header}
    {key : Rsa.PublicKey} (hl : lookup = .ok set) (hh : Header.ofPart p.header = .ok h)
    (hs : Selects set h key) (halg : h.algorithm = .rs256) :
    ∃ line column, (Token.verifySignature (.rsa key) (bytesOf token)).mapError Error.tokenInvalid =
      (Claims.view ms).mapError fun cause => Error.payload cause line column := by
  obtain ⟨text, ht, hspells⟩ := hc.payload
  obtain ⟨line, column, hpayload⟩ := Claims.ofPayload_of_spellsObject hspells hc.names
  have hd : Headed (bytesOf token) p h := by
    obtain ⟨p', hp', hh'⟩ := headerOf_eq_ok_iff.mp (hc.headerOf.trans hh)
    obtain rfl : p = p' := Option.some.inj (hc.parts.symm.trans hp'.ofToken?)
    exact ⟨hp', hh⟩
  refine ⟨line, column, ?_⟩
  rw [verifySignature_of_signed hd ⟨halg, hc.signed set h key hl hh hs⟩ ht, hpayload]
  cases Claims.view ms <;> rfl

theorem Carries.conclude_alike {token' : String} {p' : Parts} {ms' : Members}
    (hc : Carries lookup token p ms) (hc' : Carries lookup token' p' ms')
    (hheader : Header.ofPart p.header = Header.ofPart p'.header) {E : Cause → Cause → Prop}
    (hview : Alike E Claims.Agree (Claims.view ms) (Claims.view ms')) (e : Expectation)
    (now : Int) :
    Alike (Error.Near E) VerifiedClaims.Agree (conclude e now (bytesOf token) lookup)
      (conclude e now (bytesOf token') lookup) := by
  cases hl : lookup with
  | error f => exact .error (.same _)
  | ok set =>
      have hread : readHeader (bytesOf token) = readHeader (bytesOf token') := by
        rw [readHeader, readHeader, hc.headerOf, hc'.headerOf, hheader]
      simp only [conclude, verifyWithKeys_eq, hread]
      refine .bind_same .same fun h hh => ?_
      refine .bind_same .same fun key hkey => ?_
      obtain ⟨rsa, rfl, hs⟩ := selectKey_eq_ok_iff.mp hkey
      refine .bind_same .same fun _ halg => ?_
      have halg := checkAlgorithm_eq_ok_iff.mp halg
      have hh' : Header.ofPart p'.header = .ok h := by
        rw [readHeader, mapError_eq_ok_iff, hc'.headerOf] at hh
        exact hh
      obtain ⟨line, column, hv⟩ := hc.verifySignature hl (hheader.trans hh') hs halg
      obtain ⟨line', column', hv'⟩ := hc'.verifySignature hl hh' hs halg
      -- from here on the two differ in what they carry
      rw [hv, hv']
      refine .bind (hview.mapError fun c c' h => .payload h line column line' column') ?_
      intro d d' hagree
      exact (hagree.verify e now).mapError fun f f' h => h ▸ .same _

theorem Carries.unobtrusive (hc : Carries lookup token p ms) {e : Expectation} {now : Int}
    {c : VerifiedClaims} (h : conclude e now (bytesOf token) lookup = .ok c) :
    Claims.Unobtrusive ms := by
  cases hl : lookup with
  | error f => rw [hl] at h; cases h
  | ok set =>
      simp only [hl, conclude, verifyWithKeys_eq] at h
      obtain ⟨header, hh, h⟩ := bind_eq_ok_iff.mp h
      obtain ⟨key, hkey, h⟩ := bind_eq_ok_iff.mp h
      obtain ⟨rsa, rfl, hs⟩ := selectKey_eq_ok_iff.mp hkey
      obtain ⟨⟨⟩, halg, h⟩ := bind_eq_ok_iff.mp h
      obtain ⟨d, hd, -⟩ := bind_eq_ok_iff.mp h
      rw [readHeader, mapError_eq_ok_iff, hc.headerOf] at hh
      obtain ⟨line, column, hv⟩ := hc.verifySignature hl hh hs (checkAlgorithm_eq_ok_iff.mp halg)
      rw [hv, mapError_eq_ok_iff] at hd
      exact Claims.unobtrusive_of_view hc.names hd

/-- **Optional claims do not decide about a token unless the standard view stops
at them.** Two tokens with one header, both signed with the key that the header
selects, whose payloads differ in optional claims at most: if the optional
claims of both are unobtrusive, both tokens are accepted with the same required
claims, or both are refused. With the rest of the payloads in the same order
they are refused for the same error, whatever its place. A token with another
optional claim in it is never accepted. -/
theorem verifyToken_unobtrusive_alike {config : Config.Verifier} {now : Int} {s : Store}
    {token₁ token₂ : String} {p₁ p₂ : Parts} {ms₁ ms₂ : Members}
    (h₁ : Carries (s.get config.keySetUrl).2 token₁ p₁ ms₁)
    (h₂ : Carries (s.get config.keySetUrl).2 token₂ p₂ ms₂)
    (hheader : Header.ofPart p₁.header = Header.ofPart p₂.header)
    (hsame : Claims.SameEssentials ms₁ ms₂) :
    let r₁ := (verifyToken config now s token₁).2
    let r₂ := (verifyToken config now s token₂).2
    (Claims.Unobtrusive ms₁ → Claims.Unobtrusive ms₂ →
      Alike (Error.Near fun _ _ => True) VerifiedClaims.Agree r₁ r₂ ∧
      (Claims.essential ms₁ = Claims.essential ms₂ →
        Alike (Error.Near Eq) VerifiedClaims.Agree r₁ r₂)) ∧
    (¬ Claims.Unobtrusive ms₂ → ∀ c, r₂ ≠ .ok c) := by
  intro r₁ r₂
  simp only [r₁, r₂, verifyToken_eq]
  refine ⟨?_, ?_⟩
  · intro hu₁ hu₂
    refine ⟨?_, ?_⟩
    · exact h₁.conclude_alike h₂ hheader
        (Claims.view_alike h₁.names h₂.names hu₁ hu₂ hsame fun _ _ _ => trivial) _ now
    · intro heq
      exact h₁.conclude_alike h₂ hheader
        (Claims.view_alike h₁.names h₂.names hu₁ hu₂ hsame fun _ _ h => h heq) _ now
  · intro hu c hc
    exact hu (h₂.unobtrusive hc)

/-! ### Tokens with odd claims -/

/-- A store whose source has the one public key for trials. -/
def sampleKeyStore : Store := { sampleStore with source := Source.empty.publish "u" [sampleJwk] }

theorem lookup_sampleKeyStore :
    (sampleKeyStore.get sampleVerifier.keySetUrl).2 = .ok ⟨"u", [sampleJwk]⟩ := by
  rfl

/-- A sample token carries its claims. -/
theorem carries_sampleToken {ms : Members} (hcanonical : (Value.object ms).Canonical)
    (hdepth : (Value.object ms).depth ≤ 127)
    (hsigned : Signed (sampleParts ms) sampleHeader samplePublicKey) :
    Carries (sampleKeyStore.get sampleVerifier.keySetUrl).2 (sampleToken ms) (sampleParts ms)
      ms where
  parts := (headed_sampleToken ms).parts.ofToken?
  payload := ⟨_, decodePart_payload _ _ _, spellsObject_text hcanonical hdepth⟩
  names := by
    rw [Value.Canonical] at hcanonical
    exact hcanonical.1.nodup
  signed := by
    intro set h key hset hh hs
    rw [lookup_sampleKeyStore] at hset
    cases hset
    obtain rfl := Except.ok.inj ((headed_sampleToken ms).header.symm.trans hh)
    obtain rfl := hs.unique (selects_sampleJwk "u" [])
    exact hsigned.signature

/-- The sample claims with optional claims of the wrong types. -/
def oddMembers : Members :=
  [("actor", .string "b"), ("aud", .string "a"), ("exp", .number (.whole 10)),
    ("iat", .string "x"), ("iss", .string "i"), ("jti", .array [.array []]), ("nbf", .object []),
    ("repository", .string "r"), ("sub", .number (.whole 7))]

/-- The sample claims with a list for a subject. -/
def listedMembers : Members :=
  [("actor", .string "b"), ("aud", .string "a"), ("exp", .number (.whole 10)),
    ("iss", .string "i"), ("repository", .string "r"), ("sub", .array [])]

theorem carries_samples :
    ∀ ms ∈ [sampleMembers, oddMembers, listedMembers],
      Carries (sampleKeyStore.get sampleVerifier.keySetUrl).2 (sampleToken ms) (sampleParts ms)
        ms := by
  intro ms hms
  have hcanonical : (Value.object ms).Canonical ∧ (Value.object ms).depth ≤ 127 := by
    simp only [List.mem_cons, List.not_mem_nil, or_false] at hms
    rcases hms with rfl | rfl | rfl <;>
      simp only [Value.Canonical, sampleMembers, oddMembers, listedMembers, Members.Sorted,
        Value.CanonicalMembers, Value.CanonicalItems, Number.InRange] <;>
      decide
  have hverify : ∀ ms ∈ [oddMembers, listedMembers],
      Rsa.verify samplePublicKey (joinParts sampleHeader.toValue (.object ms))
        (Rsa.sign sampleKey (joinParts sampleHeader.toValue (.object ms))) = true := by
    simp only [joinParts_eq]
    decide +kernel
  refine carries_sampleToken hcanonical.1 hcanonical.2 ?_
  rcases List.mem_cons.mp hms with rfl | hms
  · exact signed_sampleMembers
  · exact signed_sampleToken (hverify ms hms)

theorem header_sampleParts (ms ms' : Members) :
    Header.ofPart (sampleParts ms).header = Header.ofPart (sampleParts ms').header := by
  rw [(headed_sampleToken ms).header, (headed_sampleToken ms').header]

/-- Optional claims of the wrong types change nothing about a token that is
accepted. A list for a subject does. -/
theorem verifyToken_unobtrusive_alike_odd :
    let result := fun ms => (verifyToken sampleVerifier 0 sampleKeyStore (sampleToken ms)).2
    Claims.Unobtrusive oddMembers ∧
      Alike (Error.Near Eq) VerifiedClaims.Agree (result sampleMembers) (result oddMembers) ∧
      ¬ Claims.Unobtrusive listedMembers ∧ ∀ c, result listedMembers ≠ .ok c := by
  intro result
  have hplain := carries_samples sampleMembers (by simp)
  have hodd := carries_samples oddMembers (by simp)
  have hlisted := carries_samples listedMembers (by simp)
  have huplain : Claims.Unobtrusive sampleMembers :=
    ⟨by simp [sampleMembers], by simp [sampleMembers]⟩
  have huodd : Claims.Unobtrusive oddMembers :=
    ⟨by simp [oddMembers, Value.isContainer], by simp [oddMembers, Value.isFilled]⟩
  have hulisted : ¬ Claims.Unobtrusive listedMembers := by
    intro hu
    cases hu.sub (.array []) rfl
  have hsame := @verifyToken_unobtrusive_alike _ 0 _ _ _ _ _ _ _ hplain hodd
    (header_sampleParts _ _) (.of_essential rfl)
  have hdiffer := @verifyToken_unobtrusive_alike _ 0 _ _ _ _ _ _ _ hplain hlisted
    (header_sampleParts _ _) (.of_essential rfl)
  exact ⟨huodd, (hsame.1 huplain huodd).2 rfl, hulisted, hdiffer.2 hulisted⟩

theorem verifyToken_sampleToken {ms : Members}
    (hc : Carries (sampleKeyStore.get sampleVerifier.keySetUrl).2 (sampleToken ms) (sampleParts ms)
      ms) (now : Int) :
    ∃ line column, (verifyToken sampleVerifier now sampleKeyStore (sampleToken ms)).2 =
      ((Claims.view ms).mapError fun cause => Error.payload cause line column) >>= fun d =>
        (d.verify sampleVerifier.expectation now).mapError .ofClaimFailure := by
  have hd := headed_sampleToken ms
  have hs := selects_sampleJwk "u" []
  have halg : checkAlgorithm sampleHeader.algorithm.name = .ok () :=
    checkAlgorithm_eq_ok_iff.mpr rfl
  obtain ⟨line, column, hv⟩ := hc.verifySignature lookup_sampleKeyStore hd.header hs rfl
  refine ⟨line, column, ?_⟩
  rw [verifyToken_eq, lookup_sampleKeyStore, conclude, verifyWithKeys_eq,
    readHeader_eq_ok_iff.mpr ⟨_, hd⟩, ok_bind, selectKey_eq_ok_iff.mpr ⟨_, rfl, hs⟩, ok_bind,
    examine, halg, ok_bind, hv]

/-- Two tokens with one header and one key that differ in nothing but a subject:
without one the token is accepted, with a list for one it is refused. -/
theorem verifyToken_listed_subject :
    Carries (sampleKeyStore.get sampleVerifier.keySetUrl).2 (sampleToken sampleMembers)
      (sampleParts sampleMembers) sampleMembers ∧
    Carries (sampleKeyStore.get sampleVerifier.keySetUrl).2 (sampleToken listedMembers)
      (sampleParts listedMembers) listedMembers ∧
    (sampleParts sampleMembers).header = (sampleParts listedMembers).header ∧
    listedMembers = sampleMembers ++ [("sub", .array [])] ∧
    (∃ c, (verifyToken sampleVerifier 0 sampleKeyStore (sampleToken sampleMembers)).2 = .ok c) ∧
    ∃ line column,
      (verifyToken sampleVerifier 0 sampleKeyStore (sampleToken listedMembers)).2 =
        .error (.payload (.defect .memberEndDue) line column) := by
  have hplain := carries_samples sampleMembers (by simp)
  have hlisted := carries_samples listedMembers (by simp)
  refine ⟨hplain, hlisted, by simp only [sampleParts, signedParts], rfl, ?_, ?_⟩
  · obtain ⟨line, column, h⟩ := verifyToken_sampleToken hplain 0
    have hview : Claims.view sampleMembers = .ok (Claims.ofMembers sampleMembers) := by
      decide +kernel
    rw [h, hview]
    exact ⟨_, rfl⟩
  · obtain ⟨line, column, h⟩ := verifyToken_sampleToken hlisted 0
    have hview : Claims.view listedMembers = .error (.defect .memberEndDue) := by
      decide +kernel
    rw [h, hview]
    exact ⟨line, column, rfl⟩

end SbomGate.Auth
