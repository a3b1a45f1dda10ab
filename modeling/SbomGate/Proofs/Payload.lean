import SbomGate.Proofs.OptionalClaims
import SbomGate.Proofs.TypedView
/-!
# SbomGate.Proofs.Payload

**What an accepted payload is.**

Claims are read as an open record of plain fields. Such a record takes members
of other names for whatever they are, so the text need not spell a value that a
reader would take; it spells one under the names of the fields (`SpellsUnder`),
and checking that value is what the reading comes to
(`spellsUnder_of_readBytes`).

A record may be written as the list of its fields. The standard view takes such
a list too, but only one of five items, so a payload is an object or a list of
five.

Main results:

* `accepted_payload` — the claims of an accepted token are what its payload
  gives under their names, by name or by position.
* `listed_payload_accepted` — a list of five items is accepted.
-/

namespace SbomGate.Json

/-! ### Texts under names -/

/-- A name that is one of several. -/
def Name.isAmong (names : List String) (name : Name) : Bool :=
  match name.text with
  | .ok text => text ∈ names
  | .error _ => false

/-- A node without the members that have other names than these. -/
def Node.restrict (names : List String) : Node → Node
  | .object start ms close => .object start (ms.filter (·.1.isAmong names)) close
  | n => n

/-- A value as it is written, everything in it in canonical form. -/
def Value.canonicalInside : Value → Value
  | .object ms => .object (canonicalMembers ms)
  | v => v.canonical

/-- A text that spells a value as far as members of these names go. Nothing
follows the value, all that is open in it is closed, and what counts of it can
be read. -/
def SpellsUnder (names : List String) (text : Bytes) (v : Value) : Prop :=
  ∃ root written, Document.ofBytes text = ⟨text, root, none⟩ ∧ root.skip = .ok () ∧
    (root.restrict names).read depthLimit = .ok written ∧ written.canonicalInside = v

/-! ### Reading what counts -/

/-- What a plain schema takes could be read. -/
theorem Node.read_of_project {s : Schema} (hs : s.IsPlain) {limit : Nat} {n : Node} {w : Value}
    (h : n.project limit s = .ok w) :
    ∃ v, n.read limit = .ok v ∧ s.project v.canonical = .ok w := by
  obtain ⟨v, hv⟩ : ∃ v, n.read limit = .ok v := by
    cases n with
    | leaf start stop content =>
        rw [Node.project, Leaf.project_of_isPlain hs] at h
        obtain ⟨v, hv, -⟩ := except_bind_eq_ok_iff.mp h
        exact ⟨v, by rw [Node.read, hv]⟩
    | list start items close =>
        rw [Node.project] at h
        split at h
        · obtain ⟨v, hv, -⟩ := map_eq_ok_iff.mp h
          exact ⟨v, hv⟩
        all_goals simp_all [Schema.IsPlain]
    | object start members close =>
        rw [Node.project] at h
        split at h
        · obtain ⟨v, hv, -⟩ := map_eq_ok_iff.mp h
          exact ⟨v, hv⟩
        all_goals simp_all [Schema.IsPlain]
    | stub start b =>
        rw [Node.project] at h
        split at h <;> cases h
    | broken start b => rw [Node.project] at h; cases h
  obtain ⟨o, ho⟩ := Node.project_of_read hs hv
  rw [ho, mapError_eq_ok_iff] at h
  exact ⟨v, hv, h⟩

theorem Node.names_of_readMembers {limit : Nat} {ns : List (Name × Node)} {ms : Members}
    (h : Node.readMembers limit ns = .ok ms) :
    ns.map (·.1.text) = (Value.canonicalMembers ms).map fun m => .ok m.1 := by
  induction ns generalizing ms with
  | nil =>
      rw [Node.readMembers] at h
      cases h
      rfl
  | cons m ns ih =>
      obtain ⟨k, v, rest, rfl, hk, -, hrest⟩ := Node.readMembers_cons_iff.mp h
      simp only [Value.canonicalMembers, List.map_cons, hk, ih hrest]

section

variable {limit : Nat} {closed : Bool} {fields : Fields}

/-- Declared members have different names, and none of a field that was found. -/
theorem projectMembers_nodup {found ms out : Members}
    (hdeclared : ∀ m ∈ ms, m.1 ∈ fields.map (·.1))
    (h : projectMembers closed fields found ms = .ok out) :
    (ms.map (·.1)).Nodup ∧ ∀ m ∈ ms, Members.get? found m.1 = none := by
  induction ms generalizing found with
  | nil => simp
  | cons m ms ih =>
      obtain ⟨k, v⟩ := m
      obtain ⟨hk, hdeclared⟩ := List.forall_mem_cons.mp hdeclared
      rw [projectMembers] at h
      split at h
      · cases h
      · next hnone => exact absurd hk (projectField_eq_none hnone)
      · next s hsome =>
          obtain ⟨w, -, h⟩ := except_bind_eq_ok_iff.mp h
          obtain ⟨hnodup, hnew⟩ := ih hdeclared h
          -- later names are new to the fields found so far, and this one is among those
          have hsplit : ∀ m ∈ ms, Members.get? found m.1 = none ∧ k ≠ m.1 := by
            intro m hm
            simpa [Members.get?_append, Members.get?_cons] using hnew m hm
          refine ⟨List.nodup_cons.mpr ⟨?_, hnodup⟩, ?_⟩
          · intro hmem
            obtain ⟨m, hm, rfl⟩ := List.mem_map.mp hmem
            exact (hsplit m hm).2 rfl
          · exact List.forall_mem_cons.mpr
              ⟨(projectField_eq_some hsome).2, fun m hm => (hsplit m hm).1⟩

/-- A record skips a member, or takes it for a field. -/
theorem Node.projectMembers_cons {name : Name} {n : Node} {ns : List (Name × Node)}
    {found out : Members}
    (h : Node.projectMembers limit closed fields found ((name, n) :: ns) = .ok out) :
    ∃ k, name.text = .ok k ∧
      ((k ∉ fields.map (·.1) ∧ n.skip = .ok () ∧
          Node.projectMembers limit closed fields found ns = .ok out) ∨
        ∃ s w, projectField closed fields found k = .ok (some s) ∧ n.project limit s = .ok w ∧
          Node.projectMembers limit closed fields (found ++ [(k, w)]) ns = .ok out) := by
  rw [Node.projectMembers] at h
  split at h
  · cases h
  · next k hk =>
      refine ⟨k, hk, ?_⟩
      split at h
      · cases h
      · next hfield =>
          split at h
          · cases h
          · next hskip => exact .inl ⟨projectField_eq_none hfield, hskip, h⟩
      · next s hfield =>
          split at h
          · cases h
          · next w hw => exact .inr ⟨s, w, hfield, hw, h⟩

variable (hfields : ∀ field ∈ fields, field.2.2.IsPlain)
include hfields

/-- A record takes the members that it declares, and skips the others. -/
theorem Node.read_of_projectMembers {ns : List (Name × Node)} {found out : Members}
    (h : Node.projectMembers limit closed fields found ns = .ok out) :
    Node.skipMembers ns = .ok () ∧ ∃ ms,
      Node.readMembers limit (ns.filter (·.1.isAmong (fields.map (·.1)))) = .ok ms ∧
        Json.projectMembers closed fields found (Value.canonicalMembers ms) = .ok out := by
  induction ns generalizing found with
  | nil =>
      rw [Node.projectMembers] at h
      obtain rfl := Except.ok.inj h
      exact ⟨by rw [Node.skipMembers], [], by rw [List.filter_nil, Node.readMembers],
        by rw [Value.canonicalMembers, Json.projectMembers]⟩
  | cons m ns ih =>
      obtain ⟨name, n⟩ := m
      obtain ⟨k, hk, ⟨hother, hskip, h⟩ | ⟨s, w, hfield, hw, h⟩⟩ := Node.projectMembers_cons h
      · obtain ⟨hrest, ms, hms, hout⟩ := ih h
        refine ⟨by rw [Node.skipMembers, hskip, ok_bind, hrest], ms, ?_, hout⟩
        rwa [List.filter_cons_of_neg (by simpa only [Name.isAmong, hk, decide_eq_true_eq])]
      · obtain ⟨⟨field, hmem, rfl, rfl⟩, -⟩ := projectField_eq_some hfield
        obtain ⟨v, hv, hproject⟩ := Node.read_of_project (hfields field hmem) hw
        obtain ⟨hrest, ms, hms, hout⟩ := ih h
        refine ⟨?_, (field.1, v) :: ms, ?_, ?_⟩
        · rw [Node.skipMembers, Node.skip_of_read hv, ok_bind, hrest]
        · rw [List.filter_cons_of_pos
            (by simpa only [Name.isAmong, hk, decide_eq_true_eq] using List.mem_map_of_mem hmem)]
          exact Node.readMembers_cons_iff.mpr ⟨_, v, ms, rfl, hk, hv, hms⟩
        · rw [Value.canonicalMembers, Json.projectMembers, hfield]
          simp only [hproject, Except.bind, hout]

/-- A record in the form of a list takes all items. -/
theorem Node.read_of_projectFields {expected : String} {close : Close} {ns : List Node}
    {count : Nat} {out : Members}
    (h : Node.projectFields limit expected count fields close ns = .ok out) :
    close.read = .ok () ∧ ∃ vs, Node.readItems limit ns = .ok vs ∧ ∀ length,
      Json.projectFields expected length count fields (Value.canonicalItems vs) = .ok out := by
  induction ns generalizing fields count out with
  | nil =>
      simp only [Node.readItems, Except.ok.injEq, exists_eq_left', Value.canonicalItems]
      cases fields with
      | nil =>
          rw [Node.projectFields] at h
          obtain ⟨⟨⟩, hclose, rfl⟩ := map_eq_ok_iff.mp h
          cases close with
          | closed stop => exact ⟨rfl, fun _ => rfl⟩
          | broken b =>
              simp only [Close.readAfterFields] at hclose
              split at hclose <;> cases hclose
      | cons field fields =>
          rw [Node.projectFields] at h
          · cases close with
            | closed stop =>
                rw [Close.finish, mapError_eq_ok_iff] at h
                exact ⟨rfl, fun _ => by rw [Json.projectFields, h]⟩
            | broken b => cases h
          · simp
  | cons n ns ih =>
      cases fields with
      | nil => rw [Node.projectFields] at h; cases h
      | cons field fields =>
          obtain ⟨name, p, s⟩ := field
          obtain ⟨hs, hfields⟩ := List.forall_mem_cons.mp hfields
          rw [Node.projectFields] at h
          obtain ⟨w, hw, h⟩ := bind_eq_ok_iff.mp h
          obtain ⟨rest, hrest, h⟩ := bind_eq_ok_iff.mp h
          obtain ⟨v, hv, hproject⟩ := Node.read_of_project hs hw
          obtain ⟨hclose, vs, hvs, hout⟩ := ih hfields hrest
          refine ⟨hclose, v :: vs, ?_, ?_⟩
          · exact Node.readItems_cons_iff.mpr ⟨v, vs, rfl, hv, hvs⟩
          · intro length
            rw [Value.canonicalItems, Json.projectFields]
            simp only [hproject, Except.bind, hout, Except.map, Except.ok.inj h]

/-- Reading an open record from a text is checking the value that it spells under
the names of the fields. -/
theorem spellsUnder_of_readBytes {title : String} {text : Bytes} {w : Value}
    (h : (Schema.record title closed fields).readBytes text = .ok w) :
    ∃ v, SpellsUnder (fields.map (·.1)) text v ∧
      (Schema.record title closed fields).project v = .ok w := by
  obtain ⟨root, hdocument, hroot⟩ := Document.root_of_finish h
  cases root with
  | leaf start stop content =>
      rw [Node.project] at hroot
      unfold Leaf.project at hroot
      obtain ⟨v, -, hscalar⟩ := except_bind_eq_ok_iff.mp hroot
      simp [Schema.projectScalar, projectAt, Except.mapError] at hscalar
  | list start items close =>
      simp only [Node.project, Schema.core] at hroot
      split at hroot
      · cases hroot
      · next hlimit =>
          obtain ⟨out, hout, rfl⟩ := map_eq_ok_iff.mp hroot
          obtain ⟨hclose, vs, hvs, hproject⟩ := Node.read_of_projectFields hfields hout
          have hread : (Node.list start items close).read depthLimit = .ok (.array vs) := by
            rw [Node.read, if_neg hlimit, hvs, ok_bind, hclose, ok_bind]
          refine ⟨_, ⟨_, _, hdocument, Node.skip_of_read hread, hread, rfl⟩, ?_⟩
          simp only [Value.canonicalInside, Value.canonical, Schema.project, Schema.core, hproject,
            Except.map]
  | object start members close =>
      simp only [Node.project, Schema.core] at hroot
      split at hroot
      · cases hroot
      · next hlimit =>
          obtain ⟨found, hfound, hroot⟩ := bind_eq_ok_iff.mp hroot
          obtain ⟨hskip, ms, hms, hproject⟩ := Node.read_of_projectMembers hfields hfound
          cases close with
          | broken b => cases hroot
          | closed stop =>
              rw [Close.finish, mapError_eq_ok_iff] at hroot
              refine ⟨.object (Value.canonicalMembers ms),
                ⟨_, .object ms, hdocument, ?_, ?_, rfl⟩, ?_⟩
              · rw [Node.skip, hskip, ok_bind, Close.skip]
              · rw [Node.restrict, Node.read, if_neg hlimit, hms, ok_bind, Close.read, ok_bind]
              · simp only [Schema.project, Schema.core, hproject, Except.bind, hroot]
  | stub start b =>
      rw [Node.project] at hroot
      cases hroot
  | broken start b => rw [Node.project] at hroot; cases hroot

end

theorem Node.length_of_readItems {limit : Nat} {ns : List Node} {vs : List Value}
    (h : Node.readItems limit ns = .ok vs) : (Value.canonicalItems vs).length = ns.length := by
  induction ns generalizing vs with
  | nil =>
      rw [Node.readItems] at h
      cases h
      rfl
  | cons n ns ih =>
      obtain ⟨v, rest, rfl, -, hrest⟩ := Node.readItems_cons_iff.mp h
      simp only [Value.canonicalItems, List.length_cons, ih hrest]

namespace SpellsUnder

variable {names : List String} {text : Bytes}

/-- Nothing is spelled by members of other names. -/
theorem names_declared {ms : Members} (h : SpellsUnder names text (.object ms)) :
    ∀ m ∈ ms, m.1 ∈ names := by
  obtain ⟨root, written, -, -, hread, hwritten⟩ := h
  obtain ⟨ms', rfl, rfl⟩ : ∃ ms', written = .object ms' ∧ Value.canonicalMembers ms' = ms := by
    cases written with
    | object ms' => exact ⟨ms', rfl, Value.object.inj hwritten⟩
    | _ => cases hwritten
  obtain ⟨start, ns, stop, hroot, -, hns⟩ := Node.object_of_read hread
  have hamong : ∀ n ∈ ns, n.1.isAmong names = true := by
    cases root with
    | object start' ns' close' =>
        obtain ⟨-, rfl, -⟩ := Node.object.inj hroot
        exact fun n hn => (List.mem_filter.mp hn).2
    | _ => cases hroot
  intro m hm
  have htext : Except.ok m.1 ∈ ns.map (·.1.text) := by
    rw [Node.names_of_readMembers hns]
    exact List.mem_map.mpr ⟨m, hm, rfl⟩
  obtain ⟨n, hn, hname⟩ := List.mem_map.mp htext
  simpa [Name.isAmong, hname] using hamong n hn

/-- A list is spelled by one with as many items, which is closed. -/
theorem list_of_array {items : List Value} (h : SpellsUnder names text (.array items)) :
    ∃ start ns stop, (Document.ofBytes text).root = .list start ns (.closed stop) ∧
      ns.length = items.length := by
  obtain ⟨root, written, hdocument, -, hread, hwritten⟩ := h
  obtain ⟨vs, rfl, rfl⟩ : ∃ vs, written = .array vs ∧ Value.canonicalItems vs = items := by
    cases written with
    | array vs => exact ⟨vs, rfl, Value.array.inj hwritten⟩
    | _ => cases hwritten
  obtain ⟨start, ns, stop, hroot, -, hns⟩ := Node.list_of_read hread
  refine ⟨start, ns, stop, ?_, (Node.length_of_readItems hns).symm⟩
  rw [hdocument]
  cases root with
  | list start' ns' close' => exact hroot
  | _ => cases hroot

end SpellsUnder

end SbomGate.Json

namespace SbomGate.Token

open Json

/-! ### Payloads -/

/-- The standard view takes a list only if it has as many items as there are
standard names. -/
theorem length_of_listFault? {stop : Nat} {names : List String} {ns : List Node} {count : Nat}
    (h : listFault? count (.closed stop) names ns = none) : ns.length = names.length := by
  induction names generalizing ns count with
  | nil =>
      cases ns with
      | nil => rfl
      | cons n ns => cases h
  | cons name names ih =>
      cases ns with
      | nil => cases h
      | cons n ns =>
          rw [listFault?] at h
          split at h
          · cases h
          · rw [List.length_cons, List.length_cons, ih h]

namespace Claims

/-- What a payload can be: an object, its members under different names, or a
list of five items. -/
inductive IsPayload : Value → Prop
  | object {ms : Members} (h : (ms.map (·.1)).Nodup) : IsPayload (.object ms)
  | list {items : List Value} (h : items.length = 5) : IsPayload (.array items)

/-- Claims that are what a value gives under their names. The audience may be
any value but null. -/
structure TakenFrom (v : Value) (d : Claims) : Prop where
  iss : OptionalOf IsText (v.field? claimNames "iss") d.iss
  aud : d.aud = (v.field? claimNames "aud").filter (· ≠ .null)
  exp : d.exp = (v.field? claimNames "exp").bind lenientTime
  repository : OptionalOf IsText (v.field? claimNames "repository") d.repository
  actor : OptionalOf IsText (v.field? claimNames "actor") d.actor

/-- A field of any type is taken as it stands. -/
theorem get?_of_recordRead {v : Value} {out : Members} (h : RecordRead fields v out)
    (name : String) (hfield : fields.find? (·.1 = name) = some (name, .defaulted, .anything)) :
    Members.get? out name = v.field? claimNames name := by
  rcases (h.field hfield).1.cases with ⟨hv, hw⟩ | ⟨given, w, hv, hw, hread⟩
  · exact hw.trans hv.symm
  · rw [Schema.project_of_isPlain (by decide)] at hread
    obtain rfl := Schema.projectScalar_eq_self hread
    exact hw.trans hv.symm

theorem takenFrom_of_recordRead {v : Value} {out : Members} (h : RecordRead fields v out) :
    TakenFrom v (ofMembers out) where
  iss := h.optionalText rfl
  aud := by rw [← get?_of_recordRead h "aud" rfl]; rfl
  exp := by rw [← get?_of_recordRead h "exp" rfl]; rfl
  repository := h.optionalText rfl
  actor := h.optionalText rfl

/-- What is read for claims is a record that the text spells under their names. -/
theorem recordRead_of_readBytes {text : Bytes} {w : Value} (h : schema.readBytes text = .ok w) :
    ∃ v out, SpellsUnder claimNames text v ∧ schema.project v = .ok w ∧ w = .object out ∧
      RecordRead fields v out := by
  obtain ⟨v, hspells, hproject⟩ : ∃ v, SpellsUnder claimNames text v ∧ schema.project v = .ok w :=
    spellsUnder_of_readBytes (fun field hmem => (fields_plain field hmem).1) h
  obtain ⟨out, rfl, hrecord⟩ : ∃ out, w = .object out ∧ RecordRead fields v out :=
    recordRead_of_project hproject
  exact ⟨v, out, hspells, hproject, rfl, hrecord⟩

theorem recordRead_of_ofBytes {text : Bytes} {d : Claims} (h : ofBytes text = .ok d) :
    ∃ v out, SpellsUnder claimNames text v ∧ RecordRead fields v out ∧ d = ofMembers out := by
  obtain ⟨w, hw, rfl⟩ := map_eq_ok_iff.mp h
  obtain ⟨v, out, hspells, -, rfl, hrecord⟩ := recordRead_of_readBytes hw
  exact ⟨v, out, hspells, hrecord, rfl⟩

/-- A payload that is read spells an object or a list of five items, and the
claims are taken from there. -/
theorem ofPayload_sound {text : Bytes} {d : Claims} (h : ofPayload text = .ok d) :
    ∃ v, SpellsUnder claimNames text v ∧ IsPayload v ∧ TakenFrom v d := by
  unfold ofPayload at h
  obtain ⟨w, hw, h⟩ := bind_eq_ok_iff.mp h
  rw [mapError_eq_ok_iff] at hw
  obtain ⟨v, out, hspells, hproject, rfl, hrecord⟩ := recordRead_of_readBytes hw
  split at h
  · cases h
  · next hfault =>
      obtain rfl := Except.ok.inj h
      refine ⟨v, hspells, ?_, takenFrom_of_recordRead hrecord⟩
      rcases hrecord.isRecord with hobject | ⟨items, rfl, -⟩
      · cases v with
        | object ms =>
            obtain ⟨found, hfound, -⟩ := except_bind_eq_ok_iff.mp hproject
            exact .object (projectMembers_nodup hspells.names_declared hfound).1
        | _ => cases hobject
      · -- the claims alone would have allowed for any list of up to sixteen items
        obtain ⟨start, ns, stop, hroot, hlength⟩ := hspells.list_of_array
        rw [hroot] at hfault
        exact .list (hlength.symm.trans (length_of_listFault? hfault))

end Claims

end SbomGate.Token

namespace SbomGate.Auth

open Token Keys Json

/-- The payload of a token spells an object or a list of five items, and these
claims are what it gives under their names. -/
def GivesClaims (token : Bytes) (d : Claims) : Prop :=
  ∃ p text v, Parts.ofToken? token = some p ∧ decodePart p.payload = .ok text ∧
    SpellsUnder claimNames text v ∧ Claims.IsPayload v ∧ Claims.TakenFrom v d

theorem givesClaims_of_claimed {token : Bytes} {p : Parts} {d : Claims}
    (hp : Parts.ofToken? token = some p) (hc : Claimed p d) : GivesClaims token d := by
  obtain ⟨text, htext, hpayload⟩ := hc
  obtain ⟨v, hspells, hv, htaken⟩ := Claims.ofPayload_sound hpayload
  exact ⟨p, text, v, hp, htext, hspells, hv, htaken⟩

/-- Signatures are verified with RSA keys, of tokens that have a header. -/
theorem headed_of_verifySignature {key : VerificationKey} {token : Bytes} {d : Claims}
    (h : verifySignature key token = .ok d) : ∃ rsa p hdr, key = .rsa rsa ∧ Headed token p hdr := by
  have hwith : verifyWith key token = .ok d := mapError_eq_ok_iff.mp h
  cases key with
  | other => cases hwith
  | rsa rsa =>
      rw [verifyWith] at hwith
      split at hwith
      · cases hwith
      · next p hp =>
          obtain ⟨hdr, hhdr, -⟩ := bind_eq_ok_iff.mp hwith
          have hheader : headerOf token = .ok hdr := by
            rw [headerOf, hp]
            exact hhdr
          obtain ⟨p', hp', hh'⟩ := headerOf_eq_ok_iff.mp hheader
          exact ⟨rsa, p', hdr, rfl, hp', hh'⟩

theorem givesClaims_of_verifySignature {key : VerificationKey} {token : Bytes} {d : Claims}
    (h : verifySignature key token = .ok d) : GivesClaims token d := by
  obtain ⟨rsa, p, hdr, rfl, hd⟩ := headed_of_verifySignature h
  exact givesClaims_of_claimed hd.parts.ofToken? ((verifySignature_eq_ok_iff hd).mp h).2

/-- Tokens are accepted as they are in a credential. -/
theorem attested_of_verifyToken {config : Config.Verifier} {now : Int} {s : Store}
    {token : String} {c : VerifiedClaims} (h : (verifyToken config now s token).2 = .ok c) :
    ∃ set, Attested set config.expectation (bytesOf token) c ∧ now < c.exp := by
  have hverify : (verify config now s (some (scheme ++ token))).2 = .ok c := by
    rw [verifyToken_eq] at h
    rw [verify_of_token, ← h]
    cases (s.get config.keySetUrl).2 <;> rfl
  obtain ⟨token', set, htoken, -, hattested, hlt⟩ := attested_of_verify hverify
  obtain rfl := scheme_append_inj.mp (Option.some.inj htoken)
  exact ⟨set, hattested, hlt⟩

theorem givesClaims_of_verifyToken {config : Config.Verifier} {now : Int} {s : Store}
    {token : String} {c : VerifiedClaims} (h : (verifyToken config now s token).2 = .ok c) :
    GivesClaims (bytesOf token) c.found := by
  obtain ⟨set, hattested, -⟩ := attested_of_verifyToken h
  obtain ⟨p, hdr, key, hd, -, -, hclaimed⟩ := hattested.signed
  exact givesClaims_of_claimed hd.parts.ofToken? hclaimed

/-- **Accepted payloads are objects or lists of five items.** The claims of a
token whose signature fits are what its payload gives under their names, an
object by name and a list by position: issuer, repository and actor are the
strings there, the audience is the value, and each is none where nothing or null
stands; the expiry is the time that the value there is read as. The verified
claims of a token that is accepted are such claims. -/
theorem accepted_payload {token : String} {d : Claims}
    (h : (∃ key, verifySignature key (bytesOf token) = .ok d) ∨
      ∃ config now s c, (verifyToken config now s token).2 = .ok c ∧ c.found = d) :
    GivesClaims (bytesOf token) d := by
  rcases h with ⟨key, h⟩ | ⟨config, now, s, c, h, rfl⟩
  · exact givesClaims_of_verifySignature h
  · exact givesClaims_of_verifyToken h

/-! ### Payloads of both kinds -/

/-- The sample claims as a list. -/
def listedClaims : Value :=
  .array [.string "i", .string "a", .number (.whole 10), .string "r", .string "b"]

theorem signed_listedClaims :
    Signed (signedParts sampleKey (some "k") listedClaims) sampleHeader samplePublicKey := by
  refine signed_sign ?_
  rw [joinParts_eq]
  decide +kernel

/-- Both forms give the same claims. -/
theorem claimed_listedClaims :
    Claimed (signedParts sampleKey (some "k") listedClaims) (Claims.ofMembers sampleMembers) := by
  refine ⟨_, decodePart_payload _ _ _, ?_⟩
  decide +kernel

theorem verifyToken_sign {claims : Value}
    (hs : Signed (signedParts sampleKey (some "k") claims) sampleHeader samplePublicKey)
    (hc : Claimed (signedParts sampleKey (some "k") claims) (Claims.ofMembers sampleMembers)) :
    ∃ c, (verifyToken sampleVerifier 0 sampleKeyStore (sign sampleKey (some "k") claims)).2 =
      .ok c := by
  rw [verifyToken_eq, lookup_sampleKeyStore, conclude,
    verifyWithKeys_of_signed (headed_sign _ _ _) (selects_sampleJwk "u" []) hs hc]
  exact ⟨_, rfl⟩

/-- The claims of the sample payloads, one an object and one a list. -/
theorem accepted_payload_either :
    verifySignature (.rsa samplePublicKey) (bytesOf (sampleToken sampleMembers)) =
        .ok (Claims.ofMembers sampleMembers) ∧
      GivesClaims (bytesOf (sampleToken sampleMembers)) (Claims.ofMembers sampleMembers) ∧
      ∃ c, (verifyToken sampleVerifier 0 sampleKeyStore
          (sign sampleKey (some "k") listedClaims)).2 = .ok c ∧
        GivesClaims (bytesOf (sign sampleKey (some "k") listedClaims)) c.found := by
  have hobject := (verifySignature_eq_ok_iff (headed_sampleToken sampleMembers)).mpr
    ⟨signed_sampleMembers, claimed_sampleMembers⟩
  obtain ⟨c, hlist⟩ := verifyToken_sign signed_listedClaims claimed_listedClaims
  exact ⟨hobject, accepted_payload (.inl ⟨_, hobject⟩), c, hlist,
    accepted_payload (.inr ⟨_, _, _, c, hlist, rfl⟩)⟩

/-- A signed token whose payload is a list is accepted. -/
theorem listed_payload_accepted :
    let token := sign sampleKey (some "k") listedClaims
    (∃ p text, Parts.ofToken? (bytesOf token) = some p ∧ decodePart p.payload = .ok text ∧
      Value.ofBytes text = .ok listedClaims ∧ listedClaims.isObject = false) ∧
    verifySignature (.rsa samplePublicKey) (bytesOf token) =
      .ok (Claims.ofMembers sampleMembers) ∧
    ∃ c, (verifyToken sampleVerifier 0 sampleKeyStore token).2 = .ok c := by
  intro token
  have hd : Headed (bytesOf token) _ sampleHeader := headed_sign _ _ listedClaims
  have hcanonical : listedClaims.Canonical := by
    simp only [listedClaims, Value.Canonical, Value.CanonicalItems, Number.InRange]
    decide
  refine ⟨⟨_, _, hd.parts.ofToken?, decodePart_payload _ _ _,
    (ofBytes_text hcanonical).1 (by decide), rfl⟩, ?_, ?_⟩
  · exact (verifySignature_eq_ok_iff hd).mpr ⟨signed_listedClaims, claimed_listedClaims⟩
  · exact verifyToken_sign signed_listedClaims claimed_listedClaims

end SbomGate.Auth
