import SbomGate.Json.Projection
import SbomGate.Proofs.Record
/-!
# SbomGate.Proofs.PlainReading

**Reading a text through a schema is checking the value that it spells**, for
records whose fields are taken as a whole or not at all. A field may be as
complicated as it likes if it is given a string.

A text can fail to be read through a schema at a place where another reader
goes on, so in general the two have little to do with each other. Of a text
that spells an object (`SpellsObject`) no reader finds fault with the grammar,
and what is left of the difference is the place of a mismatch
(`readBytes_of_spellsObject`).
-/

namespace SbomGate.Json

/-! ### Plain schemas -/

/-- Schemas that take a value as a whole or not at all. -/
def Schema.IsPlain (s : Schema) : Prop :=
  match s.core with
  | .anything | .string | .word64 | .int64 | .spelling _ _ => True
  | _ => False

instance (s : Schema) : Decidable s.IsPlain := by
  unfold Schema.IsPlain
  split <;> infer_instance

namespace Schema

theorem projectScalar_core {v : Value} (hv : v ≠ .null) (s : Schema) :
    s.projectScalar v = s.core.projectScalar v := by
  fun_induction Schema.core s with
  | case1 inner ih =>
      rw [← ih]
      cases v with
      | null => exact absurd rfl hv
      | _ => simp only [projectScalar]
  | case2 s _ => rfl

theorem project_of_isPlain {s : Schema} (hs : s.IsPlain) (v : Value) :
    s.project v = s.projectScalar v := by
  cases v with
  | array items =>
      rw [projectScalar_core (by simp), project]
      unfold IsPlain at hs
      split at hs <;> simp_all
  | object members =>
      rw [projectScalar_core (by simp), project]
      unfold IsPlain at hs
      split at hs <;> simp_all
  | _ => simp only [project]

/-- A value that is taken is taken as it is. -/
theorem projectScalar_eq_self {s : Schema} {v w : Value} (h : s.projectScalar v = .ok w) :
    w = v := by
  fun_induction projectScalar s v <;> grind

end Schema

/-! ### Nodes that can be read -/

theorem Close.closed_of_read {close : Close} (h : close.read = .ok ()) :
    ∃ stop, close = .closed stop := by
  cases close with
  | closed stop => exact ⟨stop, rfl⟩
  | broken b => cases h

namespace Node

variable {limit start : Nat} {close : Close} {v : Value}

/-- An array can be read if it is closed and its items can be read. -/
theorem read_list_iff {items : List Node} :
    (Node.list start items close).read limit = .ok v ↔
      ∃ vs stop, v = .array vs ∧ close = .closed stop ∧ 1 < limit ∧
        readItems (limit - 1) items = .ok vs := by
  rw [read]
  constructor
  · intro h
    split at h
    · cases h
    · next hlimit =>
        obtain ⟨vs, hvs, h⟩ := bind_eq_ok_iff.mp h
        obtain ⟨⟨⟩, hclose, h⟩ := bind_eq_ok_iff.mp h
        obtain ⟨stop, rfl⟩ := Close.closed_of_read hclose
        exact ⟨vs, stop, (Except.ok.inj h).symm, rfl, Nat.lt_of_not_le hlimit, hvs⟩
  · rintro ⟨vs, stop, rfl, rfl, hlimit, hvs⟩
    rw [if_neg (Nat.not_le.mpr hlimit), hvs, ok_bind, Close.read, ok_bind]

/-- An object can be read if it is closed and its members can be read. -/
theorem read_object_iff {members : List (Name × Node)} :
    (Node.object start members close).read limit = .ok v ↔
      ∃ ms stop, v = .object ms ∧ close = .closed stop ∧ 1 < limit ∧
        readMembers (limit - 1) members = .ok ms := by
  rw [read]
  constructor
  · intro h
    split at h
    · cases h
    · next hlimit =>
        obtain ⟨ms, hms, h⟩ := bind_eq_ok_iff.mp h
        obtain ⟨⟨⟩, hclose, h⟩ := bind_eq_ok_iff.mp h
        obtain ⟨stop, rfl⟩ := Close.closed_of_read hclose
        exact ⟨ms, stop, (Except.ok.inj h).symm, rfl, Nat.lt_of_not_le hlimit, hms⟩
  · rintro ⟨ms, stop, rfl, rfl, hlimit, hms⟩
    rw [if_neg (Nat.not_le.mpr hlimit), hms, ok_bind, Close.read, ok_bind]

theorem readItems_cons_iff {n : Node} {ns : List Node} {vs : List Value} :
    readItems limit (n :: ns) = .ok vs ↔
      ∃ v rest, vs = v :: rest ∧ n.read limit = .ok v ∧ readItems limit ns = .ok rest := by
  rw [readItems, bind_eq_ok_iff]
  constructor
  · rintro ⟨v, hv, h⟩
    obtain ⟨rest, hrest, h⟩ := bind_eq_ok_iff.mp h
    exact ⟨v, rest, (Except.ok.inj h).symm, hv, hrest⟩
  · rintro ⟨v, rest, rfl, hv, hrest⟩
    exact ⟨v, hv, by rw [hrest, ok_bind]⟩

theorem readMembers_cons_iff {name : Name} {n : Node} {ns : List (Name × Node)} {ms : Members} :
    readMembers limit ((name, n) :: ns) = .ok ms ↔
      ∃ k v rest, ms = (k, v) :: rest ∧ name.text = .ok k ∧ n.read limit = .ok v ∧
        readMembers limit ns = .ok rest := by
  rw [readMembers, bind_eq_ok_iff]
  constructor
  · rintro ⟨k, hk, h⟩
    obtain ⟨v, hv, h⟩ := bind_eq_ok_iff.mp h
    obtain ⟨rest, hrest, h⟩ := bind_eq_ok_iff.mp h
    exact ⟨k, v, rest, (Except.ok.inj h).symm, hk, hv, hrest⟩
  · rintro ⟨k, v, rest, rfl, hk, hv, hrest⟩
    exact ⟨k, hk, by rw [hv, ok_bind, hrest, ok_bind]⟩

end Node

mutual

/-- A skipper finds no fault where a reader finds none. -/
theorem Node.skip_of_read {limit : Nat} : ∀ {n : Node} {v : Value},
    n.read limit = .ok v → n.skip = .ok ()
  | .leaf _ _ _, _, _ => by rw [Node.skip]
  | .list _ items _, _, h => by
      obtain ⟨vs, stop, -, rfl, -, hvs⟩ := Node.read_list_iff.mp h
      rw [Node.skip, Node.skipItems_of_read hvs, ok_bind, Close.skip]
  | .object _ members _, _, h => by
      obtain ⟨ms, stop, -, rfl, -, hms⟩ := Node.read_object_iff.mp h
      rw [Node.skip, Node.skipMembers_of_read hms, ok_bind, Close.skip]
  | .stub _ _, _, h => by rw [Node.read] at h; cases h
  | .broken _ _, _, h => by rw [Node.read] at h; cases h

theorem Node.skipItems_of_read {limit : Nat} : ∀ {ns : List Node} {vs : List Value},
    Node.readItems limit ns = .ok vs → Node.skipItems ns = .ok ()
  | [], _, _ => by rw [Node.skipItems]
  | n :: ns, vs, h => by
      obtain ⟨v, rest, -, hv, hrest⟩ := Node.readItems_cons_iff.mp h
      rw [Node.skipItems, Node.skip_of_read hv, ok_bind, Node.skipItems_of_read hrest]

theorem Node.skipMembers_of_read {limit : Nat} : ∀ {ns : List (Name × Node)} {ms : Members},
    Node.readMembers limit ns = .ok ms → Node.skipMembers ns = .ok ()
  | [], _, _ => by rw [Node.skipMembers]
  | (name, n) :: ns, ms, h => by
      obtain ⟨k, v, rest, -, -, hv, hrest⟩ := Node.readMembers_cons_iff.mp h
      rw [Node.skipMembers, Node.skip_of_read hv, ok_bind, Node.skipMembers_of_read hrest]

end

/-! ### Projections of nodes that can be read -/

/-- Arrays and objects. -/
def Value.isContainer : Value → Bool
  | .array _ | .object _ => true
  | _ => false

theorem Value.canonical_of_scalar {v : Value} (h : v.isContainer = false) : v.canonical = v := by
  cases v with
  | array items => cases h
  | object members => cases h
  | _ => rfl

theorem Value.eq_string_of_canonical {v : Value} {t : String} (h : v.canonical = .string t) :
    v = .string t := by
  cases v with
  | string u => exact h
  | _ => cases h

theorem Leaf.scalar_of_read {content : Leaf} {v : Value} (h : content.read = .ok v) :
    v.isContainer = false := by
  cases content with
  | null => cases h; rfl
  | bool b => cases h; rfl
  | number n => obtain ⟨k, -, rfl⟩ := map_eq_ok_iff.mp h; rfl
  | string s => obtain ⟨t, -, rfl⟩ := map_eq_ok_iff.mp h; rfl

theorem Leaf.project_of_isPlain {s : Schema} (hs : s.IsPlain) (start stop : Nat) (content : Leaf) :
    content.project s start stop =
      content.read.bind fun v => projectAt stop (s.projectScalar v) := by
  unfold Schema.IsPlain at hs
  unfold Leaf.project
  split <;> simp_all

/-- A plain schema checks the value that is read, and says where. -/
theorem Node.project_of_read {s : Schema} (hs : s.IsPlain) {limit : Nat} {n : Node} {v : Value}
    (h : n.read limit = .ok v) :
    ∃ o, n.project limit s = (s.project v.canonical).mapError (·.at o) := by
  rw [Schema.project_of_isPlain hs]
  cases n with
  | leaf start stop content =>
      rw [Node.read] at h
      rw [Node.project, Leaf.project_of_isPlain hs, h,
        Value.canonical_of_scalar (Leaf.scalar_of_read h)]
      exact ⟨stop, rfl⟩
  | list start items close =>
      obtain ⟨vs, -, rfl, -⟩ := Node.read_list_iff.mp h
      rw [Node.project, h, Value.canonical, Schema.projectScalar_core (by simp)]
      refine ⟨start, ?_⟩
      unfold Schema.IsPlain at hs
      split at hs <;> simp_all only <;> rfl
  | object start members close =>
      obtain ⟨ms, -, rfl, -⟩ := Node.read_object_iff.mp h
      rw [Node.project, h, Value.canonical, Schema.projectScalar_core (by simp)]
      refine ⟨start, ?_⟩
      unfold Schema.IsPlain at hs
      split at hs <;> simp_all only <;> rfl
  | stub start b => rw [Node.read] at h; cases h
  | broken start b => rw [Node.read] at h; cases h

theorem Leaf.string_of_read {content : Leaf} {t : String} (h : content.read = .ok (.string t)) :
    content = .string (.ok t) := by
  cases content with
  | string text =>
      obtain ⟨u, rfl, hu⟩ := map_eq_ok_iff.mp h
      rw [Value.string.inj hu]
  | number n =>
      obtain ⟨k, -, hk⟩ := map_eq_ok_iff.mp h
      cases hk
  | _ => cases h

theorem Leaf.project_string (s : Schema) (start stop : Nat) (t : String) :
    Leaf.project s start stop (.string (.ok t)) = projectAt stop (s.projectScalar (.string t)) := by
  unfold Leaf.project
  split
  · next names text hcore htext =>
      obtain rfl := Leaf.string.inj htext
      rw [Schema.projectScalar_core (by simp), hcore]
      rfl
  · next h => cases h
  · next names hcore hother _ => exact absurd rfl (hother (.ok t))
  · rfl

/-- A string is checked by every schema as it is read. -/
theorem Node.project_of_string {limit : Nat} {n : Node} {t : String}
    (h : n.read limit = .ok (.string t)) (s : Schema) :
    ∃ o, n.project limit s = (s.project (.string t)).mapError (·.at o) := by
  cases n with
  | leaf start stop content =>
      rw [Node.read] at h
      obtain rfl := Leaf.string_of_read h
      refine ⟨stop, ?_⟩
      rw [Node.project, Leaf.project_string, Schema.project]
      · rfl
      all_goals simp
  | list start items close =>
      obtain ⟨vs, -, hv, -⟩ := Node.read_list_iff.mp h
      cases hv
  | object start members close =>
      obtain ⟨ms, -, hv, -⟩ := Node.read_object_iff.mp h
      cases hv
  | stub start b => rw [Node.read] at h; cases h
  | broken start b => rw [Node.read] at h; cases h

/-- What a record reads a member through is the schema of a field of that name,
which was not found before. -/
theorem projectField_eq_some {closed : Bool} {fields : Fields} {found : Members} {name : String}
    {s : Schema} (h : projectField closed fields found name = .ok (some s)) :
    (∃ field ∈ fields, field.1 = name ∧ field.2.2 = s) ∧ Members.get? found name = none := by
  unfold projectField at h
  split at h
  · next field p s' hfind =>
      split at h
      · cases h
      · next hnew =>
          cases h
          exact ⟨⟨_, List.mem_of_find?_eq_some hfind, by simpa using List.find?_some hfind, rfl⟩,
            by simpa using hnew⟩
  · split at h <;> cases h

/-- A member that a record skips has the name of no field. -/
theorem projectField_eq_none {closed : Bool} {fields : Fields} {found : Members} {name : String}
    (h : projectField closed fields found name = .ok none) : name ∉ fields.map (·.1) := by
  unfold projectField at h
  split at h
  · split at h <;> cases h
  · next hfind =>
      intro hmem
      obtain ⟨field, hfield, rfl⟩ := List.mem_map.mp hmem
      simpa using List.find?_eq_none.mp hfind field hfield

/-- A record takes members as a whole: what is not a string has a plain field. -/
def Fields.TakeWhole (fields : Fields) (ms : Members) : Prop :=
  ∀ field ∈ fields, ∀ m ∈ ms, m.1 = field.1 → field.2.2.IsPlain ∨ ∃ t, m.2 = .string t

theorem Fields.takeWhole_of_isPlain {fields : Fields}
    (hfields : ∀ field ∈ fields, field.2.2.IsPlain) (ms : Members) : fields.TakeWhole ms :=
  fun field hfield _ _ _ => .inl (hfields field hfield)

/-- The fields of a record among members that can be read are those among their
values, and a mismatch has a place. -/
theorem Node.projectMembers_of_read {limit : Nat} {closed : Bool} {fields : Fields}
    {ns : List (Name × Node)} {found ms : Members}
    (hwhole : fields.TakeWhole (Value.canonicalMembers ms))
    (h : Node.readMembers limit ns = .ok ms) :
    ∃ o, Node.projectMembers limit closed fields found ns =
      (SbomGate.Json.projectMembers closed fields found (Value.canonicalMembers ms)).mapError
        (·.at o) := by
  induction ns generalizing found ms with
  | nil =>
      rw [Node.readMembers] at h
      obtain rfl := Except.ok.inj h
      rw [Node.projectMembers, Value.canonicalMembers, Json.projectMembers]
      exact ⟨0, rfl⟩
  | cons m ns ih =>
      obtain ⟨name, n⟩ := m
      obtain ⟨k, v, rest, rfl, hk, hv, hrest⟩ := Node.readMembers_cons_iff.mp h
      have hrestWhole : fields.TakeWhole (Value.canonicalMembers rest) := fun field hmem m hm =>
        hwhole field hmem m (by rw [Value.canonicalMembers]; exact List.mem_cons_of_mem _ hm)
      rw [Node.projectMembers, hk, Value.canonicalMembers, Json.projectMembers]
      simp only
      cases hfield : projectField closed fields found k with
      | error e => exact ⟨name.mark, rfl⟩
      | ok s? =>
          cases s? with
          | none =>
              -- a member that no field is read from is skipped
              simp only [Node.skip_of_read hv]
              exact ih hrestWhole hrest
          | some s =>
              obtain ⟨⟨field, hmem, hname, rfl⟩, -⟩ := projectField_eq_some hfield
              obtain ⟨o, ho⟩ : ∃ o, n.project limit field.2.2 =
                  (field.2.2.project v.canonical).mapError (·.at o) := by
                have hmember : (k, v.canonical) ∈ Value.canonicalMembers ((k, v) :: rest) := by
                  rw [Value.canonicalMembers]
                  exact List.mem_cons_self
                rcases hwhole field hmem _ hmember hname.symm with hs | ⟨t, ht⟩
                · exact Node.project_of_read hs hv
                · obtain rfl := Value.eq_string_of_canonical ht
                  exact Node.project_of_string hv field.2.2
              simp only [ho]
              cases field.2.2.project v.canonical with
              | error e => exact ⟨o, rfl⟩
              | ok w => exact ih hrestWhole hrest

/-! ### Members with different names -/

/-- The mismatch that a member is for a record, if it is one. -/
def Fields.mismatch? (fields : Fields) (m : String × Value) : Option Mismatch :=
  match fields.find? (·.1 = m.1) with
  | none => none
  | some (_, _, s) =>
    match s.project m.2 with
    | .error e => some e
    | .ok _ => none

theorem Members.get?_eq_none_iff {ms : Members} {name : String} :
    Members.get? ms name = none ↔ name ∉ ms.map (·.1) := by
  induction ms with
  | nil => simp
  | cons m ms ih =>
      obtain ⟨k, v⟩ := m
      by_cases hk : k = name
      · simp [hk]
      · simp [hk, ih, Ne.symm hk]

theorem Members.get?_eq_some_iff {ms : Members} (hnodup : (ms.map (·.1)).Nodup) {name : String}
    {v : Value} : Members.get? ms name = some v ↔ (name, v) ∈ ms := by
  induction ms with
  | nil => simp
  | cons m ms ih =>
      obtain ⟨k, w⟩ := m
      rw [List.map_cons, List.nodup_cons] at hnodup
      by_cases hk : k = name
      · subst hk
        have hnone : (k, v) ∉ ms := fun hmem => hnodup.1 (List.mem_map.mpr ⟨(k, v), hmem, rfl⟩)
        simp [hnone, eq_comm]
      · simp [hk, ih hnodup.2, Ne.symm hk]

/-- What a record makes of a member that it declares and can read. -/
def Fields.take? (fields : Fields) (m : String × Value) : Option (String × Value) :=
  match fields.find? (·.1 = m.1) with
  | none => none
  | some (_, _, s) =>
    match s.project m.2 with
    | .error _ => none
    | .ok w => some (m.1, w)

/-- Of members with different names, an open record takes those that it declares,
up to the first mismatch. -/
theorem projectMembers_of_nodup {fields : Fields} {found ms : Members}
    (hnodup : ((found ++ ms).map (·.1)).Nodup) :
    projectMembers false fields found ms =
      match ms.findSome? fields.mismatch? with
      | some e => .error e
      | none => .ok (found ++ ms.filterMap fields.take?) := by
  induction ms generalizing found with
  | nil => simp [projectMembers]
  | cons m ms ih =>
      obtain ⟨k, v⟩ := m
      have hnew : Members.get? found k = none := by
        rw [Members.get?_eq_none_iff]
        intro hk
        rw [List.map_append, List.nodup_append] at hnodup
        exact hnodup.2.2 k hk k List.mem_cons_self rfl
      have hskip : ((found ++ ms).map (·.1)).Nodup :=
        hnodup.sublist (by simp)
      rw [projectMembers, projectField, hnew, List.findSome?_cons, List.filterMap_cons,
        Fields.mismatch?, Fields.take?]
      cases hfind : fields.find? (·.1 = k) with
      | none => simp [ih hskip]
      | some field =>
          obtain ⟨name, p, s⟩ := field
          simp only [Option.isSome_none, Bool.false_eq_true, if_false]
          cases hproject : s.project v with
          | error e => rfl
          | ok w =>
              have hmove : ((found ++ [(k, w)] ++ ms).map (·.1)).Nodup := by simpa using hnodup
              rw [Except.bind, ih hmove]
              simp

/-- A member is a mismatch if it is declared and cannot be read. -/
theorem Fields.mismatch?_eq_some {fields : Fields} {m : String × Value} {e : Mismatch}
    (h : fields.mismatch? m = some e) :
    ∃ field, fields.find? (·.1 = m.1) = some field ∧ field.2.2.project m.2 = .error e := by
  unfold mismatch? at h
  split at h
  · cases h
  · next hfind =>
      split at h
      · next e' he =>
          obtain rfl := Option.some.inj h
          exact ⟨_, hfind, he⟩
      · cases h

/-- A member that is no mismatch is not declared, or can be read. -/
theorem Fields.cases_of_mismatch? {fields : Fields} {m : String × Value}
    (h : fields.mismatch? m = none) :
    (fields.find? (·.1 = m.1) = none ∧ fields.take? m = none) ∨
      ∃ field w, fields.find? (·.1 = m.1) = some field ∧ field.2.2.project m.2 = .ok w ∧
        fields.take? m = some (m.1, w) := by
  unfold mismatch? at h
  split at h
  · next hfind => exact .inl ⟨hfind, by simp only [take?, hfind]⟩
  · next hfind =>
      split at h
      · cases h
      · next w hw => exact .inr ⟨_, w, hfind, hw, by simp only [take?, hfind, hw]⟩

/-- A field is taken when its member is there, unless something is a mismatch. -/
theorem Members.isSome_get?_take? {fields : Fields} {name : String}
    (hdeclared : name ∈ fields.map (·.1)) {ms : Members}
    (hms : ms.findSome? fields.mismatch? = none) :
    (Members.get? (ms.filterMap fields.take?) name).isSome = (Members.get? ms name).isSome := by
  induction ms with
  | nil => rfl
  | cons m ms ih =>
      obtain ⟨k, v⟩ := m
      rw [List.findSome?_eq_none_iff, List.forall_mem_cons, ← List.findSome?_eq_none_iff] at hms
      rcases Fields.cases_of_mismatch? hms.1 with ⟨hfind, htake⟩ | ⟨field, w, -, -, htake⟩
      · -- an undeclared member has another name
        have hk : k ≠ name := by
          rintro rfl
          obtain ⟨field, hfield, hname⟩ := List.mem_map.mp hdeclared
          simpa [hname] using List.find?_eq_none.mp hfind field hfield
        simp [htake, hk, ih hms.2]
      · rw [List.filterMap_cons, htake]
        by_cases hk : k = name
        · simp [hk]
        · simp [hk, ih hms.2]

/-- Fields can be put into order if the required ones are there. -/
theorem assemble_of_present {fields : Fields} {found : Members}
    (h : ∀ field ∈ fields, field.2.1 = .required → (Members.get? found field.1).isSome = true) :
    ∃ out, assemble fields found = .ok out := by
  induction fields with
  | nil => exact ⟨[], rfl⟩
  | cons field fields ih =>
      obtain ⟨k, p, s⟩ := field
      obtain ⟨hp, hrest⟩ := List.forall_mem_cons.mp h
      obtain ⟨out, hout⟩ := ih hrest
      rw [assemble, hout]
      cases hfound : Members.get? found k with
      | some v => exact ⟨(k, v) :: out, rfl⟩
      | none =>
          have hpresence : p ≠ .required := fun heq => by simpa [hfound] using hp heq
          exact ⟨out, if_neg hpresence⟩

/-- An open record is read from members with different names that have what it
requires, unless one of them is a mismatch; then the first one is told. -/
theorem project_object_of_nodup {title : String} {fields : Fields} {ms : Members}
    (hnodup : (ms.map (·.1)).Nodup)
    (hpresent : ∀ field ∈ fields, field.2.1 = .required →
      (Members.get? ms field.1).isSome = true) :
    match ms.findSome? fields.mismatch? with
    | some e => (Schema.record title false fields).project (.object ms) = .error e
    | none => ∃ out, (Schema.record title false fields).project (.object ms) = .ok (.object out) ∧
        assemble fields (ms.filterMap fields.take?) = .ok out := by
  have hproject : projectMembers false fields [] ms = _ := projectMembers_of_nodup hnodup
  simp only [Schema.project, Schema.core]
  split
  · next e hmismatch =>
      simp only [hmismatch] at hproject
      simp only [hproject, Except.bind]
  · next hmismatch =>
      simp only [hmismatch, List.nil_append] at hproject
      obtain ⟨out, hout⟩ : ∃ out, assemble fields (ms.filterMap fields.take?) = .ok out := by
        refine assemble_of_present fun field hfield hp => ?_
        rw [Members.isSome_get?_take? (List.mem_map_of_mem hfield) hmismatch]
        exact hpresent field hfield hp
      exact ⟨out, by simp only [hproject, Except.bind, hout, Except.map], hout⟩

theorem Members.get?_filter {p : String → Bool} {name : String} (h : p name = true)
    (ms : Members) : Members.get? (ms.filter fun m => p m.1) name = Members.get? ms name := by
  induction ms with
  | nil => rfl
  | cons m ms ih =>
      obtain ⟨k, v⟩ := m
      by_cases hk : k = name
      · subst hk
        simp [h]
      · rw [List.filter_cons]
        split <;> simp [hk, ih]

theorem Members.get?_filter_of_neg {p : String → Bool} {name : String} (h : p name = false)
    (ms : Members) : Members.get? (ms.filter fun m => p m.1) name = none := by
  rw [Members.get?_eq_none_iff]
  intro hmem
  obtain ⟨m, hm, rfl⟩ := List.mem_map.mp hmem
  rw [(List.mem_filter.mp hm).2] at h
  cases h

/-- Plain fields are taken as they are. -/
theorem Fields.filterMap_take? {fields : Fields} (hfields : ∀ field ∈ fields, field.2.2.IsPlain)
    {ms : Members} (hms : ms.findSome? fields.mismatch? = none) :
    ms.filterMap fields.take? = ms.filter fun m => (fields.find? (·.1 = m.1)).isSome := by
  rw [← List.filterMap_eq_filter]
  refine List.filterMap_congr fun m hm => ?_
  rcases cases_of_mismatch? (List.findSome?_eq_none_iff.mp hms m hm) with
    ⟨hfind, htake⟩ | ⟨field, w, hfind, hw, htake⟩
  · simp [htake, hfind, Option.guard]
  · rw [Schema.project_of_isPlain (hfields _ (List.mem_of_find?_eq_some hfind))] at hw
    obtain rfl := Schema.projectScalar_eq_self hw
    simp [htake, hfind, Option.guard]

/-- An open record of plain fields, none of them required, holds the members
that it declares as they are, unless one of them is a mismatch. -/
theorem project_of_nodup {title : String} {fields : Fields}
    (hfields : ∀ field ∈ fields, field.2.2.IsPlain ∧ field.2.1 ≠ .required) {ms : Members}
    (hnodup : (ms.map (·.1)).Nodup) :
    match ms.findSome? fields.mismatch? with
    | some e => (Schema.record title false fields).project (.object ms) = .error e
    | none => ∃ out, (Schema.record title false fields).project (.object ms) = .ok (.object out) ∧
        ∀ {name}, name ∈ fields.map (·.1) → Members.get? out name = Members.get? ms name := by
  have hproject := @project_object_of_nodup title fields ms hnodup
    fun field hmem hp => absurd hp (hfields field hmem).2
  split
  · next e hmismatch => simpa only [hmismatch] using hproject
  · next hmismatch =>
      simp only [hmismatch] at hproject
      obtain ⟨out, hout, hassemble⟩ := hproject
      refine ⟨out, hout, fun {name} hname => ?_⟩
      obtain ⟨field, hmem, rfl⟩ := List.mem_map.mp hname
      have hdeclared : (fields.find? (·.1 = field.1)).isSome = true :=
        List.find?_isSome.mpr ⟨field, hmem, by simp⟩
      rw [assemble_get? hassemble ⟨field, hmem, rfl⟩,
        Fields.filterMap_take? fun field hmem => (hfields field hmem).1]
      · exact Members.get?_filter (p := fun k => (fields.find? (·.1 = k)).isSome) hdeclared ms
      · exact hmismatch

/-! ### Texts -/

/-- Only an object is read as an object. -/
theorem Node.object_of_read {limit : Nat} {n : Node} {ms : Members}
    (h : n.read limit = .ok (.object ms)) :
    ∃ start ns stop, n = .object start ns (.closed stop) ∧ 1 < limit ∧
      Node.readMembers (limit - 1) ns = .ok ms := by
  cases n with
  | leaf start stop content =>
      rw [Node.read] at h
      cases Leaf.scalar_of_read h
  | list start items close =>
      obtain ⟨vs, -, hv, -⟩ := Node.read_list_iff.mp h
      cases hv
  | object start ns close =>
      obtain ⟨ms', stop, hv, rfl, hlimit, hms⟩ := Node.read_object_iff.mp h
      obtain rfl := Value.object.inj hv
      exact ⟨start, ns, stop, rfl, hlimit, hms⟩
  | stub start b => rw [Node.read] at h; cases h
  | broken start b => rw [Node.read] at h; cases h

/-- Only an array is read as an array. -/
theorem Node.list_of_read {limit : Nat} {n : Node} {vs : List Value}
    (h : n.read limit = .ok (.array vs)) :
    ∃ start ns stop, n = .list start ns (.closed stop) ∧ 1 < limit ∧
      Node.readItems (limit - 1) ns = .ok vs := by
  cases n with
  | leaf start stop content =>
      rw [Node.read] at h
      cases Leaf.scalar_of_read h
  | list start ns close =>
      obtain ⟨vs', stop, hv, rfl, hlimit, hvs⟩ := Node.read_list_iff.mp h
      obtain rfl := Value.array.inj hv
      exact ⟨start, ns, stop, rfl, hlimit, hvs⟩
  | object start ns close =>
      obtain ⟨ms, -, hv, -⟩ := Node.read_object_iff.mp h
      cases hv
  | stub start b => rw [Node.read] at h; cases h
  | broken start b => rw [Node.read] at h; cases h

theorem Document.text_ofBytes (text : Bytes) : (Document.ofBytes text).text = text := by
  unfold Document.ofBytes
  split <;> rfl

/-- What is read from a text is read from its value, behind which there is
nothing. -/
theorem Document.root_of_finish {α : Type} {text : Bytes} {f : Node → Except Fault α} {a : α}
    (h : (Document.ofBytes text).finish (f (Document.ofBytes text).root) = .ok a) :
    ∃ root, Document.ofBytes text = ⟨text, root, none⟩ ∧ f root = .ok a := by
  have htext := Document.text_ofBytes text
  generalize Document.ofBytes text = d at h htext ⊢
  obtain ⟨_, root, trailing⟩ := d
  obtain rfl := htext
  unfold Document.finish at h
  split at h
  · cases h
  · next hroot =>
      split at h
      · cases h
      · next htrailing =>
          obtain rfl := Except.ok.inj h
          obtain rfl : trailing = none := htrailing
          exact ⟨root, rfl, hroot⟩

/-- A text that spells an object: it can be read to its end, and these are the
members in the order of the text, their values in canonical form. -/
def SpellsObject (text : Bytes) (ms : Members) : Prop :=
  ∃ written, (Document.ofBytes text).finish ((Document.ofBytes text).root.read depthLimit) =
    .ok (.object written) ∧ Value.canonicalMembers written = ms

theorem SpellsObject.document {text : Bytes} {ms : Members} (h : SpellsObject text ms) :
    ∃ start ns stop written, Document.ofBytes text =
        ⟨text, .object start ns (.closed stop), none⟩ ∧
      Node.readMembers (depthLimit - 1) ns = .ok written ∧
        Value.canonicalMembers written = ms := by
  obtain ⟨written, hread, hms⟩ := h
  obtain ⟨root, hdocument, hroot⟩ := Document.root_of_finish hread
  obtain ⟨start, ns, stop, rfl, -, hns⟩ := Node.object_of_read hroot
  exact ⟨start, ns, stop, written, hdocument, hns, hms⟩

/-- A record that takes members as a whole is read from a text that spells an
object as it is from its members, and a mismatch has a place in the text. -/
theorem readBytes_of_spellsObject {title : String} {closed : Bool} {fields : Fields} {text : Bytes}
    {ms : Members} (hwhole : fields.TakeWhole ms) (h : SpellsObject text ms) :
    ∃ o, (Schema.record title closed fields).readBytes text =
      ((Schema.record title closed fields).project (.object ms)).mapError
        fun m => (m.at o).locate text := by
  obtain ⟨start, ns, stop, written, hdocument, hns, rfl⟩ := h.document
  obtain ⟨o, ho⟩ : ∃ o, Node.projectMembers (depthLimit - 1) closed fields [] ns =
      (projectMembers closed fields [] (Value.canonicalMembers written)).mapError (·.at o) :=
    Node.projectMembers_of_read hwhole hns
  rw [Schema.readBytes, hdocument, Document.project, Node.project, Schema.project]
  simp only [Schema.core, if_neg (show ¬ depthLimit ≤ 1 by decide), ho]
  cases Json.projectMembers closed fields [] (Value.canonicalMembers written) with
  | error m => exact ⟨o, rfl⟩
  | ok found =>
      refine ⟨stop, ?_⟩
      simp only [Close.finish, Except.mapError, ok_bind, Except.bind]
      cases assemble fields found with
      | error m => rfl
      | ok out => rfl

end SbomGate.Json
