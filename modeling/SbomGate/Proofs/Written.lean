import SbomGate.Proofs.Canonical
import SbomGate.Proofs.PlainReading
/-!
# SbomGate.Proofs.Written

**What is written for a record is read back as it is.**

A record is written with its fields in the order of declaration, some of them
left out (`Written`). Its canonical form lists them by name instead. Reading by
a schema puts them back into their order, so that the projection of the
canonical form is what was written, member by member (`Written.project`).

`Rereads` carries this through the schemas, together with what a text needs to
spell the value: numbers in range and a bound on the nesting.
-/

namespace SbomGate.Json

namespace Members

/-! ### Members by name -/

theorem nodup_sort (ms : Members) : ((sort ms).map (·.1)).Nodup := (sort_sorted ms).nodup

theorem get?_foldl_insert {ms : Members} (h : (ms.map (·.1)).Nodup) (acc : Members)
    (name : String) :
    get? (ms.foldl (fun acc m => insert m.1 m.2 acc) acc) name =
      (get? ms name).or (get? acc name) := by
  induction ms generalizing acc with
  | nil => rfl
  | cons m ms ih =>
      obtain ⟨k, v⟩ := m
      obtain ⟨hk, hms⟩ := List.nodup_cons.mp h
      rw [List.foldl_cons, ih hms, get?_insert, get?_cons]
      by_cases hname : k = name
      · -- the name does not come again, so the member inserted first stays
        subst hname
        rw [get?_eq_none_iff.mpr hk]
        simp
      · simp [hname]

/-- Sorting does not change what stands under a name, if no name is
repeated. -/
theorem get?_sort {ms : Members} (h : (ms.map (·.1)).Nodup) (name : String) :
    get? (sort ms) name = get? ms name := by
  rw [sort, get?_foldl_insert h, get?_nil, Option.or_none]

theorem canonicalMembers_eq_map (ms : Members) :
    Value.canonicalMembers ms = ms.map fun m => (m.1, m.2.canonical) := by
  induction ms with
  | nil => rfl
  | cons m ms ih => rw [Value.canonicalMembers, ih, List.map_cons]

theorem names_canonicalMembers (ms : Members) :
    (Value.canonicalMembers ms).map (·.1) = ms.map (·.1) := by
  rw [canonicalMembers_eq_map, List.map_map]
  rfl

theorem get?_canonicalMembers (ms : Members) (name : String) :
    get? (Value.canonicalMembers ms) name = (get? ms name).map Value.canonical := by
  induction ms with
  | nil => rfl
  | cons m ms ih =>
      obtain ⟨k, v⟩ := m
      rw [Value.canonicalMembers, get?_cons, get?_cons, ih]
      split <;> rfl

/-- The members of a canonical form. -/
theorem get?_canonical {ms : Members} (h : (ms.map (·.1)).Nodup) (name : String) :
    get? (sort (Value.canonicalMembers ms)) name = (get? ms name).map Value.canonical := by
  rw [get?_sort (by rwa [names_canonicalMembers]), get?_canonicalMembers]

end Members

/-- A field is found under its name, if no name is repeated. -/
theorem Fields.find?_of_mem {fields : Fields} (hnames : (fields.map (·.1)).Nodup) {name : String}
    {p : Presence} {s : Schema} (h : (name, p, s) ∈ fields) :
    fields.find? (·.1 = name) = some (name, p, s) := by
  induction fields with
  | nil => cases h
  | cons field fields ih =>
      obtain ⟨hname, hfields⟩ := List.nodup_cons.mp hnames
      rcases List.mem_cons.mp h with rfl | h
      · exact List.find?_cons_of_pos (by simp)
      · have hne : field.1 ≠ name := fun heq =>
        hname (List.mem_map.mpr ⟨_, h, heq.symm⟩)
        rw [List.find?_cons_of_neg (by simpa using hne)]
        exact ih hfields h

theorem canonicalItems_eq_map (vs : List Value) :
    Value.canonicalItems vs = vs.map Value.canonical := by
  induction vs with
  | nil => rfl
  | cons v vs ih => rw [Value.canonicalItems, ih, List.map_cons]

/-! ### Values that are read back -/

/-- A schema reads the canonical form of a value as the value itself, and a text
can spell the value: its numbers are in range, and it nests at most `levels`
arrays and objects. -/
structure Rereads (s : Schema) (levels : Nat) (v : Value) : Prop where
  project : s.project v.canonical = .ok v
  inRange : v.InRange
  depth : v.depth ≤ levels

/-- Members written for the fields of a record, in the order of declaration. A
field that may be missing can be left out. -/
inductive Written (levels : Nat) : Fields → Members → Prop
  /-- There are no fields. -/
  | nil : Written levels [] []
  /-- The field is left out. -/
  | skip {name : String} {p : Presence} {s : Schema} {fields : Fields} {ms : Members}
      (hp : p ≠ .required) (h : Written levels fields ms) :
      Written levels ((name, p, s) :: fields) ms
  /-- The field is written with a value that is read back. -/
  | keep {name : String} {p : Presence} {s : Schema} {fields : Fields} {ms : Members} {v : Value}
      (hv : Rereads s levels v) (h : Written levels fields ms) :
      Written levels ((name, p, s) :: fields) ((name, v) :: ms)

namespace Written

variable {levels : Nat} {fields : Fields} {ms : Members}

theorem append {fields' : Fields} {ms' : Members} (h : Written levels fields ms)
    (h' : Written levels fields' ms') : Written levels (fields ++ fields') (ms ++ ms') := by
  induction h with
  | nil => exact h'
  | skip hp _ ih => exact .skip hp ih
  | keep hv _ ih => exact .keep hv ih

theorem names (h : Written levels fields ms) : (ms.map (·.1)).Sublist (fields.map (·.1)) := by
  induction h with
  | nil => exact .slnil
  | skip _ _ ih => exact ih.cons _
  | keep _ _ ih => exact ih.cons_cons _

theorem inRange (h : Written levels fields ms) : Value.InRangeMembers ms := by
  induction h with
  | nil => rw [Value.InRangeMembers]; trivial
  | skip _ _ ih => exact ih
  | keep hv _ ih =>
      rw [Value.InRangeMembers]
      exact ⟨hv.inRange, ih⟩

theorem depth (h : Written levels fields ms) : Value.depthMembers ms ≤ levels := by
  induction h with
  | nil => rw [Value.depthMembers]; exact Nat.zero_le _
  | skip _ _ ih => exact ih
  | keep hv _ ih =>
      rw [Value.depthMembers]
      exact Nat.max_le.mpr ⟨hv.depth, ih⟩

theorem object_inRange (h : Written levels fields ms) : (Value.object ms).InRange := by
  rw [Value.InRange]
  exact h.inRange

theorem object_depth (h : Written levels fields ms) : (Value.object ms).depth ≤ levels + 1 := by
  rw [Value.depth]
  exact Nat.succ_le_succ h.depth

/-- A member that was written belongs to a field. -/
theorem declared (h : Written levels fields ms) {m : String × Value} (hm : m ∈ ms) :
    ∃ p s, (m.1, p, s) ∈ fields ∧ Rereads s levels m.2 := by
  induction h with
  | nil => cases hm
  | skip _ _ ih =>
      obtain ⟨p, s, hmem, hread⟩ := ih hm
      exact ⟨p, s, List.mem_cons_of_mem _ hmem, hread⟩
  | keep hv _ ih =>
      rcases List.mem_cons.mp hm with rfl | hm
      · exact ⟨_, _, List.mem_cons_self, hv⟩
      · obtain ⟨p, s, hmem, hread⟩ := ih hm
        exact ⟨p, s, List.mem_cons_of_mem _ hmem, hread⟩

/-- Fields found under their names are put into the order in which they were
written. -/
theorem assemble (h : Written levels fields ms) (hnames : (fields.map (·.1)).Nodup)
    {found : Members}
    (hfound : ∀ name ∈ fields.map (·.1), Members.get? found name = Members.get? ms name) :
    Json.assemble fields found = .ok ms := by
  induction h with
  | nil => rfl
  | @skip name p s fields ms hp hrest ih =>
      obtain ⟨hname, hfields⟩ := List.nodup_cons.mp hnames
      have hnone : Members.get? found name = none := by
        rw [hfound name List.mem_cons_self, Members.get?_eq_none_iff]
        exact fun hmem => hname (hrest.names.subset hmem)
      rw [Json.assemble, hnone]
      simp only [hp, if_false]
      exact ih hfields fun other hother => hfound other (List.mem_cons_of_mem _ hother)
  | @keep name p s fields ms v hv hrest ih =>
      obtain ⟨hname, hfields⟩ := List.nodup_cons.mp hnames
      have hsome : Members.get? found name = some v := by
        rw [hfound name List.mem_cons_self, Members.get?_cons, if_pos rfl]
      have hrest : Json.assemble fields found = .ok ms := by
        refine ih hfields fun other hother => ?_
        have hne : name ≠ other := fun heq => hname (heq ▸ hother)
        rw [hfound other (List.mem_cons_of_mem _ hother), Members.get?_cons, if_neg hne]
      rw [Json.assemble, hsome]
      simp only [hrest, Except.map]

/-- Members in any order, each the canonical form of one that was written, are
found as they were written. -/
theorem projectMembers (h : Written levels fields ms) (hnames : (fields.map (·.1)).Nodup)
    (closed : Bool) (found : Members) {given : Members}
    (hgiven : ∀ m ∈ given, ∃ v, (m.1, v) ∈ ms ∧ m.2 = v.canonical)
    (hfound : ∀ m ∈ found, m ∈ ms) (hnodup : ((found ++ given).map (·.1)).Nodup) :
    ∃ out, Json.projectMembers closed fields found given = .ok out ∧ (∀ m ∈ out, m ∈ ms) ∧
      out.map (·.1) = (found ++ given).map (·.1) := by
  induction given generalizing found with
  | nil => exact ⟨found, by rw [Json.projectMembers], hfound, by rw [List.append_nil]⟩
  | cons m given ih =>
      obtain ⟨k, w⟩ := m
      obtain ⟨v, hv, rfl⟩ := hgiven (k, w) List.mem_cons_self
      obtain ⟨p, s, hmem, hread⟩ := h.declared hv
      have hfield : fields.find? (·.1 = k) = some (k, p, s) := Fields.find?_of_mem hnames hmem
      have hnew : Members.get? found k = none := by
        rw [Members.get?_eq_none_iff]
        intro hk
        rw [List.map_append, List.nodup_append] at hnodup
        exact hnodup.2.2 k hk k List.mem_cons_self rfl
      have hfound' : ∀ m ∈ found ++ [(k, v)], m ∈ ms := by
        intro m hm
        rcases List.mem_append.mp hm with hm | hm
        · exact hfound m hm
        · exact List.mem_singleton.mp hm ▸ hv
      have hmove : (found ++ [(k, v)] ++ given).map (·.1) =
          (found ++ (k, v.canonical) :: given).map (·.1) := by simp
      obtain ⟨out, hout, hms, hsame⟩ := ih (found ++ [(k, v)])
        (fun m hm => hgiven m (List.mem_cons_of_mem _ hm)) hfound' (hmove ▸ hnodup)
      refine ⟨out, ?_, hms, hsame.trans hmove⟩
      rw [Json.projectMembers, projectField, hfield]
      simp only [hnew, Option.isSome_none, Bool.false_eq_true, if_false, hread.project]
      exact hout

/-- A record is read back from members in any order that are, name by name, the
canonical forms of those written for it. -/
theorem project_of_get? (h : Written levels fields ms) (hnames : (fields.map (·.1)).Nodup)
    (title : String) (closed : Bool) {given : Members} (hnodup : (given.map (·.1)).Nodup)
    (hgiven : ∀ name, Members.get? given name = (Members.get? ms name).map Value.canonical) :
    (Schema.record title closed fields).project (.object given) = .ok (.object ms) := by
  have hms : (ms.map (·.1)).Nodup := hnames.sublist h.names
  have hwritten : ∀ m ∈ given, ∃ v, (m.1, v) ∈ ms ∧ m.2 = v.canonical := by
    intro m hm
    have hget := hgiven m.1
    rw [(Members.get?_eq_some_iff hnodup).mpr hm] at hget
    obtain ⟨v, hv, hcanonical⟩ := Option.map_eq_some_iff.mp hget.symm
    exact ⟨v, (Members.get?_eq_some_iff hms).mp hv, hcanonical.symm⟩
  obtain ⟨out, hout, hmem, hsame⟩ :=
    h.projectMembers hnames closed [] hwritten (by simp) (by simpa using hnodup)
  rw [List.nil_append] at hsame
  have hget : ∀ name, Members.get? out name = Members.get? ms name := by
    intro name
    cases hv : Members.get? ms name with
    | none =>
        rw [Members.get?_eq_none_iff, hsame, ← Members.get?_eq_none_iff, hgiven, hv]
        rfl
    | some v =>
        have hname : name ∈ out.map (·.1) := by
          by_contra hnot
          rw [hsame, ← Members.get?_eq_none_iff, hgiven, hv] at hnot
          cases hnot
        obtain ⟨m, hm, rfl⟩ := List.mem_map.mp hname
        have hval := (Members.get?_eq_some_iff hms).mpr (hmem m hm)
        rw [hv] at hval
        obtain rfl := Option.some.inj hval
        exact (Members.get?_eq_some_iff (hsame ▸ hnodup)).mpr hm
  have hordered : Json.assemble fields out = .ok ms := h.assemble hnames fun name _ => hget name
  simp only [Schema.project, Schema.core, hout, Except.bind, hordered, Except.map]

/-- A record is read back from the canonical form of what was written for it. -/
theorem project (h : Written levels fields ms) (hnames : (fields.map (·.1)).Nodup)
    (title : String) :
    (Schema.record title false fields).project (Value.object ms).canonical =
      .ok (.object ms) := by
  rw [Value.canonical]
  exact h.project_of_get? hnames title false (Members.nodup_sort _)
    (Members.get?_canonical (hnames.sublist h.names))

end Written

namespace Rereads

variable {levels : Nat}

theorem record {fields : Fields} {ms : Members} (h : Written levels fields ms)
    (hnames : (fields.map (·.1)).Nodup) (title : String) :
    Rereads (.record title false fields) (levels + 1) (.object ms) where
  project := h.project hnames title
  inRange := h.object_inRange
  depth := h.object_depth

theorem text (t : String) : Rereads .string levels (.string t) where
  project := rfl
  inRange := by rw [Value.InRange]; trivial
  depth := by rw [Value.depth]; exact Nat.zero_le _

theorem optional {s : Schema} {v : Value} (h : Rereads s levels v) :
    Rereads (.optional s) levels v where
  project := by
    have hproject := h.project
    cases v with
    | null => rfl
    | _ => simpa only [Value.canonical, Schema.project, Schema.projectScalar, Schema.core]
        using hproject
  inRange := h.inRange
  depth := h.depth

theorem projectItems {item : Schema} {vs : List Value} (h : ∀ v ∈ vs, Rereads item levels v) :
    Json.projectItems item (Value.canonicalItems vs) = .ok vs := by
  induction vs with
  | nil => rfl
  | cons v vs ih =>
      obtain ⟨hv, hvs⟩ := List.forall_mem_cons.mp h
      rw [Value.canonicalItems, Json.projectItems, hv.project, ih hvs]
      rfl

theorem inRangeItems {item : Schema} {vs : List Value} (h : ∀ v ∈ vs, Rereads item levels v) :
    Value.InRangeItems vs := by
  induction vs with
  | nil => rw [Value.InRangeItems]; trivial
  | cons v vs ih =>
      obtain ⟨hv, hvs⟩ := List.forall_mem_cons.mp h
      rw [Value.InRangeItems]
      exact ⟨hv.inRange, ih hvs⟩

theorem depthItems {item : Schema} {vs : List Value} (h : ∀ v ∈ vs, Rereads item levels v) :
    Value.depthItems vs ≤ levels := by
  induction vs with
  | nil => rw [Value.depthItems]; exact Nat.zero_le _
  | cons v vs ih =>
      obtain ⟨hv, hvs⟩ := List.forall_mem_cons.mp h
      rw [Value.depthItems]
      exact Nat.max_le.mpr ⟨hv.depth, ih hvs⟩

theorem list {item : Schema} {vs : List Value} (h : ∀ v ∈ vs, Rereads item levels v) :
    Rereads (.list item) (levels + 1) (.array vs) where
  project := by
    simp only [Value.canonical, Schema.project, Schema.core, projectItems h, Except.map]
  inRange := by
    rw [Value.InRange]
    exact inRangeItems h
  depth := by
    rw [Value.depth]
    exact Nat.succ_le_succ (depthItems h)

end Rereads

/-! ### Members of a record -/

namespace Written

variable {levels : Nat} {s : Schema} {name : String}

theorem member (p : Presence) {v : Value} (h : Rereads s levels v) :
    Written levels [(name, p, s)] [(name, v)] :=
  .keep h .nil

/-- A text that can be left out. -/
theorem textMember? {p : Presence} (hp : p ≠ .required) (t : Option String)
    (h : ∀ t, Rereads s levels (.string t)) :
    Written levels [(name, p, s)] (Json.textMember? name t) := by
  cases t with
  | none => exact .skip hp .nil
  | some t => exact .keep (h t) .nil

/-- A number that can be left out. -/
theorem wholeMember? {p : Presence} (hp : p ≠ .required) {i : Option Int}
    (h : ∀ n, i = some n → Rereads s levels (.number (.whole n))) :
    Written levels [(name, p, s)] (Json.wholeMember? name i) := by
  cases i with
  | none => exact .skip hp .nil
  | some n => exact .keep (h n rfl) .nil

theorem text (name : String) (p : Presence) (t : String) :
    Written levels [(name, p, .string)] (Json.textMember name t) :=
  .member p (.text t)

theorem text? (name : String) (t : Option String) :
    Written levels [(name, .defaulted, .optional .string)] (Json.textMember? name t) :=
  .textMember? (by decide) t fun t => .optional (.text t)

theorem texts (name : String) (ts : List String) :
    Written (levels + 1) [(name, .defaulted, .list .string)] (textsMember? name (some ts)) := by
  refine .keep (.list fun v hv => ?_) .nil
  obtain ⟨t, -, rfl⟩ := List.mem_map.mp hv
  exact .text t

theorem array {item : Schema} {α : Type} {write : α → Value} (name : String) (xs : List α)
    (h : ∀ x ∈ xs, Rereads item levels (write x)) :
    Written (levels + 1) [(name, .defaulted, .list item)] [(name, .array (xs.map write))] := by
  refine .keep (.list fun v hv => ?_) .nil
  obtain ⟨x, hx, rfl⟩ := List.mem_map.mp hv
  exact h x hx

theorem list {item : Schema} {α : Type} {write : α → Value} (name : String) (xs : List α)
    (h : ∀ x ∈ xs, Rereads item levels (write x)) :
    Written (levels + 1) [(name, .defaulted, .list item)] (listMember name write xs) := by
  cases xs with
  | nil => exact .skip (by decide) .nil
  | cons x xs => exact array name (x :: xs) h

end Written

/-! ### What is written under a name

Rewriting rules, by which `simp` finds what is under a name of a written record, as in
`VerifiedClaims.givenBy_toValue` and the lemmas `ofMembers_toValue`. -/

namespace Members

variable {name : String}

theorem get?_textMember (t other : String) :
    get? (textMember name t) other = if name = other then some (.string t) else none := rfl

@[simp] theorem get?_textMember? (t : Option String) (other : String) :
    get? (textMember? name t) other = if name = other then t.map .string else none := by
  cases t with
  | none => simp [textMember?]
  | some t => rfl

@[simp] theorem get?_wholeMember? (i : Option Int) (other : String) :
    get? (wholeMember? name i) other =
      if name = other then i.map fun n => .number (.whole n) else none := by
  cases i with
  | none => simp [wholeMember?]
  | some n => rfl

@[simp] theorem get?_textsMember? (ts : Option (List String)) (other : String) :
    get? (textsMember? name ts) other =
      if name = other then ts.map fun ts => .array (ts.map .string) else none := by
  cases ts with
  | none => simp [textsMember?]
  | some ts => rfl

@[simp] theorem get?_listMember {α : Type} (write : α → Value) (xs : List α) (other : String) :
    get? (listMember name write xs) other =
      if name = other ∧ xs ≠ [] then some (.array (xs.map write)) else none := by
  cases xs with
  | nil => simp [listMember]
  | cons x xs => simp [listMember]

theorem text_of_get? {ms : Members} {t : String} (h : get? ms name = some (.string t)) :
    text ms name = t := by
  rw [text, h]

theorem text?_of_get? {ms : Members} {t : Option String} (h : get? ms name = t.map .string) :
    text? ms name = t := by
  rw [text?, h]
  cases t <;> rfl

theorem whole?_of_get? {ms : Members} {i : Option Int}
    (h : get? ms name = i.map fun n => .number (.whole n)) : whole? ms name = i := by
  rw [whole?, h]
  cases i <;> rfl

theorem texts?_of_get? {ms : Members} {ts : List String}
    (h : get? ms name = some (.array (ts.map .string))) : texts? ms name = some ts := by
  have hall : (ts.map Value.string).filterMap Value.asString? = ts := by
    rw [List.filterMap_map]
    exact List.filterMap_some
  simp only [texts?, h, hall]

theorem items_of_get? {α : Type} {write : α → Value} {read : Value → α}
    (hread : ∀ x, read (write x) = x) {xs : List α} {ms : Members}
    (h : get? ms name = some (.array (xs.map write))) : (items ms name).map read = xs := by
  rw [items, h, List.map_map]
  exact (List.map_congr_left fun x _ => hread x).trans (List.map_id xs)

/-- A list that is not written is empty. -/
theorem items_of_get?_ite {α : Type} {write : α → Value} {read : Value → α}
    (hread : ∀ x, read (write x) = x) {xs : List α} {ms : Members}
    (h : get? ms name = if xs ≠ [] then some (.array (xs.map write)) else none) :
    (items ms name).map read = xs := by
  cases xs with
  | nil =>
      rw [items, h]
      rfl
  | cons x xs => exact items_of_get? hread h

end Members

end SbomGate.Json
