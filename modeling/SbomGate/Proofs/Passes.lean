import Mathlib.Data.List.Nodup
import Mathlib.Logic.Relation
import SbomGate.Proofs.Rules
import SbomGate.Proofs.TypedView
import SbomGate.Proofs.Written
/-!
# SbomGate.Proofs.Passes

**The two passes over a document agree on what is required.**

A document is looked at twice: `check` applies the rules to its members, and
`Document.schema` reads the members through their types. The second pass has
nothing left to say about what the first one is for. Once no rule is broken it
can only stop at a member that no rule is about, or inside a package
(`Mistyped`), so the part of a document that the rules are about, with every
package emptied (`skeleton`), is always accepted.

Of members with different names the types stop at the first that does not fit,
so what they stop at is a member and its field (`exists_member_of_project`).
Members that are not declared are skipped wherever they stand
(`Schema.Prunes`), by the types and by the rules (`check_of_prunes`).
-/

namespace SbomGate.Json

/-! ### Members that a schema does not declare -/

/-- The one value is the other less a member that the schema does not declare.
The member stands in the object itself or anywhere inside what is declared. -/
inductive Schema.Prunes : Schema → Value → Value → Prop
  /-- A member of an open record. -/
  | member {s : Schema} {title : String} {fields : Fields} {before after : Members}
      {name : String} {v : Value} (hcore : s.core = .record title false fields)
      (hname : name ∉ fields.map (·.1)) :
      Prunes s (.object (before ++ (name, v) :: after)) (.object (before ++ after))
  /-- Inside a field of a record. -/
  | field {s t : Schema} {title : String} {closed : Bool} {fields : Fields}
      {before after : Members} {name : String} {p : Presence} {v w : Value}
      (hcore : s.core = .record title closed fields)
      (hfield : fields.find? (·.1 = name) = some (name, p, t)) (hprunes : Prunes t v w) :
      Prunes s (.object (before ++ (name, v) :: after)) (.object (before ++ (name, w) :: after))
  /-- Inside an item of a list. -/
  | item {s t : Schema} {before after : List Value} {v w : Value} (hcore : s.core = .list t)
      (hprunes : Prunes t v w) :
      Prunes s (.array (before ++ v :: after)) (.array (before ++ w :: after))
  /-- Inside a field of a record that is given as a list. -/
  | place {s t : Schema} {title : String} {closed : Bool} {ahead behind : Fields}
      {before after : List Value} {name : String} {p : Presence} {v w : Value}
      (hcore : s.core = .record title closed (ahead ++ (name, p, t) :: behind))
      (hplace : before.length = ahead.length) (hprunes : Prunes t v w) :
      Prunes s (.array (before ++ v :: after)) (.array (before ++ w :: after))

theorem projectMembers_append (closed : Bool) (fields : Fields) (found before after : Members) :
    projectMembers closed fields found (before ++ after) =
      (projectMembers closed fields found before).bind fun found =>
        projectMembers closed fields found after := by
  induction before generalizing found with
  | nil => rfl
  | cons m before ih =>
      obtain ⟨name, v⟩ := m
      simp only [List.cons_append, projectMembers]
      split
      · rfl
      · exact ih found
      · next s _ => cases s.project v <;> simp [Except.bind, ih]

theorem projectItems_congr {item : Schema} {v w : Value} (h : item.project v = item.project w)
    (before after : List Value) :
    projectItems item (before ++ v :: after) = projectItems item (before ++ w :: after) := by
  induction before with
  | nil => simp only [List.nil_append, projectItems, h]
  | cons u before ih => simp only [List.cons_append, projectItems, ih]

theorem projectFields_congr {expected : String} {length count : Nat} {ahead behind : Fields}
    {name : String} {p : Presence} {s : Schema} {v w : Value} (h : s.project v = s.project w)
    {before : List Value} (hplace : before.length = ahead.length) (after : List Value) :
    projectFields expected length count (ahead ++ (name, p, s) :: behind) (before ++ v :: after) =
      projectFields expected length count (ahead ++ (name, p, s) :: behind)
        (before ++ w :: after) := by
  induction before generalizing count ahead with
  | nil =>
      obtain rfl := List.length_eq_zero_iff.mp hplace.symm
      simp only [List.nil_append, projectFields, h]
  | cons u before ih =>
      cases ahead with
      | nil => cases hplace
      | cons field ahead =>
          simp only [List.cons_append, projectFields, ih (Nat.succ.inj hplace)]

/-- What is not declared makes no difference to a reader. -/
theorem Schema.Prunes.project_eq {s : Schema} {v w : Value} (h : s.Prunes v w) :
    s.project v = s.project w := by
  induction h with
  | @member s title fields before after name v hcore hname =>
      have hfind : fields.find? (·.1 = name) = none :=
        List.find?_eq_none.mpr fun field hfield heq =>
          hname (List.mem_map.mpr ⟨field, hfield, by simpa using heq⟩)
      simp only [project, hcore, projectMembers_append, projectMembers, projectField, hfind]
      rfl
  | @field s t title closed fields before after name p v w hcore hfield _ ih =>
      simp only [project, hcore, projectMembers_append, projectMembers, projectField, hfield]
      congr 2
      funext found
      -- the member comes for the second time, or is read by the schema of its field
      cases (Members.get? found name).isSome
      · exact congrArg (Except.bind · _) ih
      · rfl
  | item hcore _ ih => simp only [project, hcore, projectItems_congr ih]
  | place hcore hplace _ ih =>
      simp only [project, hcore, List.length_append, List.length_cons,
        projectFields_congr ih hplace]

theorem Schema.Prunes.kindName_eq {s : Schema} {v w : Value} (h : s.Prunes v w) :
    v.kindName = w.kindName ∧ v.isObject = w.isObject := by
  cases h <;> exact ⟨rfl, rfl⟩

/-- Behind a declared name there is the same, or the same less a member. -/
theorem Schema.Prunes.get?_eq_or {s t : Schema} {title name : String} {closed : Bool}
    {fields : Fields} {p : Presence} (hcore : s.core = .record title closed fields)
    (hfield : fields.find? (·.1 = name) = some (name, p, t)) {ms ms' : Members}
    (h : s.Prunes (.object ms) (.object ms')) :
    Members.get? ms name = Members.get? ms' name ∨
      ∃ v w, Members.get? ms name = some v ∧ Members.get? ms' name = some w ∧ t.Prunes v w := by
  cases h with
  | @member _ _ _ before after other v hcore' hother =>
      obtain ⟨-, -, rfl⟩ := Schema.record.inj (hcore.symm.trans hcore')
      have hne : other ≠ name := by
        rintro rfl
        exact hother (List.mem_map.mpr ⟨_, List.mem_of_find?_eq_some hfield, rfl⟩)
      exact .inl (by simp [Members.get?_append, hne])
  | @field _ t' _ _ _ before after other _ v w hcore' hfield' hprunes =>
      obtain ⟨-, -, rfl⟩ := Schema.record.inj (hcore.symm.trans hcore')
      by_cases hname : other = name
      · subst hname
        obtain ⟨-, rfl⟩ : _ ∧ t' = t := by simpa using hfield'.symm.trans hfield
        cases hbefore : Members.get? before other with
        | some u => exact .inl (by simp [Members.get?_append, hbefore])
        | none =>
            exact .inr ⟨v, w, by simp [Members.get?_append, hbefore],
              by simp [Members.get?_append, hbefore], hprunes⟩
      · exact .inl (by simp [Members.get?_append, hname])

/-! ### Members -/

namespace Members

/-- What stands under a name, after every member was changed in its place. -/
theorem get?_map (f : String → Value → Value) (ms : Members) (name : String) :
    get? (ms.map fun m => (m.1, f m.1 m.2)) name = (get? ms name).map (f name) := by
  induction ms with
  | nil => rfl
  | cons m ms ih =>
      obtain ⟨k, v⟩ := m
      by_cases hk : k = name
      · simp [hk]
      · simp [hk, ih]

end Members

/-- Of a record that is read every declared member is. -/
theorem project_of_get? {title : String} {closed : Bool} {fields : Fields} {ms : Members}
    {w : Value} {name : String} {p : Presence} {s : Schema} {v : Value}
    (hnames : (fields.map (·.1)).Nodup) (hfield : (name, p, s) ∈ fields)
    (hsome : Members.get? ms name = some v)
    (h : (Schema.record title closed fields).project (.object ms) = .ok w) :
    ∃ u, s.project v = .ok u := by
  obtain ⟨out, -, hfields⟩ := project_record rfl h
  have hprojected := hfields (Fields.find?_of_mem hnames hfield)
  rw [hsome] at hprojected
  rcases hprojected.cases with ⟨hv, -⟩ | ⟨_, u, hv, -, hu⟩
  · cases hv
  · exact ⟨u, Option.some.inj hv ▸ hu⟩

/-- A record that has what it requires can only be told of a member that is not
of the type of its field. -/
theorem exists_member_of_project {title : String} {fields : Fields} {ms : Members}
    (hnodup : (ms.map (·.1)).Nodup)
    (hpresent : ∀ field ∈ fields, field.2.1 = .required →
      (Members.get? ms field.1).isSome = true)
    {e : Mismatch} (h : (Schema.record title false fields).project (.object ms) = .error e) :
    ∃ name p s v, (name, p, s) ∈ fields ∧ Members.get? ms name = some v ∧
      s.project v = .error e := by
  have hproject := @project_object_of_nodup title fields ms hnodup hpresent
  split at hproject
  · next e' hfirst =>
      obtain rfl := Except.error.inj (hproject.symm.trans h)
      obtain ⟨m, hm, he⟩ := List.exists_of_findSome?_eq_some hfirst
      obtain ⟨⟨name, p, s⟩, hfind, hs⟩ := Fields.mismatch?_eq_some he
      obtain rfl : name = m.1 := by simpa using List.find?_some hfind
      exact ⟨m.1, p, s, m.2, List.mem_of_find?_eq_some hfind,
        (Members.get?_eq_some_iff hnodup).mpr hm, hs⟩
  · obtain ⟨out, hout, -⟩ := hproject
    rw [hout] at h
    cases h

/-- The fields of a record. -/
def Schema.fields : Schema → Fields
  | .record _ _ fields => fields
  | _ => []

end SbomGate.Json

namespace SbomGate.Spdx

open Json

/-! ### What only the types speak about -/

/-- A member is not of its type where no rule says anything: it is a member that
no rule is about, or a member of a package. Given is the mismatch that this
is. -/
inductive Mistyped (members : Members) : Mismatch → Prop
  /-- A member that no rule is about. -/
  | field {name : String} {p : Presence} {s : Schema} {v : Value} {e : Mismatch}
      (hfield : (name, p, s) ∈ Document.schema.fields) (hrule : name ∉ Problem.order)
      (hsome : members.get? name = some v) (hproject : s.project v = .error e) :
      Mistyped members e
  /-- A member of a package. -/
  | package {entries : List Value} {inner : Members} {name : String} {p : Presence} {s : Schema}
      {v : Value} {e : Mismatch} (hsome : members.get? "packages" = some (.array entries))
      (hentry : .object inner ∈ entries) (hfield : (name, p, s) ∈ Package.schema.fields)
      (hmember : inner.get? name = some v) (hproject : s.project v = .error e) :
      Mistyped members e

/-- A required text of members that break no rule. -/
theorem text_of_check {members : Members} (h : check members = []) {field : String}
    (hfield : field ∈ required) : ∃ s, members.get? field = some (.string s) := by
  obtain ⟨rule, htext⟩ := exists_text_of_mem_required hfield
  have hnil : checkText members field rule = [] := (check_eq_nil_iff.mp h).1 _ htext
  unfold checkText at hnil
  split at hnil
  · cases hnil
  · next s hs => exact ⟨s, hs⟩
  · cases hnil

theorem string_of_required {name : String} {p : Presence} {s : Schema}
    (h : (name, p, s) ∈ Document.schema.fields) (hp : p = .required ∨ name ∈ required) :
    name ∈ required ∧ s = .string := by
  have hall : ∀ field ∈ Document.schema.fields,
      field.2.1 = .required ∨ field.1 ∈ required → field.1 ∈ required ∧ field.2.2 = .string := by
    simp only [Document.schema, Schema.fields, List.forall_mem_cons]
    simp [requiredText, optionalText, listField, required]
  exact hall _ h hp

/-- A package requires nothing. -/
theorem not_required_of_mem_package {inner : Members} : ∀ field ∈ Package.schema.fields,
    field.2.1 = .required → (inner.get? field.1).isSome = true := by
  simp [Package.schema, Schema.fields, optionalText, listField]

/-- Behind the rules the types stop at nothing that a rule is about. -/
theorem mistyped_of_project {members : Members} (hcanonical : (Value.object members).Canonical)
    (hcheck : check members = []) {e : Mismatch}
    (h : Document.schema.project (.object members) = .error e) : Mistyped members e := by
  rw [Value.Canonical, Value.canonicalMembers_iff] at hcanonical
  have hnodup := hcanonical.1.nodup
  have hpresent : ∀ field ∈ Document.schema.fields, field.2.1 = .required →
      (members.get? field.1).isSome = true := by
    intro field hfield hp
    obtain ⟨s, hs⟩ := text_of_check hcheck (string_of_required hfield (.inl hp)).1
    rw [hs]
    rfl
  obtain ⟨name, p, s, v, hfield, hsome, hs⟩ := exists_member_of_project hnodup hpresent h
  by_cases hrule : name ∈ Problem.order
  · rcases List.mem_append.mp (show name ∈ required ++ ["packages"] from hrule) with
      hrequired | hpackages
    · -- a required text is a string, which is all that its type asks for
      obtain ⟨t, ht⟩ := text_of_check hcheck hrequired
      obtain rfl := Option.some.inj (hsome.symm.trans ht)
      obtain ⟨-, rfl⟩ := string_of_required hfield (.inr hrequired)
      cases hs
    · -- the packages are objects, so it is a member of one of them
      obtain rfl := List.mem_singleton.mp hpackages
      obtain ⟨-, rfl⟩ : p = .defaulted ∧ s = .list Package.schema := by
        simpa [Document.schema, Schema.fields, requiredText, optionalText, listField] using hfield
      obtain ⟨entries, hentries⟩ := (packages_of_check hcheck).resolve_left (by simp [hsome])
      obtain rfl := Option.some.inj (hsome.symm.trans hentries)
      obtain ⟨entry, hentry, he⟩ := projectItems_eq_error (map_eq_error_iff.mp hs)
      cases entry with
      | object inner =>
          have hlist := hcanonical.2 _ ((Members.get?_eq_some_iff hnodup).mp hsome)
          rw [Value.Canonical, Value.canonicalItems_iff] at hlist
          have hinner := hlist _ hentry
          rw [Value.Canonical] at hinner
          obtain ⟨name, p, s, w, hmember, hw, hmismatch⟩ :=
            exists_member_of_project hinner.1.nodup not_required_of_mem_package he
          exact .package hsome hentry hmember hw hmismatch
      | _ => cases isObject_of_check hcheck hentries _ hentry
  · exact .field hfield hrule hsome hs

/-- A member that is not of its type is found. -/
theorem Mistyped.not_project {members : Members} {e : Mismatch} (h : Mistyped members e)
    (w : Value) : Document.schema.project (.object members) ≠ .ok w := by
  intro hproject
  cases h with
  | field hfield hrule hsome he =>
      obtain ⟨u, hu⟩ := project_of_get? (by decide) hfield hsome hproject
      rw [hu] at he
      cases he
  | package hsome hentry hfield hmember he =>
      have hpackages : ("packages", Presence.defaulted, Schema.list Package.schema) ∈
          Document.schema.fields := by
        simp [Document.schema, Schema.fields, listField]
      obtain ⟨u, hu⟩ := project_of_get? (by decide) hpackages hsome hproject
      obtain ⟨ws, hitems, -⟩ := map_eq_ok_iff.mp hu
      obtain ⟨w, hw⟩ := project_of_mem hitems hentry
      obtain ⟨u, hu⟩ := project_of_get? (by decide) hfield hmember hw
      rw [hu] at he
      cases he

/-! ### What the rules are about -/

/-- A list with an empty object in place of each entry; other values stay. -/
def emptied : Value → Value
  | .array entries => .array (entries.map fun _ => .object [])
  | v => v

/-- The members that the rules are about, with every package emptied. -/
def skeleton (members : Members) : Members :=
  (members.filter fun m => m.1 ∈ Problem.order).map fun m =>
    (m.1, if m.1 = "packages" then emptied m.2 else m.2)

theorem get?_skeleton {members : Members} {name : String} (h : name ∈ Problem.order) :
    (skeleton members).get? name =
      (members.get? name).map fun v => if name = "packages" then emptied v else v := by
  rw [skeleton, Members.get?_map fun name v => if name = "packages" then emptied v else v,
    Members.get?_filter (p := fun name => name ∈ Problem.order) (decide_eq_true h)]

theorem get?_skeleton_of_not_mem {members : Members} {name : String} (h : name ∉ Problem.order) :
    (skeleton members).get? name = none := by
  rw [skeleton, Members.get?_map fun name v => if name = "packages" then emptied v else v,
    Members.get?_filter_of_neg (p := fun name => name ∈ Problem.order) (decide_eq_false h)]
  rfl

theorem get?_skeleton_of_required {members : Members} {name : String} (h : name ∈ required) :
    (skeleton members).get? name = members.get? name := by
  rw [get?_skeleton (List.mem_append_left _ h)]
  have hne : name ≠ "packages" := by
    rintro rfl
    exact absurd h (by decide)
  simp [hne]

theorem get?_skeleton_packages (members : Members) :
    (skeleton members).get? "packages" = (members.get? "packages").map emptied := by
  rw [get?_skeleton (by decide)]
  simp

theorem canonical_skeleton {members : Members} (h : (Value.object members).Canonical) :
    (Value.object (skeleton members)).Canonical := by
  rw [Value.Canonical, Value.canonicalMembers_iff] at h ⊢
  refine ⟨List.pairwise_map.mpr (h.1.filter _), fun m hm => ?_⟩
  obtain ⟨⟨name, v⟩, hkept, rfl⟩ := List.mem_map.mp hm
  have hv : v.Canonical := h.2 _ (List.mem_of_mem_filter hkept)
  simp only
  split
  · cases v with
    | array entries =>
        rw [emptied, Value.Canonical, Value.canonicalItems_iff]
        intro v hv
        obtain ⟨-, -, rfl⟩ := List.mem_map.mp hv
        simp [Value.Canonical, Value.CanonicalMembers, Members.Sorted]
    | _ => exact hv
  · exact hv

theorem check_skeleton {members : Members} (h : check members = []) :
    check (skeleton members) = [] := by
  rw [check_eq_nil_iff]
  constructor
  · intro text htext
    rw [checkText_congr (get?_skeleton_of_required (mem_required_of_mem_texts htext))]
    exact (check_eq_nil_iff.mp h).1 text htext
  · rcases packages_of_check h with hnone | ⟨entries, hsome⟩
    · rw [checkPackages, get?_skeleton_packages, hnone]
      rfl
    · refine checkPackages_of_isObject (by rw [get?_skeleton_packages, hsome]; rfl) fun v hv => ?_
      obtain ⟨-, -, rfl⟩ := List.mem_map.mp hv
      rfl

/-- Where there is nothing but what the rules are about, the types have nothing
to speak about. -/
theorem not_mistyped_skeleton (members : Members) (e : Mismatch) :
    ¬ Mistyped (skeleton members) e := by
  intro h
  cases h with
  | field hfield hrule hsome he =>
      rw [get?_skeleton_of_not_mem hrule] at hsome
      cases hsome
  | package hsome hentry hfield hmember he =>
      rw [get?_skeleton_packages] at hsome
      obtain ⟨v, -, hv⟩ := Option.map_eq_some_iff.mp hsome
      cases v with
      | array entries =>
          obtain rfl := Value.array.inj hv
          obtain ⟨-, -, hinner⟩ := List.mem_map.mp hentry
          obtain rfl := Value.object.inj hinner
          cases hmember
      | _ => cases hv

/-! ### What no rule is about -/

theorem checkEntries_congr {v w : Value}
    (h : v.kindName = w.kindName ∧ v.isObject = w.isObject) (index : Nat)
    (before after : List Value) :
    checkEntries index (before ++ v :: after) = checkEntries index (before ++ w :: after) := by
  induction before generalizing index with
  | nil => simp only [List.nil_append, checkEntries, h]
  | cons u before ih => simp only [List.cons_append, checkEntries, ih]

/-- What is not declared makes no difference to the rules. -/
theorem check_of_prunes {members members' : Members}
    (h : Document.schema.Prunes (.object members) (.object members')) :
    check members = check members' := by
  have htexts : ∀ text ∈ texts,
      checkText members text.1 text.2 = checkText members' text.1 text.2 := by
    intro text htext
    refine checkText_congr ?_ text.2
    have hfield : Document.schema.fields.find? (·.1 = text.1) =
        some (text.1, .required, .string) := by
      revert text
      simp [texts, Document.schema, Schema.fields, requiredText]
    rcases h.get?_eq_or rfl hfield with heq | ⟨v, w, -, -, hprunes⟩
    · exact heq
    · -- there is nothing inside of a text
      cases hprunes <;> cases ‹Schema.core .string = _›
  have hpackages : checkPackages members = checkPackages members' := by
    have hfield : Document.schema.fields.find? (·.1 = "packages") =
        some ("packages", .defaulted, .list Package.schema) := rfl
    rcases h.get?_eq_or rfl hfield with heq | ⟨v, w, hv, hw, hprunes⟩
    · exact checkPackages_congr heq
    · simp only [checkPackages, hv, hw]
      cases hprunes with
      | item _ hprunes => exact checkEntries_congr hprunes.kindName_eq 0 _ _
      | member hcore => cases hcore
      | field hcore => cases hcore
      | place hcore => cases hcore
  simp only [check_eq, hpackages, List.flatMap_congr htexts]

/-- What is not declared makes no difference to the document, nor to what is
said of a value that is none. -/
theorem document_of_prunes {v w : Value} (h : Document.schema.Prunes v w) :
    (Submission.ofValue v).map (·.document) = (Submission.ofValue w).map (·.document) := by
  have hproject := h.project_eq
  have hkind := h.kindName_eq.1
  cases v with
  | object members =>
      cases w with
      | object members' =>
          simp only [Submission.ofValue, check_of_prunes h, hproject]
          split
          · split <;> rfl
          · rfl
      | _ => cases h
  | array items =>
      cases w with
      | array items' => simp only [Submission.ofValue, hkind]
      | _ => cases h
  | _ => cases h

/-! ### Both passes -/

/-- A document that breaks no rule is accepted unless something is mistyped. -/
theorem accepted_iff {members : Members} (hcanonical : (Value.object members).Canonical)
    (hcheck : check members = []) :
    (∃ s, Submission.ofValue (.object members) = .ok s) ↔ ¬ ∃ e, Mistyped members e := by
  constructor
  · rintro ⟨s, hs⟩ ⟨e, he⟩
    obtain ⟨_, w, hobject, -, hproject, -⟩ := ofValue_eq_ok_iff.mp hs
    obtain rfl := Value.object.inj hobject
    exact he.not_project w hproject
  · intro hnot
    cases hproject : Document.schema.project (.object members) with
    | ok w => exact ⟨_, ofValue_eq_ok_iff.mpr ⟨members, w, rfl, hcheck, hproject, rfl⟩⟩
    | error e => exact absurd ⟨e, mistyped_of_project hcanonical hcheck hproject⟩ hnot

/-- A document that breaks no rule is rejected for what is mistyped. -/
theorem mistyped_of_ofValue {members : Members} (hcanonical : (Value.object members).Canonical)
    (hcheck : check members = []) {r : Rejection}
    (h : Submission.ofValue (.object members) = .error r) :
    ∃ e, r = .of (.mistyped e) ∧ Mistyped members e := by
  rcases ofValue_eq_error_iff.mp h with ⟨hkind, -⟩ | ⟨_, hobject, h⟩
  · cases hkind
  · obtain rfl := Value.object.inj hobject
    rcases h with ⟨hne, -⟩ | ⟨e, -, hproject, rfl⟩
    · exact absurd hcheck hne
    · exact ⟨e, rfl, mistyped_of_project hcanonical hcheck hproject⟩

/-- **The passes agree on what is required.** A document that breaks no rule
is accepted once it holds only what the rules are about, with its packages
emptied; as it is, it is accepted unless something else is mistyped, and for
that alone it is rejected. A document that is accepted carries the four texts
and counts the packages of the value that was received. Members that are not
declared, wherever they stand, make no difference. -/
theorem passes_agree :
    (∀ members : Members, (Value.object members).Canonical → check members = [] →
      (∃ s, Submission.ofValue (.object (skeleton members)) = .ok s) ∧
        ((∃ s, Submission.ofValue (.object members) = .ok s) ↔ ¬ ∃ e, Mistyped members e) ∧
        ∀ r, Submission.ofValue (.object members) = .error r →
          ∃ e, r = .of (.mistyped e) ∧ Mistyped members e) ∧
      (∀ (v : Value) (s : Submission), Submission.ofValue v = .ok s →
        s.raw = v ∧ v.member? "spdxVersion" = some (.string s.document.spdxVersion) ∧
          v.member? "SPDXID" = some (.string s.document.id) ∧
          v.member? "documentNamespace" = some (.string s.document.namespaceUri) ∧
          v.member? "name" = some (.string s.document.name) ∧
          s.packageCount = listedPackages v) ∧
      ∀ v w : Value, Relation.EqvGen Document.schema.Prunes v w →
        (Submission.ofValue v).map (·.document) = (Submission.ofValue w).map (·.document) := by
  refine ⟨fun members hcanonical hcheck => ⟨?_, accepted_iff hcanonical hcheck,
    fun r => mistyped_of_ofValue hcanonical hcheck⟩, fun v s h => ?_, fun v w h => ?_⟩
  · refine (accepted_iff (canonical_skeleton hcanonical) (check_skeleton hcheck)).mpr ?_
    rintro ⟨e, he⟩
    exact not_mistyped_skeleton members e he
  · obtain ⟨hraw, hagrees⟩ := ofValue_agrees h
    exact ⟨hraw, hagrees.spdxVersion, hagrees.id, hagrees.namespaceUri, hagrees.name,
      packageCount_of_ofValue h⟩
  · induction h with
    | rel v w h => exact document_of_prunes h
    | refl v => rfl
    | symm v w _ ih => exact ih.symm
    | trans u v w _ _ ih ih' => exact ih.trans ih'

/-- A document whose license is a number. -/
def misdeclaredMembers : Members :=
  [("SPDXID", .string "SPDXRef-D"), ("dataLicense", .number (.whole 5)),
    ("documentNamespace", .string "a:b"), ("name", .string "n"),
    ("packages", .array [.object [("name", .string "p")]]), ("spdxVersion", .string "SPDX-2.3")]

/-- It is rejected for its license, and accepted without. -/
theorem passes_agree_misdeclared :
    (∃ s, Submission.ofValue (.object (skeleton misdeclaredMembers)) = .ok s) ∧
      ∃ e, Mistyped misdeclaredMembers e := by
  have hcanonical : (Value.object misdeclaredMembers).Canonical := by
    simp only [misdeclaredMembers, Value.Canonical, Value.CanonicalMembers, Value.CanonicalItems,
      Members.Sorted, Number.InRange]
    decide +kernel
  obtain ⟨haccepted, -, hrejected⟩ := passes_agree.1 _ hcanonical (by decide +kernel)
  have hnumber : Submission.ofValue (.object misdeclaredMembers) =
      .error (.of (.mistyped (.wrongType (.number (.whole 5)) "a string"))) := by
    decide +kernel
  obtain ⟨e, -, he⟩ := hrejected _ hnumber
  exact ⟨haccepted, e, he⟩

end SbomGate.Spdx
