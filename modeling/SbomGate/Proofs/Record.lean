import Mathlib.Data.List.Forall2
import SbomGate.Json.Schema
import SbomGate.Proofs.Outcome
/-!
# SbomGate.Proofs.Record

**Projections of records, member by member**: what a record is read from under
a name is the projection of what the object holds under that name.

The invariant runs over `projectMembers`: the fields found so far stay, a name
that was found does not come again, and every other declared name is still
taken from the members ahead.
-/

namespace SbomGate.Json

theorem Members.get?_append (a b : Members) (name : String) :
    Members.get? (a ++ b) name = (Members.get? a name).or (Members.get? b name) := by
  induction a with
  | nil => rfl
  | cons m a ih =>
      obtain ⟨k, v⟩ := m
      simp only [List.cons_append, Members.get?_cons, ih]
      split <;> simp

/-! ### Lists -/

theorem projectItems_forall₂ {item : Schema} {vs ws : List Value}
    (h : projectItems item vs = .ok ws) :
    List.Forall₂ (fun v w => item.project v = .ok w) vs ws := by
  induction vs generalizing ws with
  | nil =>
      rw [projectItems] at h
      obtain rfl := Except.ok.inj h
      exact .nil
  | cons v vs ih =>
      rw [projectItems] at h
      obtain ⟨w, hw, h⟩ := except_bind_eq_ok_iff.mp h
      obtain ⟨rest, hrest, rfl⟩ := map_eq_ok_iff.mp h
      exact .cons hw (ih hrest)

/-- Items are read up to the first one that cannot be. -/
theorem projectItems_eq_error {item : Schema} {vs : List Value} {e : Mismatch}
    (h : projectItems item vs = .error e) : ∃ v ∈ vs, item.project v = .error e := by
  induction vs with
  | nil =>
      rw [projectItems] at h
      cases h
  | cons v vs ih =>
      rw [projectItems] at h
      rcases bind_eq_error_iff.mp h with h | ⟨w, -, h⟩
      · exact ⟨v, List.mem_cons_self, h⟩
      · obtain ⟨u, hu, he⟩ := ih (map_eq_error_iff.mp h)
        exact ⟨u, List.mem_cons_of_mem _ hu, he⟩

/-- Of a list that is read every item is. -/
theorem project_of_mem {item : Schema} {vs ws : List Value} (h : projectItems item vs = .ok ws)
    {v : Value} (hv : v ∈ vs) : ∃ w, item.project v = .ok w := by
  induction vs generalizing ws with
  | nil => cases hv
  | cons u vs ih =>
      rw [projectItems] at h
      obtain ⟨w, hw, h⟩ := except_bind_eq_ok_iff.mp h
      obtain ⟨rest, hrest, -⟩ := map_eq_ok_iff.mp h
      rcases List.mem_cons.mp hv with rfl | hv
      · exact ⟨w, hw⟩
      · exact ih hrest hv

/-- A list is projected item by item. -/
theorem project_list {s item : Schema} (hcore : s.core = .list item) {vs : List Value} {w : Value}
    (h : s.project (.array vs) = .ok w) :
    ∃ ws, w = .array ws ∧ List.Forall₂ (fun v w => item.project v = .ok w) vs ws := by
  rw [Schema.project, hcore] at h
  obtain ⟨ws, hws, rfl⟩ := map_eq_ok_iff.mp h
  exact ⟨ws, rfl, projectItems_forall₂ hws⟩

/-! ### Members -/

/-- What a declared name stands for: the projection of the member of that
name, if there is one. -/
def Projected (s : Schema) (v w : Option Value) : Prop :=
  match v, w with
  | none, none => True
  | some v, some w => s.project v = .ok w
  | _, _ => False

/-- A name that was found does not come again. -/
theorem projectMembers_found {closed : Bool} {fields : Fields} {name : String}
    {ms found out : Members} (h : projectMembers closed fields found ms = .ok out) {w : Value}
    (hw : Members.get? found name = some w) : Members.get? out name = some w := by
  induction ms generalizing found with
  | nil =>
      rw [projectMembers] at h
      obtain rfl := Except.ok.inj h
      exact hw
  | cons m ms ih =>
      rw [projectMembers] at h
      split at h
      · cases h
      · exact ih h hw
      · obtain ⟨u, -, h⟩ := except_bind_eq_ok_iff.mp h
        exact ih h (by rw [Members.get?_append, hw]; rfl)

theorem projectMembers_get? {closed : Bool} {fields : Fields} {name : String} {p : Presence}
    {s : Schema} (hfield : fields.find? (·.1 = name) = some (name, p, s))
    {ms found out : Members} (h : projectMembers closed fields found ms = .ok out)
    (hnone : Members.get? found name = none) :
    Projected s (Members.get? ms name) (Members.get? out name) := by
  induction ms generalizing found with
  | nil =>
      rw [projectMembers] at h
      obtain rfl := Except.ok.inj h
      simp [hnone, Projected]
  | cons m ms ih =>
      obtain ⟨k, v⟩ := m
      rw [projectMembers, projectField] at h
      by_cases hk : k = name
      · subst hk
        simp only [hfield, hnone, Option.isSome_none, Bool.false_eq_true, if_false] at h
        obtain ⟨w, hw, h⟩ := except_bind_eq_ok_iff.mp h
        -- the first member of the name stays; a second one would be refused
        have hout : Members.get? out k = some w :=
          projectMembers_found h (by simp [Members.get?_append, hnone])
        simpa [hout, Projected] using hw
      · rw [Members.get?_cons, if_neg hk]
        split at h
        · cases h
        · exact ih h hnone
        · obtain ⟨w, -, h⟩ := except_bind_eq_ok_iff.mp h
          exact ih h (by simp [Members.get?_append, hnone, hk])

/-! ### Fields in their order -/

theorem assemble_cons_eq_ok {k : String} {p : Presence} {s : Schema} {fields : Fields}
    {found out : Members} (h : assemble ((k, p, s) :: fields) found = .ok out) :
    ∃ rest, assemble fields found = .ok rest ∧
      ((∃ v, Members.get? found k = some v ∧ out = (k, v) :: rest) ∨
        Members.get? found k = none ∧ p ≠ .required ∧ out = rest) := by
  rw [assemble] at h
  split at h
  · next v hv =>
      obtain ⟨rest, hrest, rfl⟩ := map_eq_ok_iff.mp h
      exact ⟨rest, hrest, .inl ⟨v, hv, rfl⟩⟩
  · next hnone =>
      split at h
      · cases h
      · next hp => exact ⟨out, h, .inr ⟨hnone, hp, rfl⟩⟩

theorem assemble_get?_none {name : String} {fields : Fields} {found out : Members}
    (h : assemble fields found = .ok out) (hnone : Members.get? found name = none) :
    Members.get? out name = none := by
  induction fields generalizing out with
  | nil =>
      rw [assemble] at h
      obtain rfl := Except.ok.inj h
      rfl
  | cons field fields ih =>
      obtain ⟨k, p, s⟩ := field
      obtain ⟨rest, hrest, ⟨v, hv, rfl⟩ | ⟨-, -, rfl⟩⟩ := assemble_cons_eq_ok h
      · have hk : k ≠ name := by
          rintro rfl
          rw [hnone] at hv
          cases hv
        rw [Members.get?_cons, if_neg hk]
        exact ih hrest
      · exact ih hrest

/-- The order of declaration does not change what a declared name stands
for. -/
theorem assemble_get? {name : String} {fields : Fields} {found out : Members}
    (h : assemble fields found = .ok out) (hdeclared : ∃ field ∈ fields, field.1 = name) :
    Members.get? out name = Members.get? found name := by
  induction fields generalizing out with
  | nil =>
      obtain ⟨_, hmem, _⟩ := hdeclared
      cases hmem
  | cons first fields ih =>
      obtain ⟨k, p, s⟩ := first
      obtain ⟨field, hmem, hname⟩ := hdeclared
      obtain ⟨rest, hrest, hout⟩ := assemble_cons_eq_ok h
      by_cases hk : k = name
      · subst hk
        rcases hout with ⟨v, hv, rfl⟩ | ⟨hnone, -, rfl⟩
        · simp [hv]
        · rw [hnone]
          exact assemble_get?_none hrest hnone
      · have hmem : field ∈ fields := by
          rcases List.mem_cons.mp hmem with rfl | hmem
          · exact absurd hname hk
          · exact hmem
        have hrest' := ih hrest ⟨field, hmem, hname⟩
        rcases hout with ⟨v, -, rfl⟩ | ⟨-, -, rfl⟩
        · rw [Members.get?_cons, if_neg hk, hrest']
        · exact hrest'

/-- What a record holds under a declared name is the projection of what the
object holds under it. -/
theorem project_record {s : Schema} {title : String} {closed : Bool} {fields : Fields}
    (hcore : s.core = .record title closed fields) {members : Members} {v : Value}
    (h : s.project (.object members) = .ok v) :
    ∃ out, v = .object out ∧ ∀ {name p field}, fields.find? (·.1 = name) = some (name, p, field) →
      Projected field (Members.get? members name) (Members.get? out name) := by
  rw [Schema.project, hcore] at h
  obtain ⟨found, hfound, h⟩ := except_bind_eq_ok_iff.mp h
  obtain ⟨out, hout, rfl⟩ := map_eq_ok_iff.mp h
  refine ⟨out, rfl, ?_⟩
  intro name p field hfield
  rw [assemble_get? hout ⟨_, List.mem_of_find?_eq_some hfield, rfl⟩]
  exact projectMembers_get? hfield hfound rfl

/-! ### Records in either form -/

/-- What a value gives for a field of a record with these names: the member of
an object, or, of a list of the fields in their order, the item in its
place. -/
def Value.field? (names : List String) (v : Value) (name : String) : Option Value :=
  match v with
  | .object ms => Members.get? ms name
  | .array items => items[names.idxOf name]?
  | _ => none

/-- A value that can be a record with these names: an object, or a list that is
not longer than the names are. -/
def Value.IsRecord (names : List String) (v : Value) : Prop :=
  v.isObject = true ∨ ∃ items, v = .array items ∧ items.length ≤ names.length

/-- A required field is there once the fields are in their order. -/
theorem assemble_required {name : String} {fields : Fields} {found out : Members}
    (h : assemble fields found = .ok out)
    (hrequired : ∃ field ∈ fields, field.1 = name ∧ field.2.1 = .required) :
    (Members.get? found name).isSome := by
  induction fields generalizing out with
  | nil =>
      obtain ⟨_, hmem, _⟩ := hrequired
      cases hmem
  | cons first fields ih =>
      obtain ⟨k, p, s⟩ := first
      obtain ⟨field, hmem, hname, hp⟩ := hrequired
      obtain ⟨rest, hrest, hout⟩ := assemble_cons_eq_ok h
      rcases List.mem_cons.mp hmem with rfl | hmem
      · rcases hout with ⟨v, hv, -⟩ | ⟨-, hne, -⟩
        · rw [← hname, hv]
          rfl
        · exact absurd hp hne
      · exact ih hrest ⟨field, hmem, hname, hp⟩

/-- What a list leaves out has a default. -/
theorem projectAbsent_defaulted {expected : String} {fields : Fields} :
    ∀ {count : Nat}, projectAbsent expected count fields = .ok () →
      ∀ field ∈ fields, field.2.1 = .defaulted := by
  induction fields with
  | nil => simp
  | cons first fields ih =>
      intro count h
      rw [projectAbsent] at h
      split at h
      · next hp =>
          intro field hmem
          rcases List.mem_cons.mp hmem with rfl | hmem
          · exact hp
          · exact ih h field hmem
      · cases h

/-- The items of a list are the fields of a record, in the order of
declaration. -/
theorem projectFields_get? {expected : String} {length : Nat} {fields : Fields} {name : String}
    {p : Presence} {s : Schema} (hfield : fields.find? (·.1 = name) = some (name, p, s))
    {items : List Value} {count : Nat} {out : Members}
    (h : projectFields expected length count fields items = .ok out) :
    Projected s items[(fields.map (·.1)).idxOf name]? (Members.get? out name) ∧
      (p = .required → (Members.get? out name).isSome) := by
  induction items generalizing fields count out with
  | nil =>
      rw [projectFields] at h
      obtain ⟨⟨⟩, habsent, rfl⟩ := map_eq_ok_iff.mp h
      refine ⟨by simp [Projected], ?_⟩
      rintro rfl
      have hp := projectAbsent_defaulted habsent _ (List.mem_of_find?_eq_some hfield)
      cases hp
  | cons v items ih =>
      cases fields with
      | nil => cases hfield
      | cons first fields =>
          obtain ⟨k, q, t⟩ := first
          rw [projectFields] at h
          obtain ⟨w, hw, h⟩ := except_bind_eq_ok_iff.mp h
          obtain ⟨rest, hrest, rfl⟩ := map_eq_ok_iff.mp h
          by_cases hk : k = name
          · subst hk
            rw [List.find?_cons_of_pos (by simp)] at hfield
            obtain ⟨-, rfl, rfl⟩ := by simpa using hfield
            simpa [Projected] using hw
          · rw [List.find?_cons_of_neg (by simpa using hk)] at hfield
            have hidx : ((k, q, t) :: fields).map (·.1) = k :: fields.map (·.1) := rfl
            rw [hidx, List.idxOf_cons_ne _ hk, Members.get?_cons, if_neg hk]
            exact ih hfield hrest

theorem projectFields_length {expected : String} {length : Nat} {fields : Fields}
    {items : List Value} {count : Nat} {out : Members}
    (h : projectFields expected length count fields items = .ok out) :
    items.length ≤ fields.length := by
  induction items generalizing fields count out with
  | nil => exact Nat.zero_le _
  | cons v items ih =>
      cases fields with
      | nil => rw [projectFields] at h; cases h
      | cons first fields =>
          rw [projectFields] at h
          obtain ⟨w, hw, h⟩ := except_bind_eq_ok_iff.mp h
          obtain ⟨rest, hrest, -⟩ := map_eq_ok_iff.mp h
          exact Nat.succ_le_succ (ih hrest)

/-- What a value has been read as a record with: every declared field stands for
what the value gives under its name, and the required ones are there. -/
structure RecordRead (fields : Fields) (v : Value) (out : Members) : Prop where
  isRecord : v.IsRecord (fields.map (·.1))
  field : ∀ {name p s}, fields.find? (·.1 = name) = some (name, p, s) →
    Projected s (v.field? (fields.map (·.1)) name) (Members.get? out name) ∧
      (p = .required → (Members.get? out name).isSome)

/-- A record is read from an object by name or from a list by position, and
from nothing else. -/
theorem recordRead_of_project {title : String} {closed : Bool} {fields : Fields} {v w : Value}
    (h : (Schema.record title closed fields).project v = .ok w) :
    ∃ out, w = .object out ∧ RecordRead fields v out := by
  cases v with
  | object members =>
      obtain ⟨out, hw, hfields⟩ := project_record rfl h
      refine ⟨out, hw, .inl rfl, ?_⟩
      intro name p s hfield
      refine ⟨hfields hfield, ?_⟩
      rintro rfl
      rw [Schema.project] at h
      obtain ⟨found, -, h⟩ := except_bind_eq_ok_iff.mp h
      obtain ⟨out', hout, rfl⟩ := map_eq_ok_iff.mp h
      obtain rfl := Value.object.inj hw
      have hmem := List.mem_of_find?_eq_some hfield
      rw [assemble_get? hout ⟨_, hmem, rfl⟩]
      exact assemble_required hout ⟨_, hmem, rfl, rfl⟩
  | array items =>
      rw [Schema.project] at h
      obtain ⟨out, hout, rfl⟩ := map_eq_ok_iff.mp h
      refine ⟨out, rfl, .inr ⟨items, rfl, by simpa using projectFields_length hout⟩, ?_⟩
      intro name p s hfield
      exact projectFields_get? hfield hout
  | _ => simp [Schema.project, Schema.projectScalar] at h

end SbomGate.Json
