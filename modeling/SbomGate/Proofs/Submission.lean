import SbomGate.Proofs.Record
import SbomGate.Spdx.Submission
/-!
# SbomGate.Proofs.Submission

**Which texts are submissions**, and what is said of the others.

A text is refused at the first of four stages that finds a problem: it is no
JSON, it is no object, its members break rules, or a member is not of its type.
`Problems` lists what each stage says; the stage of the rules says everything
at once. What is left is a submission, which counts the packages of the
document that was sent.
-/

namespace SbomGate.Spdx

open Json

/-- All that is said of a text that is no submission. -/
inductive Problems (text : Bytes) : List Problem → Prop
  /-- It is not JSON. -/
  | notJson {e : ReadError} (hread : Value.ofBytes text = .error e) :
      Problems text [.notJson e]
  /-- It is no object. -/
  | notObject {v : Value} (hread : Value.ofBytes text = .ok v)
      (hkind : (unwrap v).isObject = false) : Problems text [.notObject (unwrap v).kindName]
  /-- It breaks rules: all of them are named. -/
  | rules {v : Value} {members : Members} (hread : Value.ofBytes text = .ok v)
      (hobject : unwrap v = .object members) (hcheck : check members ≠ []) :
      Problems text (check members)
  /-- It breaks no rule, and a member is not of its type. -/
  | types {v : Value} {members : Members} {m : Mismatch} (hread : Value.ofBytes text = .ok v)
      (hobject : unwrap v = .object members) (hcheck : check members = [])
      (hproject : Document.schema.project (.object members) = .error m) :
      Problems text [.mistyped m]

/-! ### Values -/

theorem ofValue_eq_ok_iff {v : Value} {s : Submission} :
    Submission.ofValue v = .ok s ↔
      ∃ members w, v = .object members ∧ check members = [] ∧
        Document.schema.project v = .ok w ∧ s = ⟨Document.ofMembers w.members, v⟩ := by
  constructor
  · intro h
    unfold Submission.ofValue at h
    split at h
    · next members =>
        split at h
        · next hcheck =>
            split at h
            · next w hproject =>
                exact ⟨members, w, rfl, hcheck, hproject, (Except.ok.inj h).symm⟩
            · cases h
        · cases h
    · cases h
  · rintro ⟨members, w, rfl, hcheck, hproject, rfl⟩
    simp only [Submission.ofValue, hcheck, hproject]

/-- A value is refused for the problems of the first stage that has any. -/
theorem ofValue_eq_error_iff {v : Value} {r : Rejection} :
    Submission.ofValue v = .error r ↔
      (v.isObject = false ∧ r = .of (.notObject v.kindName)) ∨
        ∃ members, v = .object members ∧
          ((check members ≠ [] ∧ r = ⟨check members⟩) ∨
            ∃ m, check members = [] ∧ Document.schema.project v = .error m ∧
              r = .of (.mistyped m)) := by
  have hne : ∀ {q q' : Rejection}, (Except.error q : Except Rejection Submission) = .error q' ↔
      q' = q := fun {q q'} => ⟨fun h => (Except.error.inj h).symm, fun h => h ▸ rfl⟩
  cases v with
  | object members =>
      simp only [Submission.ofValue, Value.isObject, Bool.true_eq_false, false_and, false_or,
        Value.object.injEq, exists_eq_left']
      cases hcheck : check members with
      | nil =>
          cases hproject : Document.schema.project (.object members) with
          | ok w => simp
          | error m => simp [hne]
      | cons p ps => simp [hne]
  | _ => simp [Submission.ofValue, Value.isObject, hne]

/-! ### Texts -/

theorem ofBytes_eq_ok_iff {text : Bytes} {s : Submission} :
    Submission.ofBytes text = .ok s ↔
      ∃ v, Value.ofBytes text = .ok v ∧ Submission.ofValue (unwrap v) = .ok s := by
  rw [Submission.ofBytes, except_bind_eq_ok_iff]
  simp only [decode, mapError_eq_ok_iff]

/-- A text that is no submission is told all its problems. -/
theorem ofBytes_eq_error_iff {text : Bytes} {r : Rejection} :
    Submission.ofBytes text = .error r ↔ Problems text r.problems := by
  obtain ⟨problems⟩ := r
  constructor
  · intro h
    rcases bind_eq_error_iff.mp h with h | ⟨v, hv, h⟩
    · obtain ⟨e, he, h⟩ := mapError_eq_error_iff.mp h
      obtain rfl := Rejection.mk.inj h
      exact .notJson he
    · have hread := mapError_eq_ok_iff.mp hv
      rcases ofValue_eq_error_iff.mp h with ⟨hkind, h⟩ | ⟨members, hobject, h⟩
      · obtain rfl := Rejection.mk.inj h
        exact .notObject hread hkind
      · rcases h with ⟨hcheck, h⟩ | ⟨m, hcheck, hproject, h⟩
        · obtain rfl := Rejection.mk.inj h
          exact .rules hread hobject hcheck
        · obtain rfl := Rejection.mk.inj h
          exact .types hread hobject hcheck (hobject ▸ hproject)
  · intro h
    have hok : ∀ {v}, Value.ofBytes text = .ok v →
        Submission.ofBytes text = Submission.ofValue (unwrap v) := by
      intro v hread
      simp [Submission.ofBytes, decode, hread, Except.mapError, Except.bind]
    -- the problems of a rejection are an index of `Problems`, and have to be a variable
    generalize hp : (Rejection.mk problems).problems = ps at h
    subst hp
    cases h with
    | notJson hread => simp [Submission.ofBytes, decode, hread, Except.mapError, Except.bind,
        Rejection.of]
    | notObject hread hkind => exact (hok hread).trans (ofValue_eq_error_iff.mpr (.inl ⟨hkind, rfl⟩))
    | rules hread hobject hcheck =>
        exact (hok hread).trans
          (ofValue_eq_error_iff.mpr (.inr ⟨_, hobject, .inl ⟨hcheck, rfl⟩⟩))
    | types hread hobject hcheck hproject =>
        exact (hok hread).trans
          (ofValue_eq_error_iff.mpr (.inr ⟨_, hobject, .inr ⟨_, hcheck, hobject ▸ hproject, rfl⟩⟩))

/-! ### Packages -/

/-- The number of packages that a value lists. -/
def listedPackages (v : Value) : Nat :=
  match v.member? "packages" with
  | some (.array entries) => entries.length
  | _ => 0

/-- A document that breaks no rule lists its packages, if it has any. -/
theorem packages_of_check {members : Members} (h : check members = []) :
    members.get? "packages" = none ∨ ∃ entries, members.get? "packages" = some (.array entries) := by
  have hp : checkPackages members = [] := (List.append_eq_nil_iff.mp h).2
  unfold checkPackages at hp
  split at hp
  · next hnone => exact .inl hnone
  · next entries hsome => exact .inr ⟨entries, hsome⟩
  · cases hp

/-- Every listed package counts, however little it says. -/
theorem packageCount_of_ofValue {v : Value} {s : Submission} (h : Submission.ofValue v = .ok s) :
    s.packageCount = listedPackages v := by
  obtain ⟨members, w, rfl, hcheck, hproject, rfl⟩ := ofValue_eq_ok_iff.mp h
  obtain ⟨out, rfl, hfields⟩ := project_record rfl hproject
  have hfield := hfields (show _ = some ("packages", .defaulted, .list Package.schema) from rfl)
  simp only [Submission.packageCount, Document.ofMembers, List.length_map, listedPackages,
    Value.member?, Value.members, Members.items]
  -- a document without the member has no packages, and one of another kind is refused
  rcases packages_of_check hcheck with hnone | ⟨entries, hsome⟩
  · rw [hnone] at hfield ⊢
    cases hout : Members.get? out "packages" with
    | none => rfl
    | some w => simp [hout, Projected] at hfield
  · rw [hsome] at hfield ⊢
    cases hout : Members.get? out "packages" with
    | none => simp [hout, Projected] at hfield
    | some w =>
        rw [hout] at hfield
        obtain ⟨ws, rfl, hitems⟩ := project_list rfl hfield
        exact hitems.length_eq.symm

end SbomGate.Spdx
