import Mathlib.Data.String.Basic
import SbomGate.Json.Value
/-!
# SbomGate.Proofs.Canonical

**Canonical values**: their members stand in increasing order at every depth,
and their whole numbers fit 64 bits.

The canonical form of a value whose numbers fit is canonical, the members of a
canonical value are, and a canonical value is its own canonical form.
-/

namespace SbomGate.Json

namespace Members

/-! ### Sorting -/

theorem mem_insert {name : String} {value : Value} {m : String × Value} {ms : Members}
    (h : m ∈ insert name value ms) : m = (name, value) ∨ m ∈ ms := by
  induction ms with
  | nil => simpa [insert] using h
  | cons kv ms ih =>
      rw [insert] at h
      split at h
      · exact List.mem_cons.mp h
      split at h
      · rcases List.mem_cons.mp h with h | h
        · exact .inl h
        · exact .inr (List.mem_cons_of_mem _ h)
      · rcases List.mem_cons.mp h with h | h
        · exact .inr (h ▸ List.mem_cons_self)
        · rcases ih h with h | h
          · exact .inl h
          · exact .inr (List.mem_cons_of_mem _ h)

theorem insert_sorted {name : String} {value : Value} {ms : Members} (h : Sorted ms) :
    Sorted (insert name value ms) := by
  induction ms with
  | nil => exact List.pairwise_singleton _ _
  | cons kv ms ih =>
      obtain ⟨hhead, htail⟩ := List.pairwise_cons.mp h
      rw [insert]
      split
      · next hlt =>
          refine List.pairwise_cons.mpr ⟨?_, h⟩
          intro m hm
          rcases List.mem_cons.mp hm with rfl | hm
          · exact hlt
          · exact lt_trans hlt (hhead m hm)
      split
      · next heq =>
          refine List.pairwise_cons.mpr ⟨?_, htail⟩
          intro m hm
          exact heq ▸ hhead m hm
      · next hlt hne =>
          refine List.pairwise_cons.mpr ⟨?_, ih htail⟩
          intro m hm
          -- what is inserted further down is the new member or was there before
          rcases mem_insert hm with rfl | hm
          · exact lt_of_le_of_ne (not_lt.mp hlt) (Ne.symm hne)
          · exact hhead m hm

/-- A name above all others goes to the end. -/
theorem insert_eq_append {name : String} {value : Value} {ms : Members}
    (h : ∀ m ∈ ms, m.1 < name) : insert name value ms = ms ++ [(name, value)] := by
  induction ms with
  | nil => rfl
  | cons kv ms ih =>
      have hk : kv.1 < name := h kv List.mem_cons_self
      have hms : ∀ m ∈ ms, m.1 < name := fun m hm => h m (List.mem_cons_of_mem _ hm)
      rw [insert, if_neg (lt_asymm hk), if_neg (ne_of_gt hk), ih hms]
      rfl

theorem foldl_insert_sorted (ms : Members) {acc : Members} (h : Sorted acc) :
    Sorted (ms.foldl (fun acc m => insert m.1 m.2 acc) acc) := by
  induction ms generalizing acc with
  | nil => exact h
  | cons m ms ih => exact ih (insert_sorted h)

theorem mem_foldl_insert {m : String × Value} {ms acc : Members}
    (h : m ∈ ms.foldl (fun acc m => insert m.1 m.2 acc) acc) : m ∈ acc ∨ m ∈ ms := by
  induction ms generalizing acc with
  | nil => exact .inl h
  | cons kv ms ih =>
      rcases ih h with h | h
      · rcases mem_insert h with rfl | h
        · exact .inr List.mem_cons_self
        · exact .inl h
      · exact .inr (List.mem_cons_of_mem _ h)

theorem foldl_insert_eq_append {ms acc : Members} (h : Sorted (acc ++ ms)) :
    ms.foldl (fun acc m => insert m.1 m.2 acc) acc = acc ++ ms := by
  induction ms generalizing acc with
  | nil => exact (List.append_nil acc).symm
  | cons kv ms ih =>
      have hlast : ∀ m ∈ acc, m.1 < kv.1 := fun m hm =>
        (List.pairwise_append.mp h).2.2 m hm kv List.mem_cons_self
      have hsplit : acc ++ kv :: ms = acc ++ [kv] ++ ms := by
        rw [List.append_assoc, List.singleton_append]
      rw [hsplit] at h ⊢
      rw [List.foldl_cons, insert_eq_append hlast]
      exact ih h

/-- Sorted members have different names. -/
theorem Sorted.nodup {ms : Members} (h : Sorted ms) : (ms.map (·.1)).Nodup := by
  rw [List.Nodup, List.pairwise_map]
  exact h.imp fun hlt => ne_of_lt hlt

theorem sort_sorted (ms : Members) : Sorted (sort ms) := foldl_insert_sorted ms .nil

theorem mem_of_mem_sort {ms : Members} {m : String × Value} (h : m ∈ sort ms) : m ∈ ms :=
  (mem_foldl_insert h).resolve_left List.not_mem_nil

/-- Sorting leaves sorted members as they are. -/
theorem sort_eq_self {ms : Members} (h : Sorted ms) : sort ms = ms :=
  foldl_insert_eq_append h

theorem mem_of_get? {name : String} {v : Value} {ms : Members} (h : get? ms name = some v) :
    (name, v) ∈ ms := by
  induction ms with
  | nil => cases h
  | cons kv ms ih =>
      rw [get?_cons] at h
      split at h
      · next hk =>
          obtain rfl := Option.some.inj h
          exact hk ▸ List.mem_cons_self
      · exact List.mem_cons_of_mem _ (ih h)

end Members

/-! ### Numbers -/

namespace Value

mutual

/-- All whole numbers fit 64 bits. -/
def InRange : Value → Prop
  | number n => n.InRange
  | array items => InRangeItems items
  | object members => InRangeMembers members
  | null | bool _ | string _ => True

/-- `InRange` on items. -/
def InRangeItems : List Value → Prop
  | [] => True
  | v :: vs => InRange v ∧ InRangeItems vs

/-- `InRange` on member values. -/
def InRangeMembers : List (String × Value) → Prop
  | [] => True
  | (_, v) :: ms => InRange v ∧ InRangeMembers ms

end

/-! ### Canonical values -/

mutual

/-- Whole numbers fit 64 bits, and the members of every object are sorted. -/
def Canonical : Value → Prop
  | number n => n.InRange
  | array items => CanonicalItems items
  | object members => Members.Sorted members ∧ CanonicalMembers members
  | null | bool _ | string _ => True

/-- `Canonical` on items. -/
def CanonicalItems : List Value → Prop
  | [] => True
  | v :: vs => Canonical v ∧ CanonicalItems vs

/-- `Canonical` on member values. -/
def CanonicalMembers : List (String × Value) → Prop
  | [] => True
  | (_, v) :: ms => Canonical v ∧ CanonicalMembers ms

end

theorem canonicalMembers_iff {ms : List (String × Value)} :
    CanonicalMembers ms ↔ ∀ m ∈ ms, m.2.Canonical := by
  induction ms with
  | nil => simp [CanonicalMembers]
  | cons m ms ih => rw [CanonicalMembers, ih, List.forall_mem_cons]

theorem canonicalItems_iff {vs : List Value} :
    CanonicalItems vs ↔ ∀ v ∈ vs, v.Canonical := by
  induction vs with
  | nil => simp [CanonicalItems]
  | cons v vs ih => rw [CanonicalItems, ih, List.forall_mem_cons]

mutual

/-- The canonical form of a value whose numbers fit is canonical. -/
theorem InRange.canonical : ∀ {v : Value}, v.InRange → v.canonical.Canonical
  | null, _ => by simp [canonical, Canonical]
  | bool _, _ => by simp [canonical, Canonical]
  | string _, _ => by simp [canonical, Canonical]
  | number n, h => by
      rw [InRange] at h
      rw [canonical, Canonical]
      exact h
  | array items, h => by
      rw [InRange] at h
      rw [canonical, Canonical]
      exact InRangeItems.canonical h
  | object members, h => by
      rw [InRange] at h
      rw [canonical, Canonical, canonicalMembers_iff]
      have hmembers := canonicalMembers_iff.mp (InRangeMembers.canonical h)
      exact ⟨Members.sort_sorted _, fun m hm => hmembers m (Members.mem_of_mem_sort hm)⟩

theorem InRangeItems.canonical : ∀ {vs : List Value}, InRangeItems vs →
    CanonicalItems (canonicalItems vs)
  | [], _ => by simp [canonicalItems, CanonicalItems]
  | v :: vs, h => by
      rw [InRangeItems] at h
      rw [canonicalItems, CanonicalItems]
      exact ⟨InRange.canonical h.1, InRangeItems.canonical h.2⟩

theorem InRangeMembers.canonical : ∀ {ms : List (String × Value)}, InRangeMembers ms →
    CanonicalMembers (canonicalMembers ms)
  | [], _ => by simp [canonicalMembers, CanonicalMembers]
  | (k, v) :: ms, h => by
      rw [InRangeMembers] at h
      rw [canonicalMembers, CanonicalMembers]
      exact ⟨InRange.canonical h.1, InRangeMembers.canonical h.2⟩

end

mutual

/-- The numbers of a canonical value fit. -/
theorem Canonical.inRange : ∀ {v : Value}, v.Canonical → v.InRange
  | null, _ => by rw [InRange]; trivial
  | bool _, _ => by rw [InRange]; trivial
  | string _, _ => by rw [InRange]; trivial
  | number _, h => by
      rw [Canonical] at h
      rw [InRange]
      exact h
  | array items, h => by
      rw [Canonical] at h
      rw [InRange]
      exact CanonicalItems.inRange h
  | object members, h => by
      rw [Canonical] at h
      rw [InRange]
      exact CanonicalMembers.inRange h.2

theorem CanonicalItems.inRange : ∀ {vs : List Value}, CanonicalItems vs → InRangeItems vs
  | [], _ => by rw [InRangeItems]; trivial
  | v :: vs, h => by
      rw [CanonicalItems] at h
      rw [InRangeItems]
      exact ⟨Canonical.inRange h.1, CanonicalItems.inRange h.2⟩

theorem CanonicalMembers.inRange : ∀ {ms : List (String × Value)}, CanonicalMembers ms →
    InRangeMembers ms
  | [], _ => by rw [InRangeMembers]; trivial
  | (k, v) :: ms, h => by
      rw [CanonicalMembers] at h
      rw [InRangeMembers]
      exact ⟨Canonical.inRange h.1, CanonicalMembers.inRange h.2⟩

end

mutual

/-- A canonical value is its own canonical form. -/
theorem Canonical.eq : ∀ {v : Value}, v.Canonical → v.canonical = v
  | null, _ => by rw [canonical]
  | bool _, _ => by rw [canonical]
  | string _, _ => by rw [canonical]
  | number _, _ => by rw [canonical]
  | array items, h => by
      rw [Canonical] at h
      rw [canonical, CanonicalItems.eq h]
  | object members, h => by
      rw [Canonical] at h
      rw [canonical, CanonicalMembers.eq h.2, Members.sort_eq_self h.1]

theorem CanonicalItems.eq : ∀ {vs : List Value}, CanonicalItems vs → canonicalItems vs = vs
  | [], _ => by rw [canonicalItems]
  | v :: vs, h => by
      rw [CanonicalItems] at h
      rw [canonicalItems, Canonical.eq h.1, CanonicalItems.eq h.2]

theorem CanonicalMembers.eq : ∀ {ms : List (String × Value)}, CanonicalMembers ms →
    canonicalMembers ms = ms
  | [], _ => by rw [canonicalMembers]
  | (k, v) :: ms, h => by
      rw [CanonicalMembers] at h
      rw [canonicalMembers, Canonical.eq h.1, CanonicalMembers.eq h.2]

end

/-- The members of a canonical value are canonical. -/
theorem Canonical.member? {v w : Value} {name : String} (h : v.Canonical)
    (hw : v.member? name = some w) : w.Canonical := by
  cases v with
  | object ms =>
      rw [Canonical, canonicalMembers_iff] at h
      exact h.2 (name, w) (Members.mem_of_get? hw)
  | _ => cases hw

end Value

end SbomGate.Json
