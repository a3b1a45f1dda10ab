import SbomGate.Proofs.Submission
/-!
# SbomGate.Proofs.Rules

**The rules are checked completely and apart from each other.**

`Violates` says what each rule asks for, one constructor a rule, without
saying how the members are gone through. `check` lists exactly the problems of
the rules that are broken, each once, in the order of the rules.

Four of the five rule groups are one definition, `checkText`, at four entries
of `texts`. What is needed of an entry is in `OwnRule`: its rule finds at most
one problem, and at its own field. Everything about `check` is then shown
field by field (`mem_checkText_iff`, `ordered_texts`, `filter_checkText`),
with the packages as the last group.
-/

namespace SbomGate.Spdx

open Json

/-! ### Where a problem is -/

namespace Problem

/-- The member of the document that a problem is about. -/
def member : Problem → String
  | notJson _ | notObject _ | mistyped _ => "document"
  | missing field | notText field _ => field
  | unsupportedVersion _ => "spdxVersion"
  | badId _ => "SPDXID"
  | badNamespace _ _ => "documentNamespace"
  | blankName => "name"
  | packagesNotList _ | packageNotObject _ _ => "packages"
  | stated _ => ""

/-- The place among the packages that a problem is about; 0 elsewhere. -/
def entry : Problem → Nat
  | packageNotObject index _ => index
  | _ => 0

/-- The member as a message spells it, with the place among the packages. -/
def heading : Problem → String
  | packageNotObject index _ => "packages[" ++ toString index ++ "]"
  | p => p.member

/-- The members that rules are about, in the order of the rules. -/
def order : List String := ["spdxVersion", "SPDXID", "documentNamespace", "name", "packages"]

/-- A problem is listed before another one: at an earlier member, or at an
earlier one of the packages. -/
def Before (p q : Problem) : Prop :=
  order.idxOf p.member < order.idxOf q.member ∨ p.member = q.member ∧ p.entry < q.entry

theorem Before.ne {p q : Problem} (h : Before p q) : p ≠ q := by
  rintro rfl
  rcases h with h | ⟨-, h⟩ <;> exact absurd h (Nat.lt_irrefl _)

end Problem

/-! ### The rules -/

/-- The texts that a document has to have. -/
def required : List String := ["spdxVersion", "SPDXID", "documentNamespace", "name"]

/-- The required texts, each with its own rule. -/
def texts : List (String × (String → List Problem)) :=
  [("spdxVersion", checkVersion), ("SPDXID", checkId), ("documentNamespace", checkNamespace),
    ("name", checkName)]

theorem exists_text_of_mem_required {field : String} (h : field ∈ required) :
    ∃ rule, (field, rule) ∈ texts := by
  have hmap : field ∈ texts.map Prod.fst := h
  simpa using hmap

theorem mem_required_of_mem_texts {text : String × (String → List Problem)} (h : text ∈ texts) :
    text.1 ∈ required :=
  List.mem_map_of_mem h

/-- The members of a document break a rule. Given is the problem that this
is. -/
inductive Violates (members : Members) : Problem → Prop
  /-- A required text is absent. -/
  | missing {field : String} (hfield : field ∈ required)
      (hnone : members.get? field = none) : Violates members (.missing field)
  /-- A required text is no string. -/
  | notText {field : String} {v : Value} (hfield : field ∈ required)
      (hsome : members.get? field = some v) (hkind : ∀ s, v ≠ .string s) :
      Violates members (.notText field v.kindName)
  /-- The version is no supported one. -/
  | version {s : String} (hsome : members.get? "spdxVersion" = some (.string s))
      (hother : s ≠ "SPDX-2.2" ∧ s ≠ "SPDX-2.3") : Violates members (.unsupportedVersion s)
  /-- The identifier starts otherwise. -/
  | id {s : String} (hsome : members.get? "SPDXID" = some (.string s))
      (hstart : ¬ "SPDXRef-".toList <+: s.toList) : Violates members (.badId s)
  /-- The namespace does not parse. -/
  | namespace {s : String} {flaw : Url.Flaw}
      (hsome : members.get? "documentNamespace" = some (.string s))
      (hparse : Url.parse s = .error flaw) : Violates members (.badNamespace s flaw)
  /-- The name holds nothing but blanks. -/
  | name {s : String} (hsome : members.get? "name" = some (.string s))
      (hblank : ∀ c ∈ s.toList, Text.isBlank c) : Violates members .blankName
  /-- The packages are there and no list. -/
  | packages {v : Value} (hsome : members.get? "packages" = some v)
      (hkind : ∀ entries, v ≠ .array entries) : Violates members (.packagesNotList v.kindName)
  /-- A package is no object. -/
  | package {entries : List Value} {index : Nat} {v : Value}
      (hsome : members.get? "packages" = some (.array entries))
      (hentry : entries[index]? = some v) (hkind : v.isObject = false) :
      Violates members (.packageNotObject index v.kindName)

theorem check_eq (members : Members) :
    check members =
      texts.flatMap (fun text => checkText members text.1 text.2) ++ checkPackages members := by
  simp [check, texts, List.append_assoc]

/-! ### One text -/

/-- The problems of a rule of one text: at most one, and about that text. -/
def AtMostOne (field : String) (problems : List Problem) : Prop :=
  problems = [] ∨ ∃ p, problems = [p] ∧ p.member = field ∧ p.heading = field

theorem atMostOne_of_mem_texts {text : String × (String → List Problem)} (h : text ∈ texts)
    (s : String) : AtMostOne text.1 (text.2 s) := by
  simp only [texts, List.mem_cons, List.not_mem_nil, or_false] at h
  rcases h with rfl | rfl | rfl | rfl
  all_goals simp only [checkVersion, checkId, checkNamespace, checkName]
  all_goals split
  all_goals first
    | exact .inl rfl
    | exact .inr ⟨_, rfl, rfl, rfl⟩

theorem checkText_atMostOne {field : String} {rule : String → List Problem} (members : Members)
    (h : ∀ s, AtMostOne field (rule s)) : AtMostOne field (checkText members field rule) := by
  unfold checkText
  split
  · exact .inr ⟨_, rfl, rfl, rfl⟩
  · exact h _
  · exact .inr ⟨_, rfl, rfl, rfl⟩

theorem AtMostOne.length_le {field : String} {problems : List Problem}
    (h : AtMostOne field problems) : problems.length ≤ 1 := by
  obtain rfl | ⟨p, rfl, -⟩ := h <;> simp

theorem AtMostOne.own {field : String} {problems : List Problem} (h : AtMostOne field problems)
    {p : Problem} (hp : p ∈ problems) : p.member = field ∧ p.heading = field := by
  obtain rfl | ⟨q, rfl, hq⟩ := h
  · cases hp
  · exact List.mem_singleton.mp hp ▸ hq

theorem AtMostOne.pairwise {field : String} {problems : List Problem}
    (h : AtMostOne field problems) : problems.Pairwise Problem.Before := by
  obtain rfl | ⟨p, rfl, -⟩ := h <;> simp

/-- What one text is told: that it is absent, that it is no string, or what
its own rule says. -/
theorem mem_checkText_iff {members : Members} {field : String} {rule : String → List Problem}
    {p : Problem} :
    p ∈ checkText members field rule ↔
      (members.get? field = none ∧ p = .missing field) ∨
        (∃ v, members.get? field = some v ∧ (∀ s, v ≠ .string s) ∧
          p = .notText field v.kindName) ∨
        ∃ s, members.get? field = some (.string s) ∧ p ∈ rule s := by
  unfold checkText
  cases members.get? field with
  | none => simp
  | some v => cases v <;> simp

theorem checkText_congr {members members' : Members} {field : String}
    (h : members.get? field = members'.get? field) (rule : String → List Problem) :
    checkText members field rule = checkText members' field rule := by
  unfold checkText
  rw [h]

/-! ### The rules of the four texts -/

theorem mem_checkVersion_iff {s : String} {p : Problem} :
    p ∈ checkVersion s ↔ (s ≠ "SPDX-2.2" ∧ s ≠ "SPDX-2.3") ∧ p = .unsupportedVersion s := by
  simp [checkVersion, supportedVersions]

theorem mem_checkId_iff {s : String} {p : Problem} :
    p ∈ checkId s ↔ ¬ "SPDXRef-".toList <+: s.toList ∧ p = .badId s := by
  simp [checkId, idStart]

theorem mem_checkNamespace_iff {s : String} {p : Problem} :
    p ∈ checkNamespace s ↔ ∃ flaw, Url.parse s = .error flaw ∧ p = .badNamespace s flaw := by
  unfold checkNamespace
  cases Url.parse s <;> simp

theorem mem_checkName_iff {s : String} {p : Problem} :
    p ∈ checkName s ↔ (∀ c ∈ s.toList, Text.isBlank c) ∧ p = .blankName := by
  simp [checkName, Text.blank]

/-! ### The packages -/

theorem mem_checkEntries_iff {start : Nat} {entries : List Value} {p : Problem} :
    p ∈ checkEntries start entries ↔
      ∃ index v, entries[index]? = some v ∧ v.isObject = false ∧
        p = .packageNotObject (start + index) v.kindName := by
  induction entries generalizing start with
  | nil => simp [checkEntries]
  | cons v vs ih =>
      have hhead : p ∈ (if v.isObject then [] else [Problem.packageNotObject start v.kindName]) ↔
          v.isObject = false ∧ p = .packageNotObject start v.kindName := by
        cases v.isObject <;> simp
      rw [checkEntries, List.mem_append, hhead, ih]
      constructor
      · rintro (⟨hkind, rfl⟩ | ⟨index, w, hw, hkind, rfl⟩)
        · exact ⟨0, v, rfl, hkind, rfl⟩
        · exact ⟨index + 1, w, hw, hkind, by rw [Nat.add_right_comm, Nat.add_assoc]⟩
      · rintro ⟨index, w, hw, hkind, rfl⟩
        cases index with
        | zero =>
            obtain rfl : v = w := Option.some.inj hw
            exact .inl ⟨hkind, rfl⟩
        | succ index => exact .inr ⟨index, w, hw, hkind, by rw [Nat.add_right_comm, Nat.add_assoc]⟩

theorem mem_checkPackages_iff {members : Members} {p : Problem} :
    p ∈ checkPackages members ↔
      (∃ v, members.get? "packages" = some v ∧ (∀ entries, v ≠ .array entries) ∧
        p = .packagesNotList v.kindName) ∨
      ∃ entries index v, members.get? "packages" = some (.array entries) ∧
        entries[index]? = some v ∧ v.isObject = false ∧
          p = .packageNotObject index v.kindName := by
  unfold checkPackages
  cases members.get? "packages" with
  | none => simp
  | some v => cases v <;> simp [mem_checkEntries_iff]

theorem checkPackages_congr {members members' : Members}
    (h : members.get? "packages" = members'.get? "packages") :
    checkPackages members = checkPackages members' := by
  unfold checkPackages
  rw [h]

theorem member_of_mem_checkPackages {members : Members} {p : Problem}
    (h : p ∈ checkPackages members) : p.member = "packages" := by
  rcases mem_checkPackages_iff.mp h with ⟨v, -, -, rfl⟩ | ⟨_, index, v, -, -, -, rfl⟩ <;> rfl

theorem pairwise_checkEntries (start : Nat) (entries : List Value) :
    (checkEntries start entries).Pairwise Problem.Before := by
  induction entries generalizing start with
  | nil => exact .nil
  | cons v vs ih =>
      rw [checkEntries, List.pairwise_append]
      refine ⟨by split <;> simp, ih _, fun p hp q hq => .inr ?_⟩
      obtain ⟨index, w, -, -, rfl⟩ := mem_checkEntries_iff.mp hq
      have hp : p = .packageNotObject start v.kindName := by
        split at hp
        · cases hp
        · exact List.mem_singleton.mp hp
      subst hp
      exact ⟨rfl, show start < start + 1 + index by omega⟩

theorem pairwise_checkPackages (members : Members) :
    (checkPackages members).Pairwise Problem.Before := by
  unfold checkPackages
  split
  · exact .nil
  · exact pairwise_checkEntries ..
  · exact List.pairwise_singleton ..

/-! ### All rules -/

theorem mem_check_iff_exists {members : Members} {p : Problem} :
    p ∈ check members ↔
      (∃ text ∈ texts, p ∈ checkText members text.1 text.2) ∨ p ∈ checkPackages members := by
  rw [check_eq, List.mem_append, List.mem_flatMap]

/-- A text is told what its own rule says. -/
theorem mem_check_of_own {members : Members} {field s : String} {rule : String → List Problem}
    {p : Problem} (htext : (field, rule) ∈ texts) (hsome : members.get? field = some (.string s))
    (hp : p ∈ rule s) : p ∈ check members :=
  mem_check_iff_exists.mpr (.inl ⟨_, htext, mem_checkText_iff.mpr (.inr (.inr ⟨s, hsome, hp⟩))⟩)

/-- The rules that are broken are the ones that are told. -/
theorem mem_check_iff {members : Members} {p : Problem} :
    p ∈ check members ↔ Violates members p := by
  constructor
  · intro h
    rcases mem_check_iff_exists.mp h with ⟨text, htext, hp⟩ | hp
    · rcases mem_checkText_iff.mp hp with ⟨hnone, rfl⟩ | ⟨v, hsome, hkind, rfl⟩ | ⟨s, hsome, hp⟩
      · exact .missing (mem_required_of_mem_texts htext) hnone
      · exact .notText (mem_required_of_mem_texts htext) hsome hkind
      · simp only [texts, List.mem_cons, List.not_mem_nil, or_false] at htext
        rcases htext with rfl | rfl | rfl | rfl
        · obtain ⟨hother, rfl⟩ := mem_checkVersion_iff.mp hp
          exact .version hsome hother
        · obtain ⟨hstart, rfl⟩ := mem_checkId_iff.mp hp
          exact .id hsome hstart
        · obtain ⟨flaw, hparse, rfl⟩ := mem_checkNamespace_iff.mp hp
          exact .namespace hsome hparse
        · obtain ⟨hblank, rfl⟩ := mem_checkName_iff.mp hp
          exact .name hsome hblank
    · rcases mem_checkPackages_iff.mp hp with
        ⟨v, hsome, hkind, rfl⟩ | ⟨entries, index, v, hsome, hentry, hkind, rfl⟩
      · exact .packages hsome hkind
      · exact .package hsome hentry hkind
  · intro h
    cases h with
    | missing hfield hnone =>
        obtain ⟨rule, htext⟩ := exists_text_of_mem_required hfield
        exact mem_check_iff_exists.mpr
          (.inl ⟨_, htext, mem_checkText_iff.mpr (.inl ⟨hnone, rfl⟩)⟩)
    | notText hfield hsome hkind =>
        obtain ⟨rule, htext⟩ := exists_text_of_mem_required hfield
        exact mem_check_iff_exists.mpr
          (.inl ⟨_, htext, mem_checkText_iff.mpr (.inr (.inl ⟨_, hsome, hkind, rfl⟩))⟩)
    | version hsome hother =>
        exact mem_check_of_own (by simp [texts]) hsome (mem_checkVersion_iff.mpr ⟨hother, rfl⟩)
    | id hsome hstart =>
        exact mem_check_of_own (by simp [texts]) hsome (mem_checkId_iff.mpr ⟨hstart, rfl⟩)
    | «namespace» hsome hparse =>
        exact mem_check_of_own (by simp [texts]) hsome
          (mem_checkNamespace_iff.mpr ⟨_, hparse, rfl⟩)
    | name hsome hblank =>
        exact mem_check_of_own (by simp [texts]) hsome (mem_checkName_iff.mpr ⟨hblank, rfl⟩)
    | packages hsome hkind =>
        exact mem_check_iff_exists.mpr
          (.inr (mem_checkPackages_iff.mpr (.inl ⟨_, hsome, hkind, rfl⟩)))
    | package hsome hentry hkind =>
        exact mem_check_iff_exists.mpr
          (.inr (mem_checkPackages_iff.mpr (.inr ⟨_, _, _, hsome, hentry, hkind, rfl⟩)))

/-- The problems stand in the order of the rules. -/
theorem pairwise_check (members : Members) : (check members).Pairwise Problem.Before := by
  -- the texts and then the packages are declared in the order of `Problem.order`
  have hfields : texts.Pairwise fun a b => Problem.order.idxOf a.1 < Problem.order.idxOf b.1 := by
    decide
  have hlast : ∀ text ∈ texts, Problem.order.idxOf text.1 < Problem.order.idxOf "packages" := by
    decide
  have hone := fun text (htext : text ∈ texts) =>
    checkText_atMostOne members (atMostOne_of_mem_texts htext)
  rw [check_eq, List.pairwise_append, List.pairwise_flatMap]
  refine ⟨⟨fun text htext => (hone text htext).pairwise, ?_⟩, pairwise_checkPackages members, ?_⟩
  · refine hfields.imp_of_mem fun {a b} ha hb hlt p hp q hq => .inl ?_
    rw [((hone a ha).own hp).1, ((hone b hb).own hq).1]
    exact hlt
  · intro p hp q hq
    obtain ⟨text, htext, hp⟩ := List.mem_flatMap.mp hp
    refine .inl ?_
    rw [((hone text htext).own hp).1, member_of_mem_checkPackages hq]
    exact hlast text htext

theorem filter_flatMap_checkText (members : Members) (at? : String → Bool)
    {group : List (String × (String → List Problem))} (h : ∀ text ∈ group, text ∈ texts) :
    (group.flatMap fun text => checkText members text.1 text.2).filter (fun p => at? p.member) =
      (group.filter fun text => at? text.1).flatMap
        fun text => checkText members text.1 text.2 := by
  induction group with
  | nil => rfl
  | cons text rest ih =>
      have hown := checkText_atMostOne members
        (atMostOne_of_mem_texts (h text List.mem_cons_self))
      have hfilter : (checkText members text.1 text.2).filter (fun p => at? p.member) =
          (checkText members text.1 text.2).filter fun _ => at? text.1 :=
        List.filter_congr fun p hp => by rw [(hown.own hp).1]
      rw [List.flatMap_cons, List.filter_append, hfilter,
        ih fun t ht => h t (List.mem_cons_of_mem _ ht)]
      cases hat : at? text.1 with
      | true => simp [hat]
      | false => simp [hat]

theorem filter_checkPackages (members : Members) (at? : String → Bool) :
    (checkPackages members).filter (fun p => at? p.member) =
      if at? "packages" then checkPackages members else [] := by
  rw [List.filter_congr fun p hp => by rw [member_of_mem_checkPackages hp]]
  cases at? "packages" <;> simp

/-- The problems at some of the members are those of the rules of these
members. -/
theorem filter_check (members : Members) (at? : String → Bool) :
    (check members).filter (fun p => at? p.member) =
      (texts.filter fun text => at? text.1).flatMap
          (fun text => checkText members text.1 text.2) ++
        if at? "packages" then checkPackages members else [] := by
  rw [check_eq, List.filter_append, filter_flatMap_checkText members at? fun _ h => h,
    filter_checkPackages]

/-- Members that agree but at `name` are told the same but at `name`. -/
theorem filter_check_congr {members members' : Members} {name : String}
    (h : ∀ other, other ≠ name → members.get? other = members'.get? other) :
    (check members).filter (fun p => p.member ≠ name) =
      (check members').filter (fun p => p.member ≠ name) := by
  have hfilter := fun ms : Members => filter_check ms fun member => decide (member ≠ name)
  rw [hfilter, hfilter]
  congr 1
  · refine List.flatMap_congr fun text htext => checkText_congr (h _ ?_) _
    exact of_decide_eq_true (List.mem_filter.mp htext).2
  · split
    next hne => exact checkPackages_congr (h _ (of_decide_eq_true hne))
    next => rfl

theorem filter_check_text (members : Members) {text : String × (String → List Problem)}
    (htext : text ∈ texts) :
    (check members).filter (fun p => p.member = text.1) =
      checkText members text.1 text.2 := by
  rw [filter_check members fun member => decide (member = text.1)]
  simp only [texts, List.mem_cons, List.not_mem_nil, or_false] at htext
  rcases htext with rfl | rfl | rfl | rfl <;> simp [texts]

/-- A required text is told at most one problem. -/
theorem length_filter_check_le (members : Members) {field : String} (hfield : field ∈ required) :
    ((check members).filter fun p => p.member = field).length ≤ 1 := by
  obtain ⟨rule, htext⟩ := exists_text_of_mem_required hfield
  rw [filter_check_text members htext]
  exact (checkText_atMostOne members (atMostOne_of_mem_texts htext)).length_le

theorem check_eq_nil_iff {members : Members} :
    check members = [] ↔
      (∀ text ∈ texts, checkText members text.1 text.2 = []) ∧ checkPackages members = [] := by
  rw [check_eq, List.append_eq_nil_iff, List.flatMap_eq_nil_iff]

/-- A list of objects breaks no rule. -/
theorem checkPackages_of_isObject {members : Members} {entries : List Value}
    (hsome : members.get? "packages" = some (.array entries))
    (hkind : ∀ v ∈ entries, v.isObject = true) : checkPackages members = [] := by
  rw [List.eq_nil_iff_forall_not_mem]
  intro p hp
  rcases mem_checkPackages_iff.mp hp with
    ⟨v, hv, hlist, -⟩ | ⟨entries', index, v, hv, hentry, hnot, -⟩
  · exact hlist entries (Option.some.inj (hv.symm.trans hsome))
  · obtain rfl := Value.array.inj (Option.some.inj (hv.symm.trans hsome))
    rw [hkind v (List.mem_of_getElem? hentry)] at hnot
    cases hnot

/-! ### Messages -/

/-- A message starts with a heading. -/
def Heads (heading message : String) : Prop := ∃ what, message = heading ++ ": " ++ what

theorem Heads.append {heading message : String} (h : Heads heading message) (rest : String) :
    Heads heading (message ++ rest) := by
  obtain ⟨what, rfl⟩ := h
  exact ⟨what ++ rest, String.append_assoc ..⟩

/-- A message names the member that its problem is at, and the place among the
packages. -/
theorem Violates.heads_message {members : Members} {p : Problem} (h : Violates members p) :
    Heads p.heading p.message := by
  cases h with
  | @missing field => exact show Heads field (field ++ ": field required") from
      ⟨"field required", by simp [String.append_assoc]⟩
  | @notText field => exact (show Heads field (field ++ ": must be a string, found ") from
      ⟨"must be a string, found ", by simp [String.append_assoc]⟩).append _
  | version => exact (((show Heads "spdxVersion" "spdxVersion: unsupported version '" from
      ⟨"unsupported version '", by simp⟩).append _).append _).append _
  | id => exact ((((show Heads "SPDXID" "SPDXID: '" from
      ⟨"'", by simp⟩).append _).append _).append _).append _
  | «namespace» => exact ((((show Heads "documentNamespace" "documentNamespace: '" from
      ⟨"'", by simp⟩).append _).append _).append _).append _
  | name => exact show Heads "name" "name: must not be empty" from
      ⟨"must not be empty", by simp⟩
  | packages => exact (show Heads "packages" "packages: must be an array, found " from
      ⟨"must be an array, found ", by simp⟩).append _
  | @package _ index =>
      exact (show Heads ("packages[" ++ toString index ++ "]")
          ("packages[" ++ toString index ++ "]: must be an object, found ") from
        ⟨"must be an object, found ", by simp [String.append_assoc]⟩).append _

theorem Violates.member_mem_order {members : Members} {p : Problem} (h : Violates members p) :
    p.member ∈ Problem.order := by
  cases h with
  | missing hfield | notText hfield => exact List.mem_append_left ["packages"] hfield
  | _ => simp [Problem.member, Problem.order]

/-! ### Rejections -/

theorem problems_ne_nil_of_ofValue {v : Value} {r : Rejection}
    (h : Submission.ofValue v = .error r) : r.problems ≠ [] := by
  rcases ofValue_eq_error_iff.mp h with ⟨-, rfl⟩ | ⟨members, -, ⟨hcheck, rfl⟩ | ⟨m, -, -, rfl⟩⟩
  · exact List.cons_ne_nil _ _
  · exact hcheck
  · exact List.cons_ne_nil _ _

theorem problems_ne_nil_of_decode (f : Value → Value) {text : Bytes} {r : Rejection}
    (h : ((decode text).bind fun v => Submission.ofValue (f v)) = .error r) :
    r.problems ≠ [] := by
  rcases bind_eq_error_iff.mp h with h | ⟨v, -, h⟩
  · obtain ⟨e, -, rfl⟩ := mapError_eq_error_iff.mp h
    exact List.cons_ne_nil _ _
  · exact problems_ne_nil_of_ofValue h

/-- A rejection always names a problem. -/
theorem messages_ne_nil {text : Bytes} {r : Rejection}
    (h : Submission.ofBytes text = .error r ∨ Submission.ofDocument text = .error r) :
    r.messages ≠ [] := by
  refine fun hnil => ?_
  have hproblems : r.problems = [] := List.map_eq_nil_iff.mp hnil
  rcases h with h | h
  · exact problems_ne_nil_of_decode unwrap h hproblems
  · exact problems_ne_nil_of_decode id h hproblems

/-! ### Completeness -/

/-- A document is told every rule that it breaks and no other, each once and
in the order of the rules; a change of one member changes what is said of that
member alone; and what is said is the rejection. Nothing is used of what makes a
namespace parse. -/
theorem check_names_every_violation :
    (∀ members : Members,
      (∀ p, p ∈ check members ↔ Violates members p) ∧
      (check members).Nodup ∧ (check members).Pairwise Problem.Before ∧
      (∀ field ∈ required, ((check members).filter fun p => p.member = field).length ≤ 1) ∧
      (∀ p ∈ check members, p.member ∈ Problem.order ∧
        ∃ what, p.message = p.heading ++ ": " ++ what) ∧
      (check members ≠ [] →
        Submission.ofValue (.object members) = .error ⟨check members⟩)) ∧
    (∀ (members members' : Members) (name : String),
      (∀ other, other ≠ name → members.get? other = members'.get? other) →
        (check members).filter (fun p => p.member ≠ name) =
          (check members').filter (fun p => p.member ≠ name) ∧
        (name ∉ Problem.order → check members = check members')) ∧
    ∀ (text : Bytes) (r : Rejection),
      Submission.ofBytes text = .error r ∨ Submission.ofDocument text = .error r →
        r.messages ≠ [] := by
  have hmember : ∀ {members p}, p ∈ check members → p.member ∈ Problem.order :=
    fun hp => (mem_check_iff.mp hp).member_mem_order
  refine ⟨fun members => ⟨fun p => mem_check_iff, ?_, pairwise_check members,
    fun field hfield => length_filter_check_le members hfield,
    fun p hp => ⟨hmember hp, (mem_check_iff.mp hp).heads_message⟩, fun hcheck => ?_⟩,
    fun members members' name h => ⟨filter_check_congr h, fun hname => ?_⟩,
    fun text r => messages_ne_nil⟩
  · exact (pairwise_check members).imp Problem.Before.ne
  · exact ofValue_eq_error_iff.mpr (.inr ⟨members, rfl, .inl ⟨hcheck, rfl⟩⟩)
  · -- nothing is said of a member that no rule is about
    have hall : ∀ ms : Members, (check ms).filter (fun p => p.member ≠ name) = check ms :=
      fun ms => List.filter_eq_self.mpr fun p hp =>
        decide_eq_true fun heq => hname (heq ▸ hmember hp)
    rw [← hall members, ← hall members', filter_check_congr h]

/-- Several rules broken at once: a text is absent, one is a number, one is
blank, and two of the packages are no objects. -/
theorem check_names_every_violation_several :
    let members : Members :=
      [("SPDXID", .number (.whole 7)), ("name", .string " \t"),
        ("packages", .array [.null, .object [], .bool true])]
    let problems : List Problem :=
      [.missing "spdxVersion", .notText "SPDXID" "number", .missing "documentNamespace",
        .blankName, .packageNotObject 0 "null", .packageNotObject 2 "boolean"]
    check members = problems ∧ check members ≠ [] ∧
      Submission.ofValue (.object members) = .error ⟨check members⟩ := by
  intro members problems
  have hcheck : check members = problems := by decide
  have hne : check members ≠ [] := hcheck ▸ List.cons_ne_nil _ _
  exact ⟨hcheck, hne, (check_names_every_violation.1 members).2.2.2.2.2 hne⟩

end SbomGate.Spdx
