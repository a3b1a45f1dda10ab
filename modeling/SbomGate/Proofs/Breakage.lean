import SbomGate.Proofs.PlainReading
import SbomGate.Proofs.TokenExtent
/-!
# SbomGate.Proofs.Breakage

**What goes wrong in a text is not mended further on.** Reading builds a tree whatever
the text is, and nothing that was taken into the tree is dropped from it again. So a
token that is broken, or that a reader finds fault with, leaves its mark in the tree of
the whole text.

* `Node.Unreadable` — no reader can read the node, at whatever depth.
* `State.Goes` — what one token can do to go on. In a state whose frames fit what is due,
  every other token breaks off (`State.goes_or_breaks`); everything else is read off this.
* `State.Spoiled` — something unreadable was taken in, which is for good
  (`State.Spoiled.feed`).
-/

namespace SbomGate.Json

/-! ## What cannot be read -/

/-- No reader can read the node, at whatever depth it stands. -/
def Node.Unreadable (n : Node) : Prop := ∀ limit v, n.read limit ≠ .ok v

/-- A member that cannot be read, for its name or its value. -/
def SpoiledMember (m : Name × Node) : Prop := (∀ s, m.1.text ≠ .ok s) ∨ m.2.Unreadable

theorem readItems_of_mem {n : Node} (hn : n.Unreadable) {ns : List Node} (hmem : n ∈ ns)
    (limit : Nat) (vs : List Value) : Node.readItems limit ns ≠ .ok vs := by
  induction ns generalizing vs with
  | nil => cases hmem
  | cons m ns ih =>
      intro h
      obtain ⟨v, vs', -, hv, hvs⟩ := Node.readItems_cons_iff.mp h
      rcases List.mem_cons.mp hmem with rfl | hmem
      · exact hn limit v hv
      · exact ih hmem vs' hvs

theorem readMembers_of_mem {m : Name × Node} (hm : SpoiledMember m) {ms : List (Name × Node)}
    (hmem : m ∈ ms) (limit : Nat) (vs : List (String × Value)) :
    Node.readMembers limit ms ≠ .ok vs := by
  induction ms generalizing vs with
  | nil => cases hmem
  | cons m' ms ih =>
      intro h
      obtain ⟨k, n⟩ := m'
      obtain ⟨name, v, vs', -, hname, hv, hvs⟩ := Node.readMembers_cons_iff.mp h
      rcases List.mem_cons.mp hmem with rfl | hmem
      · exact hm.elim (fun hk => hk name hname) (fun hn => hn limit v hv)
      · exact ih hmem vs' hvs

namespace Node

variable {start : Nat} {ns : List Node} {ms : List (Name × Node)} {close : Close}

theorem unreadable_list (h : ∃ n ∈ ns, n.Unreadable) : (list start ns close).Unreadable := by
  obtain ⟨n, hmem, hn⟩ := h
  intro limit v hread
  obtain ⟨vs, -, -, -, -, hvs⟩ := read_list_iff.mp hread
  exact readItems_of_mem hn hmem _ vs hvs

theorem unreadable_object (h : ∃ m ∈ ms, SpoiledMember m) : (object start ms close).Unreadable := by
  obtain ⟨m, hmem, hm⟩ := h
  intro limit v hread
  obtain ⟨vs, -, -, -, -, hvs⟩ := read_object_iff.mp hread
  exact readMembers_of_mem hm hmem _ vs hvs

theorem unreadable_list_broken (b : Break) : (list start ns (.broken b)).Unreadable := by
  intro limit v hread
  obtain ⟨-, stop, -, hclose, -⟩ := read_list_iff.mp hread
  cases hclose

theorem unreadable_object_broken (b : Break) : (object start ms (.broken b)).Unreadable := by
  intro limit v hread
  obtain ⟨-, stop, -, hclose, -⟩ := read_object_iff.mp hread
  cases hclose

theorem unreadable_broken (b : Break) : (broken start b).Unreadable := by
  intro limit v
  simp [read]

theorem unreadable_stub (b : Break) : (stub start b).Unreadable := by
  intro limit v
  simp [read]

end Node

namespace State

/-- What breaks off cannot be read, however much is open around it. -/
theorem unreadable_abandon (b : Break) {n : Node} (hn : n.Unreadable) (fs : List Frame) :
    (abandon b n fs).Unreadable := by
  induction fs generalizing n with
  | nil => exact hn
  | cons f fs ih =>
      cases f with
      | list start items => exact ih (Node.unreadable_list_broken b)
      | object start ms => exact ih (Node.unreadable_object_broken b)
      | member start ms name => exact ih (Node.unreadable_object_broken b)

/-- The text broke off, and what is left cannot be read. -/
def Broken (s : State) : Prop := ∃ root, s = .done root none ∧ root.Unreadable

theorem broken_breakValue {n : Node} (hn : n.Unreadable) (b : Break) (stack : List Frame) :
    (breakValue n b stack).Broken :=
  ⟨_, rfl, unreadable_abandon b hn stack⟩

theorem broken_breakFrame (start : Nat) (b : Break) (stack : List Frame) :
    (breakFrame start b stack).Broken := by
  cases stack with
  | nil => exact ⟨_, rfl, Node.unreadable_broken b⟩
  | cons f fs =>
      cases f with
      | list s items => exact ⟨_, rfl, unreadable_abandon b (Node.unreadable_list_broken b) fs⟩
      | object s ms => exact ⟨_, rfl, unreadable_abandon b (Node.unreadable_object_broken b) fs⟩
      | member s ms name =>
          exact ⟨_, rfl, unreadable_abandon b (Node.unreadable_object_broken b) fs⟩

/-- A text that ends within a value leaves nothing that can be read. -/
theorem broken_finish (due : Due) (stack : List Frame) (length : Nat) :
    (finish (.within due stack) length).Broken := by
  cases due with
  | value | item => exact broken_breakValue (Node.unreadable_broken _) _ stack
  | firstItem | itemEnd | firstName | memberEnd | name | colon =>
      exact broken_breakFrame length _ _

end State

/-! ## What a token can do -/

/-- The frame waits for a value. -/
def Frame.Waits : Frame → Prop
  | .list _ _ | .member _ _ _ => True
  | .object _ _ => False

/-- Within an array. -/
def Due.InList : Due → Prop
  | .firstItem | .item | .itemEnd => True
  | _ => False

/-- Within an object. -/
def Due.InObject : Due → Prop
  | .firstName _ | .name _ | .colon _ _ _ _ | .memberEnd => True
  | _ => False

/-- The frames fit what the text calls for next. -/
inductive Fits : Due → List Frame → Prop
  | value {fs : List Frame} (waits : ∀ f ∈ fs, f.Waits) : Fits .value fs
  | list {due : Due} {s : Nat} {items : List Node} {fs : List Frame} (hdue : due.InList)
      (waits : ∀ f ∈ fs, f.Waits) : Fits due (.list s items :: fs)
  | object {due : Due} {s : Nat} {ms : List (Name × Node)} {fs : List Frame} (hdue : due.InObject)
      (waits : ∀ f ∈ fs, f.Waits) : Fits due (.object s ms :: fs)

namespace State

/-- The ways in which a token goes on. -/
inductive Goes (start stop : Nat) : Due → List Frame → Token → State → Prop
  | leaf {due : Due} {fs : List Frame} {content : Leaf} (hdue : due.TakesValue) :
      Goes start stop due fs (.leaf content) (deliver (.leaf start stop content) fs)
  | listOpen {due : Due} {fs : List Frame} (hdue : due.TakesValue) :
      Goes start stop due fs .listOpen (.within .firstItem (.list start [] :: fs))
  | objectOpen {due : Due} {fs : List Frame} (hdue : due.TakesValue) :
      Goes start stop due fs .objectOpen (.within (.firstName start) (.object start [] :: fs))
  | listClose {due : Due} {s : Nat} {items : List Node} {fs : List Frame}
      (hdue : due = .firstItem ∨ due = .itemEnd) :
      Goes start stop due (.list s items :: fs) .listClose
        (deliver (.list s items.reverse (.closed stop)) fs)
  | objectClose {due : Due} {s : Nat} {ms : List (Name × Node)} {fs : List Frame}
      (hdue : (∃ before, due = .firstName before) ∨ due = .memberEnd) :
      Goes start stop due (.object s ms :: fs) .objectClose
        (deliver (.object s ms.reverse (.closed stop)) fs)
  | item {fs : List Frame} : Goes start stop .itemEnd fs .comma (.within .item fs)
  | member {fs : List Frame} : Goes start stop .memberEnd fs .comma (.within (.name start) fs)
  | name {due : Due} {before : Nat} {fs : List Frame} {text : Except Fault String}
      (hdue : due = .firstName before ∨ due = .name before) :
      Goes start stop due fs (.leaf (.string text)) (.within (.colon before start text stop) fs)
  | colon {before begun ended s : Nat} {text : Except Fault String} {ms : List (Name × Node)}
      {fs : List Frame} :
      Goes start stop (.colon before begun text ended) (.object s ms :: fs) .colon
        (.within .value (.member s ms ⟨before, begun, text, ended, start⟩ :: fs))

section

variable {start stop : Nat} {due : Due} {fs : List Frame} {t : Token} {s : State}

theorem Goes.step_eq (h : Goes start stop due fs t s) : step (.within due fs) start stop t = s := by
  cases h with
  | leaf hdue => exact step_of_takesValue hdue (fun h => by cases h) start stop fs
  | listOpen hdue => exact step_of_takesValue hdue (fun h => by cases h) start stop fs
  | objectOpen hdue => exact step_of_takesValue hdue (fun h => by cases h) start stop fs
  | listClose hdue => rcases hdue with rfl | rfl <;> rfl
  | objectClose hdue => rcases hdue with ⟨before, rfl⟩ | rfl <;> rfl
  | item => rfl
  | member => rfl
  | name hdue => rcases hdue with rfl | rfl <;> rfl
  | colon => rfl

/-- Where a value is due, a token goes on or breaks off. -/
theorem goes_of_takesValue (hdue : due.TakesValue) (ht : t ≠ .listClose) :
    Goes start stop due fs t (step (.within due fs) start stop t) ∨
      (step (.within due fs) start stop t).Broken := by
  rw [step_of_takesValue hdue ht]
  cases t with
  | leaf content => exact .inl (.leaf hdue)
  | listOpen => exact .inl (.listOpen hdue)
  | objectOpen => exact .inl (.objectOpen hdue)
  | brokenScalar b => exact .inr (broken_breakValue (Node.unreadable_stub b) b fs)
  | brokenString b => exact .inr (broken_breakValue (Node.unreadable_broken b) b fs)
  | listClose | objectClose | comma | colon | stray =>
      exact .inr (broken_breakValue (Node.unreadable_broken _) _ fs)

/-- A token goes on in one of the ways, or leaves nothing that can be read. -/
theorem goes_or_breaks (h : Fits due fs) (start stop : Nat) (t : Token) :
    Goes start stop due fs t (step (.within due fs) start stop t) ∨
      (step (.within due fs) start stop t).Broken := by
  cases h with
  | value =>
      by_cases ht : t = .listClose
      · subst ht
        exact .inr (broken_breakValue (Node.unreadable_broken _) _ fs)
      · exact goes_of_takesValue trivial ht
  | @list _ s items fs hdue =>
      cases due with
      | firstItem =>
          by_cases ht : t = .listClose
          · subst ht
            exact .inl (.listClose (.inl rfl))
          · exact goes_of_takesValue trivial ht
      | item =>
          by_cases ht : t = .listClose
          · subst ht
            exact .inr (broken_breakFrame start _ (.list s items :: fs))
          · exact goes_of_takesValue trivial ht
      | itemEnd =>
          cases t with
          | comma => exact .inl .item
          | listClose => exact .inl (.listClose (.inr rfl))
          | _ => exact .inr (broken_breakFrame start _ (.list s items :: fs))
      | _ => cases hdue
  | @object _ s ms fs hdue =>
      cases due with
      | firstName before =>
          cases t with
          | objectClose => exact .inl (.objectClose (.inl ⟨before, rfl⟩))
          | leaf content =>
              cases content with
              | string text => exact .inl (.name (.inl rfl))
              | _ => exact .inr (broken_breakFrame start _ (.object s ms :: fs))
          | _ => exact .inr (broken_breakFrame start _ (.object s ms :: fs))
      | name before =>
          cases t with
          | leaf content =>
              cases content with
              | string text => exact .inl (.name (.inr rfl))
              | _ => exact .inr (broken_breakFrame start _ (.object s ms :: fs))
          | _ => exact .inr (broken_breakFrame start _ (.object s ms :: fs))
      | colon before begun text ended =>
          cases t with
          | colon => exact .inl .colon
          | _ => exact .inr (broken_breakFrame start _ (.member s ms _ :: fs))
      | memberEnd =>
          cases t with
          | comma => exact .inl .member
          | objectClose => exact .inl (.objectClose (.inr rfl))
          | _ => exact .inr (broken_breakFrame start _ (.object s ms :: fs))
      | _ => cases hdue

end

/-! ## What is spoiled stays so -/

end State

/-- Something that an open container has taken in cannot be read. -/
def Frame.Spoiled : Frame → Prop
  | .list _ items => ∃ n ∈ items, n.Unreadable
  | .object _ ms => ∃ m ∈ ms, SpoiledMember m
  | .member _ ms name => (∃ m ∈ ms, SpoiledMember m) ∨ ∀ s, name.text ≠ .ok s

/-- A name that is waiting for its colon cannot be read. -/
def Due.Spoiled : Due → Prop
  | .colon _ _ text _ => ∀ s, text ≠ .ok s
  | _ => False

theorem Fits.waits_of_takesValue {due : Due} {fs : List Frame} (h : Fits due fs)
    (hdue : due.TakesValue) : ∀ f ∈ fs, f.Waits := by
  cases h with
  | value waits => exact waits
  | list _ waits => exact List.forall_mem_cons.mpr ⟨trivial, waits⟩
  | object hobject =>
      cases due with
      | value | firstItem | item | itemEnd => cases hobject
      | firstName | name | colon | memberEnd => cases hdue

theorem Fits.waits_tail {due : Due} {f : Frame} {fs : List Frame} (h : Fits due (f :: fs)) :
    ∀ g ∈ fs, g.Waits := by
  cases h with
  | value waits => exact (List.forall_mem_cons.mp waits).2
  | list _ waits => exact waits
  | object _ waits => exact waits

namespace State

/-- The frames fit what is due. -/
def Proper : State → Prop
  | .within due fs => Fits due fs
  | .done _ _ => True

/-- Something was taken in that no reader can read, or the value is not all. -/
def Spoiled : State → Prop
  | .within due fs => due.Spoiled ∨ ∃ f ∈ fs, f.Spoiled
  | .done root trailing => root.Unreadable ∨ trailing ≠ none

section

variable {start stop : Nat} {due : Due} {fs : List Frame} {t : Token} {s : State} {n : Node}

theorem proper_deliver (n : Node) (hfs : ∀ f ∈ fs, f.Waits) : (deliver n fs).Proper := by
  cases fs with
  | nil => trivial
  | cons f fs =>
      obtain ⟨hf, htail⟩ := List.forall_mem_cons.mp hfs
      cases f with
      | list => exact .list trivial htail
      | member => exact .object trivial htail
      | object => cases hf

theorem spoiled_deliver (hfs : ∀ f ∈ fs, f.Waits) (h : n.Unreadable ∨ ∃ f ∈ fs, f.Spoiled) :
    (deliver n fs).Spoiled := by
  cases fs with
  | nil =>
      rcases h with hn | ⟨f, hf, -⟩
      · exact .inl hn
      · cases hf
  | cons f fs =>
      obtain ⟨hf, -⟩ := List.forall_mem_cons.mp hfs
      simp only [List.exists_mem_cons_iff] at h
      cases f with
      | list s items =>
          refine .inr ((List.exists_mem_cons_iff _ _ _).mpr ?_)
          rcases h with hn | ⟨m, hm, hspoiled⟩ | htail
          · exact .inl ⟨n, List.mem_cons_self, hn⟩
          · exact .inl ⟨m, List.mem_cons_of_mem n hm, hspoiled⟩
          · exact .inr htail
      | member s ms name =>
          refine .inr ((List.exists_mem_cons_iff _ _ _).mpr ?_)
          rcases h with hn | (⟨m, hm, hspoiled⟩ | hname) | htail
          · exact .inl ⟨(name, n), List.mem_cons_self, .inr hn⟩
          · exact .inl ⟨m, List.mem_cons_of_mem _ hm, hspoiled⟩
          · exact .inl ⟨(name, n), List.mem_cons_self, .inl hname⟩
          · exact .inr htail
      | object => cases hf

theorem Goes.proper (h : Goes start stop due fs t s) (hfits : Fits due fs) : s.Proper := by
  cases h with
  | leaf hdue => exact proper_deliver _ (hfits.waits_of_takesValue hdue)
  | listOpen hdue => exact .list trivial (hfits.waits_of_takesValue hdue)
  | objectOpen hdue => exact .object trivial (hfits.waits_of_takesValue hdue)
  | listClose => exact proper_deliver _ hfits.waits_tail
  | objectClose => exact proper_deliver _ hfits.waits_tail
  | item =>
      cases hfits with
      | list _ waits => exact .list trivial waits
      | object hdue => cases hdue
  | member =>
      cases hfits with
      | object _ waits => exact .object trivial waits
      | list hdue => cases hdue
  | name hdue =>
      cases hfits with
      | object _ waits => exact .object trivial waits
      | value => rcases hdue with h | h <;> cases h
      | list hlist => rcases hdue with rfl | rfl <;> cases hlist
  | colon => exact .value (List.forall_mem_cons.mpr ⟨trivial, hfits.waits_tail⟩)

/-- A token that goes on drops nothing. -/
theorem Goes.spoiled (h : Goes start stop due fs t s) (hfits : Fits due fs)
    (hspoiled : (within due fs).Spoiled) : s.Spoiled := by
  -- only a name can spoil what is due
  have hframe : (∀ before begun text ended, due ≠ .colon before begun text ended) →
      ∃ f ∈ fs, f.Spoiled := by
    intro hcolon
    rcases hspoiled with hdue | hfs
    · cases due <;> first | exact absurd rfl (hcolon _ _ _ _) | cases hdue
    · exact hfs
  cases h with
  | leaf hdue =>
      have hfs := hframe fun _ _ _ _ hcolon => by subst hcolon; cases hdue
      exact spoiled_deliver (hfits.waits_of_takesValue hdue) (.inr hfs)
  | listOpen hdue | objectOpen hdue =>
      have hfs := hframe fun _ _ _ _ hcolon => by subst hcolon; cases hdue
      exact .inr ((List.exists_mem_cons_iff _ _ _).mpr (.inr hfs))
  | @listClose _ s items fs hdue =>
      have hfs := hframe fun _ _ _ _ hcolon => by subst hcolon; rcases hdue with h | h <;> cases h
      refine spoiled_deliver hfits.waits_tail ?_
      rcases (List.exists_mem_cons_iff _ _ _).mp hfs with ⟨n, hn, hspoiled⟩ | htail
      · exact .inl (Node.unreadable_list ⟨n, List.mem_reverse.mpr hn, hspoiled⟩)
      · exact .inr htail
  | @objectClose _ s ms fs hdue =>
      have hfs := hframe fun _ _ _ _ hcolon => by
        subst hcolon
        rcases hdue with ⟨before, h⟩ | h <;> cases h
      refine spoiled_deliver hfits.waits_tail ?_
      rcases (List.exists_mem_cons_iff _ _ _).mp hfs with ⟨m, hm, hspoiled⟩ | htail
      · exact .inl (Node.unreadable_object ⟨m, List.mem_reverse.mpr hm, hspoiled⟩)
      · exact .inr htail
  | item | member => exact .inr (hframe fun _ _ _ _ h => by cases h)
  | name hdue =>
      have hfs := hframe fun _ _ _ _ hcolon => by subst hcolon; rcases hdue with h | h <;> cases h
      exact .inr hfs
  | colon =>
      refine .inr ((List.exists_mem_cons_iff _ _ _).mpr ?_)
      rcases hspoiled with htext | hfs
      · exact .inl (.inr htext)
      · rcases (List.exists_mem_cons_iff _ _ _).mp hfs with hobject | htail
        · exact .inl (.inl hobject)
        · exact .inr htail

/-- A token with a fault spoils what takes it in. -/
theorem Goes.spoiled_of_not_sound (h : Goes start stop due fs t s) (hfits : Fits due fs)
    (ht : ¬ t.Sound) : s.Spoiled := by
  cases h with
  | leaf hdue =>
      refine spoiled_deliver (hfits.waits_of_takesValue hdue) (.inl ?_)
      intro limit v hread
      rw [Node.read] at hread
      exact ht ⟨v, hread⟩
  | name =>
      refine .inl fun k hk => ht ⟨.string k, ?_⟩
      rw [Leaf.read, hk]
      rfl
  | listOpen | objectOpen | listClose | objectClose | item | member | colon => exact absurd trivial ht

theorem Broken.spoiled (h : s.Broken) : s.Spoiled := by
  obtain ⟨root, rfl, hroot⟩ := h
  exact .inl hroot

theorem Proper.step (hs : s.Proper) (start stop : Nat) (t : Token) : (s.step start stop t).Proper := by
  cases s with
  | done root trailing => trivial
  | within due fs =>
      rcases goes_or_breaks hs start stop t with hgoes | ⟨root, hstep, -⟩
      · exact hgoes.proper hs
      · rw [hstep]
        trivial

theorem Spoiled.step (h : s.Spoiled) (hs : s.Proper) (start stop : Nat) (t : Token) :
    (s.step start stop t).Spoiled := by
  cases s with
  | done root trailing =>
      rcases h with hroot | htrailing
      · exact .inl hroot
      · refine .inr ?_
        cases trailing with
        | none => exact absurd rfl htrailing
        | some o => simp
  | within due fs =>
      rcases goes_or_breaks hs start stop t with hgoes | hbroken
      · exact hgoes.spoiled hs h
      · exact hbroken.spoiled

/-- What is spoiled stays so. -/
theorem Spoiled.feed (h : s.Spoiled) (hs : s.Proper) (bytes : Bytes) (skip offset : Nat) :
    (s.feed skip offset bytes).Spoiled := by
  induction bytes generalizing s skip offset with
  | nil => exact h
  | cons b rest ih =>
      cases skip with
      | succ skip => exact ih h hs skip (offset + 1)
      | zero =>
          rw [State.feed]
          split
          · exact ih h hs 0 (offset + 1)
          · exact ih (h.step hs _ _ _) (hs.step _ _ _) _ (offset + 1)

end

end State

end SbomGate.Json
