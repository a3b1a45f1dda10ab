import SbomGate.Json.Reader
import SbomGate.Proofs.Canonical
import SbomGate.Proofs.PlainReading
/-!
# SbomGate.Proofs.Scalars

**What holds of every scalar of a tree**, from the tokens of a text to the
value that is read.

A step of the builder only moves nodes about, so a property of scalars that
every token has is one of the tree (`step_all`, `feed_all`). The property used
here is that whole numbers fit 64 bits, which makes every value that is read
canonical.
-/

namespace SbomGate.Json

section

variable (P : Leaf → Prop)

mutual

/-- Every scalar of a node has the property. -/
def Node.All : Node → Prop
  | .leaf _ _ content => P content
  | .list _ items _ => Node.AllItems items
  | .object _ members _ => Node.AllMembers members
  | .stub _ _ | .broken _ _ => True

/-- `Node.All` on items. -/
def Node.AllItems : List Node → Prop
  | [] => True
  | n :: ns => Node.All n ∧ Node.AllItems ns

/-- `Node.All` on member values. -/
def Node.AllMembers : List (Name × Node) → Prop
  | [] => True
  | (_, n) :: ms => Node.All n ∧ Node.AllMembers ms

end

/-- Every scalar of an open array or object has the property. -/
def Frame.All : Frame → Prop
  | .list _ items => Node.AllItems P items
  | .object _ members | .member _ members _ => Node.AllMembers P members

/-- Every scalar read so far has the property. -/
def State.All : State → Prop
  | .within _ stack => ∀ f ∈ stack, f.All P
  | .done root _ => root.All P

/-- A scalar token has the property. -/
def Token.All : Token → Prop
  | .leaf content => P content
  | _ => True

end

namespace Node

variable {P : Leaf → Prop}

theorem allItems_iff {ns : List Node} : AllItems P ns ↔ ∀ n ∈ ns, n.All P := by
  induction ns with
  | nil => simp [AllItems]
  | cons n ns ih => rw [AllItems, ih, List.forall_mem_cons]

theorem allMembers_iff {ms : List (Name × Node)} : AllMembers P ms ↔ ∀ m ∈ ms, m.2.All P := by
  induction ms with
  | nil => simp [AllMembers]
  | cons m ms ih => rw [AllMembers, ih, List.forall_mem_cons]

theorem AllItems.reverse {ns : List Node} (h : AllItems P ns) : AllItems P ns.reverse :=
  allItems_iff.mpr fun n hn => allItems_iff.mp h n (List.mem_reverse.mp hn)

theorem AllMembers.reverse {ms : List (Name × Node)} (h : AllMembers P ms) :
    AllMembers P ms.reverse :=
  allMembers_iff.mpr fun m hm => allMembers_iff.mp h m (List.mem_reverse.mp hm)

end Node

/-! ### Steps -/

namespace State

open Node

variable {P : Leaf → Prop} {stack : List Frame}

theorem deliver_all {n : Node} (hn : n.All P) (h : ∀ f ∈ stack, f.All P) :
    (deliver n stack).All P := by
  cases stack with
  | nil => exact hn
  | cons f fs =>
      obtain ⟨hf, hfs⟩ := List.forall_mem_cons.mp h
      cases f with
      | list start items => exact List.forall_mem_cons.mpr ⟨⟨hn, hf⟩, hfs⟩
      | object start ms => exact List.forall_mem_cons.mpr ⟨hf, hfs⟩
      | member start ms name => exact List.forall_mem_cons.mpr ⟨⟨hn, hf⟩, hfs⟩

theorem abandon_all {b : Break} {n : Node} (hn : n.All P) (h : ∀ f ∈ stack, f.All P) :
    (abandon b n stack).All P := by
  induction stack generalizing n with
  | nil => exact hn
  | cons f fs ih =>
      obtain ⟨hf, hfs⟩ := List.forall_mem_cons.mp h
      cases f with
      | list start items =>
          have hitems : AllItems P (n :: items) := ⟨hn, hf⟩
          exact ih (n := .list _ _ _) hitems.reverse hfs
      | member start ms name =>
          have hmembers : AllMembers P ((name, n) :: ms) := ⟨hn, hf⟩
          exact ih (n := .object _ _ _) hmembers.reverse hfs
      | object start ms => exact ih (n := .object _ _ _) (AllMembers.reverse hf) hfs

theorem breakFrame_all {start : Nat} {b : Break} (h : ∀ f ∈ stack, f.All P) :
    (breakFrame start b stack).All P := by
  cases stack with
  | nil => exact trivial
  | cons f fs =>
      obtain ⟨hf, hfs⟩ := List.forall_mem_cons.mp h
      cases f with
      | list s items => exact abandon_all (n := .list _ _ _) (AllItems.reverse hf) hfs
      | object s ms => exact abandon_all (n := .object _ _ _) (AllMembers.reverse hf) hfs
      | member s ms name =>
          have hmembers : AllMembers P ((name, .broken start b) :: ms) := ⟨trivial, hf⟩
          exact abandon_all (n := .object _ _ _) hmembers.reverse hfs

theorem close_all {stop : Nat} (h : ∀ f ∈ stack, f.All P) : (close stop stack).All P := by
  cases stack with
  | nil => exact h
  | cons f fs =>
      obtain ⟨hf, hfs⟩ := List.forall_mem_cons.mp h
      cases f with
      | list s items => exact deliver_all (n := .list _ _ _) (AllItems.reverse hf) hfs
      | object s ms => exact deliver_all (n := .object _ _ _) (AllMembers.reverse hf) hfs
      | member s ms name => exact deliver_all (n := .object _ _ _) (AllMembers.reverse hf) hfs

theorem named_all {name : Name} (h : ∀ f ∈ stack, f.All P) : ∀ f ∈ named name stack, f.All P := by
  cases stack with
  | nil => exact h
  | cons f fs =>
      obtain ⟨hf, hfs⟩ := List.forall_mem_cons.mp h
      cases f with
      | list s items => exact h
      | object s ms => exact List.forall_mem_cons.mpr ⟨hf, hfs⟩
      | member s ms name' => exact h

theorem onValue_all {start stop : Nat} {t : Token} (ht : t.All P) (h : ∀ f ∈ stack, f.All P) :
    (onValue start stop t stack).All P := by
  cases t with
  | leaf content => exact deliver_all ht h
  | listOpen => exact List.forall_mem_cons.mpr ⟨trivial, h⟩
  | objectOpen => exact List.forall_mem_cons.mpr ⟨trivial, h⟩
  | _ => exact abandon_all trivial h

theorem onFirstName_all {before start stop : Nat} {t : Token} (h : ∀ f ∈ stack, f.All P) :
    (onFirstName before start stop t stack).All P := by
  unfold onFirstName
  split
  · exact h
  · exact breakFrame_all h
  · exact breakFrame_all h

theorem onName_all {before start stop : Nat} {t : Token} (h : ∀ f ∈ stack, f.All P) :
    (onName before start stop t stack).All P := by
  unfold onName
  dsimp only
  split
  · exact h
  · exact breakFrame_all h
  · exact breakFrame_all h

/-- A step keeps the property if the token has it. -/
theorem step_all {s : State} {start stop : Nat} {t : Token} (hs : s.All P) (ht : t.All P) :
    (s.step start stop t).All P := by
  cases s with
  | done root trailing => exact hs
  | within due stack =>
      cases due with
      | value => exact onValue_all ht hs
      | firstItem =>
          simp only [step]
          split
          · exact close_all hs
          · exact onValue_all ht hs
      | item =>
          simp only [step]
          split
          · exact breakFrame_all hs
          · exact onValue_all ht hs
      | itemEnd =>
          simp only [step]
          split
          · exact hs
          · exact close_all hs
          · exact breakFrame_all hs
      | firstName before =>
          simp only [step]
          split
          · exact close_all hs
          · exact onFirstName_all hs
      | name before =>
          simp only [step]
          split
          · exact breakFrame_all hs
          · exact onName_all hs
      | colon before nameStart text nameStop =>
          simp only [step]
          split
          · exact named_all hs
          · exact breakFrame_all (named_all hs)
      | memberEnd =>
          simp only [step]
          split
          · exact hs
          · exact close_all hs
          · exact breakFrame_all hs

/-- A property of all tokens is one of everything that is read. -/
theorem feed_all (htoken : ∀ offset b rest, (tokenAt offset b rest).1.All P) :
    ∀ {bytes : Bytes} {s : State} {skip offset : Nat}, s.All P → (feed s skip offset bytes).All P
  | [], s, skip, offset, hs => by
      rw [feed]
      exact hs
  -- bytes of the token before are skipped one by one
  | b :: rest, s, skip + 1, offset, hs => by
      rw [feed]
      exact feed_all htoken hs
  | b :: rest, s, 0, offset, hs => by
      rw [feed]
      split
      · exact feed_all htoken hs
      · exact feed_all htoken (step_all hs (htoken offset b rest))

theorem finish_all {s : State} {length : Nat} (hs : s.All P) : (s.finish length).All P := by
  cases s with
  | done root trailing => exact hs
  | within due stack =>
      cases due with
      | value | item => exact abandon_all trivial hs
      | firstItem | itemEnd | firstName | memberEnd | name => exact breakFrame_all hs
      | colon => exact breakFrame_all (named_all hs)

end State

/-! ### Numbers -/

/-- A number fits 64 bits, if it is a whole one and can be read at all. -/
def Leaf.InRange : Leaf → Prop
  | .number (.ok n) => n.InRange
  | _ => True

/-- A number that is read from its parts fits. -/
theorem NumberText.value_inRange {t : NumberText} {stop : Nat} {n : Number}
    (h : t.value stop = .ok n) : n.InRange := by
  have hsize : UInt64.size = 0x10000000000000000 := rfl
  unfold NumberText.value at h
  dsimp only at h
  split at h
  · next hpositive =>
      obtain rfl := Except.ok.inj h
      simp only [Bool.and_eq_true, decide_eq_true_eq] at hpositive
      exact ⟨by omega, by omega⟩
  split at h
  · next hnegative =>
      obtain rfl := Except.ok.inj h
      simp only [Bool.and_eq_true, decide_eq_true_eq] at hnegative
      exact ⟨by omega, by omega⟩
  split at h
  · split at h
    · obtain rfl := Except.ok.inj h
      exact trivial
    · cases h
  · split at h
    · obtain rfl := Except.ok.inj h
      exact trivial
    · cases h

theorem numberToken_inRange (offset : Nat) (bytes : Bytes) :
    (numberToken offset bytes).1.All Leaf.InRange := by
  unfold numberToken
  split
  · next t stop _ =>
      cases hn : t.value stop with
      | ok n => exact NumberText.value_inRange hn
      | error f => exact trivial
  · exact trivial

theorem wordToken_inRange {content : Leaf} (hcontent : content.InRange) (word : String)
    (offset : Nat) (bytes : Bytes) : (wordToken content word offset bytes).1.All Leaf.InRange := by
  unfold wordToken
  split
  · exact hcontent
  · exact trivial

theorem stringToken_inRange (offset : Nat) (bytes : Bytes) :
    (stringToken offset bytes).1.All Leaf.InRange := by
  unfold stringToken
  split
  · exact trivial
  · split <;> exact trivial

theorem tokenAt_inRange (offset : Nat) (b : UInt8) (rest : Bytes) :
    (tokenAt offset b rest).1.All Leaf.InRange := by
  -- one choice after the other: splitting all of them at once is slow
  have hchoice : ∀ {c : Prop} [Decidable c] {x y : Token × Nat}, x.1.All Leaf.InRange →
      y.1.All Leaf.InRange → (if c then x else y).1.All Leaf.InRange := by
    intro c _ x y hx hy
    split
    · exact hx
    · exact hy
  have hword : ∀ {content : Leaf} {word : String}, content.InRange →
      (wordToken content word (offset + 1) rest).1.All Leaf.InRange :=
    fun hcontent => wordToken_inRange hcontent _ _ _
  unfold tokenAt
  refine hchoice trivial (hchoice trivial (hchoice trivial (hchoice trivial (hchoice trivial
    (hchoice trivial (hchoice (stringToken_inRange _ _) (hchoice (hword ?_) (hchoice (hword ?_)
      (hchoice (hword ?_) (hchoice (numberToken_inRange _ _) trivial))))))))))
  · exact trivial
  · exact trivial
  · exact trivial

/-! ### Values -/

mutual

/-- What is read of a tree whose numbers fit has numbers that fit. -/
theorem read_inRange {limit : Nat} : ∀ {n : Node} {v : Value}, n.All Leaf.InRange →
    n.read limit = .ok v → v.InRange
  | .leaf start stop content, v, h, hv => by
      rw [Node.All] at h
      rw [Node.read] at hv
      cases content with
      | null => obtain rfl := Except.ok.inj hv; trivial
      | bool b => obtain rfl := Except.ok.inj hv; trivial
      | string s =>
          obtain ⟨text, -, rfl⟩ := map_eq_ok_iff.mp hv
          trivial
      | number r =>
          obtain ⟨n, rfl, rfl⟩ := map_eq_ok_iff.mp hv
          exact h
  | .list start items close, v, h, hv => by
      rw [Node.All] at h
      obtain ⟨vs, -, rfl, -, -, hvs⟩ := Node.read_list_iff.mp hv
      exact readItems_inRange h hvs
  | .object start members close, v, h, hv => by
      rw [Node.All] at h
      obtain ⟨ms, -, rfl, -, -, hms⟩ := Node.read_object_iff.mp hv
      exact readMembers_inRange h hms
  | .stub start b, v, _, hv => by
      rw [Node.read] at hv
      cases hv
  | .broken start b, v, _, hv => by
      rw [Node.read] at hv
      cases hv

theorem readItems_inRange {limit : Nat} : ∀ {ns : List Node} {vs : List Value},
    Node.AllItems Leaf.InRange ns → Node.readItems limit ns = .ok vs → Value.InRangeItems vs
  | [], vs, _, hvs => by
      rw [Node.readItems] at hvs
      obtain rfl := Except.ok.inj hvs
      trivial
  | n :: ns, vs, h, hvs => by
      rw [Node.AllItems] at h
      obtain ⟨v, rest, rfl, hv, hrest⟩ := Node.readItems_cons_iff.mp hvs
      exact ⟨read_inRange h.1 hv, readItems_inRange h.2 hrest⟩

theorem readMembers_inRange {limit : Nat} : ∀ {ns : List (Name × Node)}
    {ms : List (String × Value)}, Node.AllMembers Leaf.InRange ns →
    Node.readMembers limit ns = .ok ms → Value.InRangeMembers ms
  | [], ms, _, hms => by
      rw [Node.readMembers] at hms
      obtain rfl := Except.ok.inj hms
      trivial
  | (k, n) :: ns, ms, h, hms => by
      rw [Node.AllMembers] at h
      obtain ⟨name, v, rest, rfl, -, hv, hrest⟩ := Node.readMembers_cons_iff.mp hms
      exact ⟨read_inRange h.1 hv, readMembers_inRange h.2 hrest⟩

end

theorem Document.root_inRange (text : Bytes) :
    (Document.ofBytes text).root.All Leaf.InRange := by
  -- nothing is open at first
  have hinitial : State.initial.All Leaf.InRange := fun _ hf => by cases hf
  have hfeed : (State.initial.feed 0 0 text).All Leaf.InRange :=
    State.feed_all tokenAt_inRange hinitial
  have hfinish : ((State.initial.feed 0 0 text).finish text.length).All Leaf.InRange :=
    State.finish_all hfeed
  unfold Document.ofBytes
  split
  · next root trailing h =>
      rw [h] at hfinish
      exact hfinish
  · exact trivial

/-- **A value that is read from a text is canonical.** -/
theorem ofBytes_canonical {text : Bytes} {v : Value} (h : Value.ofBytes text = .ok v) :
    v.Canonical := by
  unfold Value.ofBytes Document.value Document.finish at h
  split at h
  · cases h
  · next a ha =>
      split at h
      · cases h
      · obtain rfl := Except.ok.inj h
        obtain ⟨w, hw, rfl⟩ := map_eq_ok_iff.mp ha
        exact (read_inRange (Document.root_inRange text) hw).canonical

end SbomGate.Json
