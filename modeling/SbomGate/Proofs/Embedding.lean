import SbomGate.Proofs.Breakage
/-!
# SbomGate.Proofs.Embedding

**A readable text reads the same inside another one.** Where a value is due, however much
is open around it, a text that can be read alone is taken for one value, which reads as
the value that the text has alone.

Proof shape: two runs side by side, one over the text alone and one in its surroundings,
with the frames of the surroundings at the bottom of the stack. They agree
(`State.Alongside`) as long as nothing is spoiled: a sound token is the same token on both
sides, and goes on in the same way (`State.Goes.alongside`). `State.feed_alongside` is the
induction over the bytes, and `feed_of_written` what it comes to for a text that can be
read.
-/

namespace SbomGate.Json

/-! ## Two runs side by side -/

/-- What a reader makes of one node, it makes of the other. -/
def Node.Matches (n n' : Node) : Prop := ∀ limit v, n.read limit = .ok v → n'.read limit = .ok v

/-- If the first text of a name can be read, the second is the same. -/
def TextMatches (text text' : Except Fault String) : Prop := ∀ k, text = .ok k → text' = .ok k

/-- Two members match if their names and their nodes do. -/
def MemberMatches (m m' : Name × Node) : Prop :=
  TextMatches m.1.text m'.1.text ∧ m.2.Matches m'.2

/-- Two open containers of one kind whose parts match, wherever in the text they start. -/
inductive Frame.Matches : Frame → Frame → Prop
  | list {s s' : Nat} {items items' : List Node} (hitems : List.Forall₂ Node.Matches items items') :
      Matches (.list s items) (.list s' items')
  | object {s s' : Nat} {ms ms' : List (Name × Node)} (hms : List.Forall₂ MemberMatches ms ms') :
      Matches (.object s ms) (.object s' ms')
  | member {s s' : Nat} {ms ms' : List (Name × Node)} {name name' : Name}
      (hms : List.Forall₂ MemberMatches ms ms') (hname : TextMatches name.text name'.text) :
      Matches (.member s ms name) (.member s' ms' name')

/-- The same is due on both sides; only offsets may differ, and a name matches. -/
inductive Due.Matches : Due → Due → Prop
  | value : Matches .value .value
  | firstItem : Matches .firstItem .firstItem
  | item : Matches .item .item
  | itemEnd : Matches .itemEnd .itemEnd
  | firstName (before before' : Nat) : Matches (.firstName before) (.firstName before')
  | name (before before' : Nat) : Matches (.name before) (.name before')
  | colon (before before' begun begun' ended ended' : Nat) {text text' : Except Fault String}
      (htext : TextMatches text text') :
      Matches (.colon before begun text ended) (.colon before' begun' text' ended')
  | memberEnd : Matches .memberEnd .memberEnd

theorem Due.Matches.takesValue {due due' : Due} (h : due.Matches due') (hdue : due.TakesValue) :
    due'.TakesValue := by
  cases h with
  | value | firstItem | item => trivial
  | itemEnd | firstName | name | colon | memberEnd => cases hdue

theorem readItems_matches {ns ns' : List Node} (h : List.Forall₂ Node.Matches ns ns') {limit : Nat}
    {vs : List Value} (hread : Node.readItems limit ns = .ok vs) :
    Node.readItems limit ns' = .ok vs := by
  induction h generalizing vs with
  | nil => exact hread
  | cons hn _ ih =>
      obtain ⟨v, vs', rfl, hv, hvs⟩ := Node.readItems_cons_iff.mp hread
      exact Node.readItems_cons_iff.mpr ⟨v, vs', rfl, hn limit v hv, ih hvs⟩

theorem readMembers_matches {ms ms' : List (Name × Node)} (h : List.Forall₂ MemberMatches ms ms')
    {limit : Nat} {vs : List (String × Value)} (hread : Node.readMembers limit ms = .ok vs) :
    Node.readMembers limit ms' = .ok vs := by
  induction h generalizing vs with
  | nil => exact hread
  | @cons m m' _ _ hm _ ih =>
      obtain ⟨name, n⟩ := m
      obtain ⟨name', n'⟩ := m'
      obtain ⟨k, v, vs', rfl, hk, hv, hvs⟩ := Node.readMembers_cons_iff.mp hread
      exact Node.readMembers_cons_iff.mpr ⟨k, v, vs', rfl, hm.1 k hk, hm.2 limit v hv, ih hvs⟩

theorem Node.matches_leaf (start stop start' stop' : Nat) (content : Leaf) :
    (Node.leaf start stop content).Matches (.leaf start' stop' content) := by
  intro limit v h
  rw [Node.read] at h ⊢
  exact h

theorem Node.matches_list {ns ns' : List Node} (h : List.Forall₂ Node.Matches ns ns')
    (start stop start' stop' : Nat) :
    (Node.list start ns (.closed stop)).Matches (.list start' ns' (.closed stop')) := by
  intro limit v hread
  obtain ⟨vs, -, rfl, -, hlimit, hvs⟩ := read_list_iff.mp hread
  exact read_list_iff.mpr ⟨vs, stop', rfl, rfl, hlimit, readItems_matches h hvs⟩

theorem Node.matches_object {ms ms' : List (Name × Node)} (h : List.Forall₂ MemberMatches ms ms')
    (start stop start' stop' : Nat) :
    (Node.object start ms (.closed stop)).Matches (.object start' ms' (.closed stop')) := by
  intro limit v hread
  obtain ⟨vs, -, rfl, -, hlimit, hvs⟩ := read_object_iff.mp hread
  exact read_object_iff.mpr ⟨vs, stop', rfl, rfl, hlimit, readMembers_matches h hvs⟩

namespace State

/-- A run over a text alone, and one in surroundings whose frames are `F`. -/
inductive Alongside (F : List Frame) : State → State → Prop
  | within {due due' : Due} {fs fs' : List Frame} (hdue : due.Matches due')
      (hfs : List.Forall₂ Frame.Matches fs fs') :
      Alongside F (.within due fs) (.within due' (fs' ++ F))
  /-- The text was all of a value. -/
  | done {n n' : Node} (hn : n.Matches n') : Alongside F (.done n none) (deliver n' F)

section

variable {F : List Frame} {start stop : Nat} {due due' : Due} {fs fs' : List Frame} {t : Token}
  {s s' : State}

theorem alongside_deliver {n n' : Node} (hn : n.Matches n')
    (hfs : List.Forall₂ Frame.Matches fs fs') :
    Alongside F (deliver n fs) (deliver n' (fs' ++ F)) := by
  cases hfs with
  | nil => exact .done hn
  | cons hf hfs =>
      cases hf with
      | list hitems => exact .within .itemEnd (.cons (.list (.cons hn hitems)) hfs)
      | object hms => exact .within .memberEnd (.cons (.object hms) hfs)
      | member hms hname =>
          exact .within .memberEnd (.cons (.object (.cons ⟨hname, hn⟩ hms)) hfs)

/-- A token goes on in the same way on both sides. -/
theorem Goes.alongside (h : Goes start stop due fs t s) (hdue : due.Matches due')
    (hfs : List.Forall₂ Frame.Matches fs fs') (start' stop' : Nat) :
    ∃ s', Goes start' stop' due' (fs' ++ F) t s' ∧ Alongside F s s' := by
  cases h with
  | leaf hvalue =>
      exact ⟨_, .leaf (hdue.takesValue hvalue),
        alongside_deliver (Node.matches_leaf _ _ _ _ _) hfs⟩
  | listOpen hvalue =>
      exact ⟨_, .listOpen (hdue.takesValue hvalue), .within .firstItem (.cons (.list .nil) hfs)⟩
  | objectOpen hvalue =>
      exact ⟨_, .objectOpen (hdue.takesValue hvalue),
        .within (.firstName _ _) (.cons (.object .nil) hfs)⟩
  | listClose hclose =>
      have hclose' : due' = .firstItem ∨ due' = .itemEnd := by
        rcases hclose with rfl | rfl <;> cases hdue <;> simp
      cases hfs with
      | cons hf hfs =>
          cases hf with
          | list hitems =>
              exact ⟨_, .listClose hclose',
                alongside_deliver (Node.matches_list (List.rel_reverse hitems) _ _ _ _) hfs⟩
  | objectClose hclose =>
      have hclose' : (∃ before, due' = .firstName before) ∨ due' = .memberEnd := by
        rcases hclose with ⟨before, rfl⟩ | rfl <;> cases hdue <;> simp
      cases hfs with
      | cons hf hfs =>
          cases hf with
          | object hms =>
              exact ⟨_, .objectClose hclose',
                alongside_deliver (Node.matches_object (List.rel_reverse hms) _ _ _ _) hfs⟩
  | item =>
      cases hdue
      exact ⟨_, .item, .within .item hfs⟩
  | member =>
      cases hdue
      exact ⟨_, .member, .within (.name _ _) hfs⟩
  | name hname =>
      rcases hname with rfl | rfl
      · cases hdue with
        | firstName _ before' =>
            exact ⟨_, .name (.inl rfl), .within (.colon _ _ _ _ _ _ fun _ h => h) hfs⟩
      · cases hdue with
        | name _ before' =>
            exact ⟨_, .name (.inr rfl), .within (.colon _ _ _ _ _ _ fun _ h => h) hfs⟩
  | colon =>
      cases hdue with
      | colon _ _ _ _ _ _ htext =>
          cases hfs with
          | cons hf hfs =>
              cases hf with
              | object hms => exact ⟨_, .colon, .within .value (.cons (.member hms htext) hfs)⟩

theorem Alongside.step (h : Alongside F s s') (hs : s.Proper) (start stop start' stop' : Nat)
    (t : Token) :
    (s.step start stop t).Spoiled ∨
      Alongside F (s.step start stop t) (s'.step start' stop' t) := by
  cases h with
  | done => exact .inl (.inr (by simp))
  | within hdue hfs =>
      rcases goes_or_breaks hs start stop t with hgoes | hbroken
      · obtain ⟨s'', hgoes', hstep⟩ := hgoes.alongside (F := F) hdue hfs start' stop'
        rw [hgoes'.step_eq]
        exact .inr hstep
      · exact .inl hbroken.spoiled

theorem spoiled_step_of_not_sound (hs : s.Proper) (ht : ¬ t.Sound) (start stop : Nat) :
    (s.step start stop t).Spoiled := by
  cases s with
  | done root trailing => exact .inr (by cases trailing <;> simp)
  | within due fs =>
      rcases goes_or_breaks hs start stop t with hgoes | hbroken
      · exact hgoes.spoiled_of_not_sound hs ht
      · exact hbroken.spoiled

/-- **Two runs side by side**: over the text alone, and over the text in front of other
bytes, with other frames open. They agree unless the text cannot be read. -/
theorem feed_alongside {extra : Bytes} (hextra : Terminated extra) (bytes : Bytes)
    (h : Alongside F s s') (hs : s.Proper) (skip offset offset' : Nat)
    (hskip : skip ≤ bytes.length) :
    (s.feed skip offset bytes).Spoiled ∨ ∃ s'', Alongside F (s.feed skip offset bytes) s'' ∧
      s'.feed skip offset' (bytes ++ extra) = s''.feed 0 (offset' + bytes.length) extra := by
  induction bytes generalizing s s' skip offset offset' with
  | nil =>
      obtain rfl : skip = 0 := Nat.le_zero.mp hskip
      exact .inr ⟨s', h, rfl⟩
  | cons b rest ih =>
      have hlength : offset' + (b :: rest).length = offset' + 1 + rest.length := by
        rw [List.length_cons]
        omega
      rw [hlength]
      cases skip with
      | succ skip =>
          exact ih h hs skip (offset + 1) (offset' + 1) (Nat.le_of_succ_le_succ hskip)
      | zero =>
          rw [List.cons_append, State.feed, State.feed]
          by_cases hblank : isBlank b = true
          · rw [if_pos hblank, if_pos hblank]
            exact ih h hs 0 (offset + 1) (offset' + 1) (Nat.zero_le _)
          rw [if_neg hblank, if_neg hblank]
          cases htoken : tokenAt offset b rest with
          | mk t stop =>
              dsimp only
              have hproper := hs.step offset stop t
              by_cases ht : t.Sound
              · -- the token is the same on both sides, and as wide
                obtain ⟨width, hwidth, happend⟩ := tokenAt_append ht htoken
                have hstop : stop = offset + 1 + width := by
                  have halone := happend offset [] (by simp [Terminated])
                  rw [List.append_nil, htoken] at halone
                  exact (Prod.mk.inj halone).2
                rw [happend offset' extra hextra, hstop,
                  show offset + 1 + width - offset - 1 = width by omega,
                  show offset' + 1 + width - offset' - 1 = width by omega]
                rw [hstop] at hproper
                rcases h.step hs offset (offset + 1 + width) offset' (offset' + 1 + width) t with
                  hspoiled | hstep
                · exact .inl (hspoiled.feed hproper rest _ _)
                · exact ih hstep hproper width (offset + 1) (offset' + 1) hwidth
              · exact .inl ((spoiled_step_of_not_sound hs ht _ _).feed hproper rest _ _)

end

end State

/-! ## A text inside another one -/

mutual

/-- What can be read at one depth stands for its value at every depth. -/
theorem Node.reads_of_read : ∀ {n : Node} {limit : Nat} {v : Value},
    n.read limit = .ok v → n.Reads v
  | .leaf start stop content, limit, v, h => by
      rw [Node.read] at h
      refine Node.reads_leaf h ?_
      cases content with
      | null | bool => cases h; rfl
      | number n =>
          obtain ⟨x, -, rfl⟩ := map_eq_ok_iff.mp h
          rfl
      | string s =>
          obtain ⟨x, -, rfl⟩ := map_eq_ok_iff.mp h
          rfl
  | .list start items close, limit, v, h => by
      obtain ⟨vs, stop, rfl, rfl, -, hvs⟩ := Node.read_list_iff.mp h
      exact (itemsRead_of_readItems hvs).list start stop
  | .object start members close, limit, v, h => by
      obtain ⟨vs, stop, rfl, rfl, -, hvs⟩ := Node.read_object_iff.mp h
      exact (membersRead_of_readMembers hvs).object start stop
  | .stub start b, limit, v, h => absurd h (Node.unreadable_stub b limit v)
  | .broken start b, limit, v, h => absurd h (Node.unreadable_broken b limit v)

theorem itemsRead_of_readItems : ∀ {ns : List Node} {limit : Nat} {vs : List Value},
    Node.readItems limit ns = .ok vs → ItemsRead ns vs
  | [], limit, vs, h => by
      rw [Node.readItems] at h
      cases h
      exact .nil
  | n :: ns, limit, vs, h => by
      obtain ⟨v, vs', rfl, hv, hvs⟩ := Node.readItems_cons_iff.mp h
      exact .cons (Node.reads_of_read hv) (itemsRead_of_readItems hvs)

theorem membersRead_of_readMembers : ∀ {ms : List (Name × Node)} {limit : Nat}
    {vs : List (String × Value)}, Node.readMembers limit ms = .ok vs → MembersRead ms vs
  | [], limit, vs, h => by
      rw [Node.readMembers] at h
      cases h
      exact .nil
  | (name, n) :: ms, limit, vs, h => by
      obtain ⟨k, v, vs', rfl, hk, hv, hvs⟩ := Node.readMembers_cons_iff.mp h
      exact .cons hk (Node.reads_of_read hv) (membersRead_of_readMembers hvs)

end

/-- The value that a text spells, with its members as they are written: in their order,
and with those that are replaced by later ones of the same name. -/
def writtenValue (text : Bytes) : Except ReadError Value :=
  (Document.ofBytes text).finish ((Document.ofBytes text).root.read depthLimit)

theorem ofBytes_eq_map_written (text : Bytes) :
    Value.ofBytes text = (writtenValue text).map Value.canonical := by
  rw [Value.ofBytes, Document.value, writtenValue]
  cases (Document.ofBytes text).root.read depthLimit with
  | error f => rfl
  | ok v =>
      simp only [Except.map, Document.finish]
      cases (Document.ofBytes text).trailing <;> rfl

open State

theorem writtenValue_eq_ok_iff {text : Bytes} {v : Value} :
    writtenValue text = .ok v ↔
      ∃ root, (State.initial.feed 0 0 text).finish text.length = .done root none ∧
        root.read depthLimit = .ok v := by
  have hfinish : ∀ (root : Node) (trailing : Option Nat),
      Document.finish ⟨text, root, trailing⟩ (root.read depthLimit) = .ok v ↔
        trailing = none ∧ root.read depthLimit = .ok v := by
    intro root trailing
    cases root.read depthLimit with
    | error f => simp [Document.finish]
    | ok w => cases trailing <;> simp [Document.finish]
  rw [writtenValue, Document.ofBytes]
  cases (State.initial.feed 0 0 text).finish text.length with
  | within due fs => simp [Document.finish, Node.read]
  | done root trailing =>
      rw [hfinish]
      constructor
      · rintro ⟨rfl, hread⟩
        exact ⟨root, rfl, hread⟩
      · rintro ⟨root', h, hread⟩
        cases h
        exact ⟨rfl, hread⟩

/-- **A readable text reads the same inside another one.** -/
theorem feed_of_written {text : Bytes} {v : Value} (h : writtenValue text = .ok v)
    (F : List Frame) {extra : Bytes} (hextra : Terminated extra) (offset : Nat) :
    ∃ n, n.Reads v ∧ feed (.within .value F) 0 offset (text ++ extra) =
      feed (deliver n F) 0 (offset + text.length) extra := by
  obtain ⟨root, hroot, hread⟩ := writtenValue_eq_ok_iff.mp h
  -- whoever ends within a value, or with something spoiled, has not read it
  have hwithin : ∀ due fs, State.initial.feed 0 0 text ≠ .within due fs := by
    intro due fs heq
    obtain ⟨broken, hbroken, hunreadable⟩ := broken_finish due fs text.length
    rw [heq, hbroken] at hroot
    cases hroot
    exact hunreadable depthLimit v hread
  have hside : Alongside F State.initial (.within .value ([] ++ F)) := .within .value .nil
  have hproper : State.initial.Proper := .value (by simp)
  rcases feed_alongside hextra text hside hproper 0 0 offset (Nat.zero_le _) with
    hspoiled | ⟨s, hs, hfeed⟩
  · exfalso
    cases hend : State.initial.feed 0 0 text with
    | within due fs => exact hwithin due fs hend
    | done n trailing =>
        rw [hend] at hroot hspoiled
        cases hroot
        rcases hspoiled with hunreadable | htrailing
        · exact hunreadable depthLimit v hread
        · exact htrailing rfl
  · cases hs' : State.initial.feed 0 0 text with
    | within due fs => exact absurd hs' (hwithin due fs)
    | done n trailing =>
        rw [hs'] at hroot hs
        cases hs with
        | @done n n' hn =>
            cases hroot
            exact ⟨n', Node.reads_of_read (hn depthLimit v hread), hfeed⟩

/-- The text of an object with one member, whose value is spelled by a text. -/
def memberText (k : String) (text : Bytes) : Bytes :=
  [0x7B] ++ (Text.Utf8.encode (renderString k) ++ ([0x3A] ++ (text ++ [0x7D])))

theorem document_memberText {text : Bytes} {v : Value} (h : writtenValue text = .ok v)
    (k : String) :
    ∃ root, Document.ofBytes (memberText k text) = ⟨memberText k text, root, none⟩ ∧
      root.Reads (.object [(k, v)]) := by
  obtain ⟨name, begun, hname, hnamed⟩ :=
    feed_name (.inl rfl) k 0 [] [] 1 (text ++ [0x7D])
  have hbrace : Terminated [0x7D] := terminated_cons (by decide) []
  obtain ⟨n, hn, hvalue⟩ := feed_of_written h [.member 0 [] name] hbrace begun
  have hopen : Spelled [0x7B] .objectOpen
      (Text.Utf8.encode (renderString k) ++ ([0x3A] ++ (text ++ [0x7D]))) :=
    spelled_punctuation (by decide) (fun _ _ => rfl) _
  have hclose : Spelled [0x7D] .objectClose [] :=
    spelled_punctuation (by decide) (fun _ _ => rfl) []
  refine ⟨.object 0 [(name, n)] (.closed (begun + text.length + 1)), ?_,
    (MembersRead.cons hname hn .nil).object 0 _⟩
  have hfeed : State.initial.feed 0 0 (memberText k text) =
      .done (.object 0 [(name, n)] (.closed (begun + text.length + 1))) none := by
    rw [memberText, State.initial, feed_token hopen]
    refine Eq.trans hnamed (hvalue.trans ?_)
    rw [← List.append_nil [0x7D], feed_token hclose]
    rfl
  rw [Document.ofBytes, hfeed]
  rfl

/-- A value is read from the text of an object around its own, up to the limit on
nesting. -/
theorem ofBytes_memberText {text : Bytes} {v : Value} (h : writtenValue text = .ok v)
    (k : String) :
    (v.depth < 127 → Value.ofBytes (memberText k text) = .ok (.object [(k, v.canonical)])) ∧
      (127 ≤ v.depth → ∃ line column,
        Value.ofBytes (memberText k text) = .error ⟨.defect .tooDeep, line, column⟩) := by
  obtain ⟨root, hdocument, hroot⟩ := document_memberText h k
  have hdepth : (Value.object [(k, v)]).depth = v.depth + 1 := by
    simp [Value.depth, Value.depthMembers]
  rw [Value.ofBytes, hdocument, Document.value]
  constructor
  · intro hlt
    rw [hroot.shallow depthLimit (by rw [hdepth]; exact Nat.succ_lt_succ hlt)]
    rfl
  · intro hle
    obtain ⟨o, ho⟩ := hroot.deep depthLimit (by decide) (by rw [hdepth]; exact Nat.succ_le_succ hle)
    rw [ho]
    exact ⟨_, _, rfl⟩

end SbomGate.Json
