import SbomGate.Json.Reader
import SbomGate.Proofs.Canonical
import SbomGate.Proofs.Literal
import SbomGate.Proofs.Numeral
import SbomGate.Proofs.Outcome
/-!
# SbomGate.Proofs.Reading

**Values are read back from their text**, up to the limit on nesting: a
canonical value as itself, and any other in its canonical form.

Feeding the text of a value to a state that calls for a value delivers a node
to the innermost frame, and that node reads as the value. The induction is on
the value; what stands behind its text is arbitrary but for being unable to
extend a number, and the stack is arbitrary altogether.
-/

namespace SbomGate.Json

open Text.Utf8 State

/-! ### Nodes -/

/-- A node stands for a value: it reads as that value where the nesting is
allowed, and is too deep where it is not. -/
structure Node.Reads (n : Node) (v : Value) : Prop where
  /-- The nesting is allowed. -/
  shallow : ∀ limit, v.depth < limit → n.read limit = .ok v
  /-- The nesting is too deep. -/
  deep : ∀ limit, 1 ≤ limit → limit ≤ v.depth → ∃ o, n.read limit = .error (Defect.tooDeep.at o)

/-- Nodes stand for the items of an array. -/
structure ItemsRead (ns : List Node) (vs : List Value) : Prop where
  /-- The nesting is allowed. -/
  shallow : ∀ limit, Value.depthItems vs < limit → Node.readItems limit ns = .ok vs
  /-- The nesting is too deep. -/
  deep : ∀ limit, 1 ≤ limit → limit ≤ Value.depthItems vs →
    ∃ o, Node.readItems limit ns = .error (Defect.tooDeep.at o)

/-- Named nodes stand for the members of an object. -/
structure MembersRead (ns : List (Name × Node)) (ms : List (String × Value)) : Prop where
  /-- The nesting is allowed. -/
  shallow : ∀ limit, Value.depthMembers ms < limit → Node.readMembers limit ns = .ok ms
  /-- The nesting is too deep. -/
  deep : ∀ limit, 1 ≤ limit → limit ≤ Value.depthMembers ms →
    ∃ o, Node.readMembers limit ns = .error (Defect.tooDeep.at o)

theorem Node.reads_leaf {start stop : Nat} {content : Leaf} {v : Value} (h : content.read = .ok v)
    (hdepth : v.depth = 0) : (Node.leaf start stop content).Reads v where
  shallow := fun _ _ => by rw [Node.read, h]
  deep := fun limit hlimit hle => by omega

theorem ItemsRead.nil : ItemsRead [] [] where
  shallow := fun _ _ => by rw [Node.readItems]
  deep := by
    intro limit hlimit hle
    rw [Value.depthItems] at hle
    omega

theorem ItemsRead.cons {n : Node} {ns : List Node} {v : Value} {vs : List Value} (hn : n.Reads v)
    (hns : ItemsRead ns vs) : ItemsRead (n :: ns) (v :: vs) where
  shallow := by
    intro limit hlt
    rw [Value.depthItems] at hlt
    rw [Node.readItems, hn.shallow limit (by omega), ok_bind, hns.shallow limit (by omega), ok_bind]
  deep := by
    intro limit hlimit hle
    rw [Value.depthItems] at hle
    rw [Node.readItems]
    -- the first item that is too deep stops the reading
    by_cases hv : limit ≤ v.depth
    · obtain ⟨o, ho⟩ := hn.deep limit hlimit hv
      exact ⟨o, by rw [ho, error_bind]⟩
    · obtain ⟨o, ho⟩ := hns.deep limit hlimit (by omega)
      exact ⟨o, by rw [hn.shallow limit (by omega), ok_bind, ho, error_bind]⟩

theorem MembersRead.nil : MembersRead [] [] where
  shallow := fun _ _ => by rw [Node.readMembers]
  deep := by
    intro limit hlimit hle
    rw [Value.depthMembers] at hle
    omega

theorem MembersRead.cons {name : Name} {k : String} {n : Node} {ns : List (Name × Node)}
    {v : Value} {ms : List (String × Value)} (hk : name.text = .ok k) (hn : n.Reads v)
    (hns : MembersRead ns ms) : MembersRead ((name, n) :: ns) ((k, v) :: ms) where
  shallow := by
    intro limit hlt
    rw [Value.depthMembers] at hlt
    rw [Node.readMembers, hk, ok_bind, hn.shallow limit (by omega), ok_bind,
      hns.shallow limit (by omega), ok_bind]
  deep := by
    intro limit hlimit hle
    rw [Value.depthMembers] at hle
    rw [Node.readMembers, hk, ok_bind]
    by_cases hv : limit ≤ v.depth
    · obtain ⟨o, ho⟩ := hn.deep limit hlimit hv
      exact ⟨o, by rw [ho, error_bind]⟩
    · obtain ⟨o, ho⟩ := hns.deep limit hlimit (by omega)
      exact ⟨o, by rw [hn.shallow limit (by omega), ok_bind, ho, error_bind]⟩

/-- An array is one level above its items. -/
theorem ItemsRead.list {ns : List Node} {vs : List Value} (h : ItemsRead ns vs)
    (start stop : Nat) : (Node.list start ns (.closed stop)).Reads (.array vs) where
  shallow := by
    intro limit hlt
    rw [Value.depth] at hlt
    rw [Node.read, if_neg (by omega), h.shallow (limit - 1) (by omega)]
    rfl
  deep := by
    intro limit hlimit hle
    rw [Value.depth] at hle
    rw [Node.read]
    split
    · exact ⟨start + 1, rfl⟩
    · next hlt =>
        obtain ⟨o, ho⟩ := h.deep (limit - 1) (by omega) (by omega)
        exact ⟨o, by rw [ho, error_bind]⟩

/-- An object is one level above its members. -/
theorem MembersRead.object {ns : List (Name × Node)} {ms : List (String × Value)}
    (h : MembersRead ns ms) (start stop : Nat) :
    (Node.object start ns (.closed stop)).Reads (.object ms) where
  shallow := by
    intro limit hlt
    rw [Value.depth] at hlt
    rw [Node.read, if_neg (by omega), h.shallow (limit - 1) (by omega)]
    rfl
  deep := by
    intro limit hlimit hle
    rw [Value.depth] at hle
    rw [Node.read]
    split
    · exact ⟨start + 1, rfl⟩
    · next hlt =>
        obtain ⟨o, ho⟩ := h.deep (limit - 1) (by omega) (by omega)
        exact ⟨o, by rw [ho, error_bind]⟩

/-! ### Tokens -/

/-- A token, spelled by the bytes `text`, stands in front of `rest`. -/
def Spelled (text : Bytes) (t : Token) (rest : Bytes) : Prop :=
  ∃ b tail, text = b :: tail ∧ isBlank b = false ∧
    ∀ offset, tokenAt offset b (tail ++ rest) = (t, offset + text.length)

theorem feed_skip (s : State) (rest tail : Bytes) (offset : Nat) :
    feed s tail.length offset (tail ++ rest) = feed s 0 (offset + tail.length) rest := by
  induction tail generalizing offset with
  | nil => rfl
  | cons b tail ih =>
      rw [List.cons_append, List.length_cons, feed, ih]
      congr 1
      omega

/-- A token is one step. -/
theorem feed_token {text : Bytes} {t : Token} {rest : Bytes} (h : Spelled text t rest) (s : State)
    (offset : Nat) :
    feed s 0 offset (text ++ rest) =
      feed (s.step offset (offset + text.length) t) 0 (offset + text.length) rest := by
  obtain ⟨b, tail, rfl, hblank, htoken⟩ := h
  rw [List.cons_append, feed]
  simp only [hblank, Bool.false_eq_true, if_false, htoken]
  rw [show offset + (b :: tail).length - offset - 1 = tail.length by
    rw [List.length_cons]; omega, feed_skip, List.length_cons]
  congr 1
  omega

theorem spelled_punctuation {b : UInt8} {t : Token} (hblank : isBlank b = false)
    (h : ∀ offset rest, tokenAt offset b rest = (t, offset + 1)) (rest : Bytes) :
    Spelled [b] t rest :=
  ⟨b, [], rfl, hblank, fun offset => h offset rest⟩

theorem spelled_string (s : String) (rest : Bytes) :
    Spelled (encode (renderString s)) (.leaf (.string (.ok s))) rest := by
  refine ⟨0x22, _, encode_renderString s, by decide, ?_⟩
  intro offset
  have htoken : ∀ bytes, tokenAt offset 0x22 bytes = stringToken (offset + 1) bytes :=
    fun _ => rfl
  rw [htoken, List.append_assoc, List.singleton_append, stringToken_escaped, encode_renderString,
    List.length_cons, List.length_append, List.length_singleton]
  congr 1
  omega

/-- A number is recognized by its first byte. -/
theorem tokenAt_number {b : UInt8} (h : b = 0x2D ∨ isDigit b = true) (offset : Nat)
    (rest : Bytes) : tokenAt offset b rest = numberToken offset (b :: rest) := by
  rcases h with rfl | h
  · rfl
  · -- a digit is none of the bytes that other tokens begin with
    have hne : ∀ {c : UInt8}, isDigit c = false → b ≠ c := by
      rintro c hc rfl
      rw [h] at hc
      cases hc
    have hminus : (b = 0x2D || isDigit b) = true := by rw [h, Bool.or_true]
    unfold tokenAt
    dsimp only
    rw [if_neg (hne rfl), if_neg (hne rfl), if_neg (hne rfl), if_neg (hne rfl), if_neg (hne rfl),
      if_neg (hne rfl), if_neg (hne rfl), if_neg (hne rfl), if_neg (hne rfl), if_neg (hne rfl),
      if_pos hminus]

theorem spelled_number {n : Number} (hn : n.InRange) {rest : Bytes} (hrest : Terminated rest) :
    Spelled (encode n.render) (.leaf (.number (.ok n))) rest := by
  obtain ⟨b, tail, htext, hb⟩ := head_render n
  have hblank : isBlank b = false := by
    rcases hb with rfl | hb
    · decide
    · grind [isBlank, isDigit]
  refine ⟨b, tail, htext, hblank, ?_⟩
  intro offset
  rw [tokenAt_number hb, ← List.cons_append, ← htext]
  exact numberToken_render hn offset hrest

theorem spelled_word {b : UInt8} {tail : Bytes} {content : Leaf} {word : String}
    (hblank : isBlank b = false) (hword : bytesOf word = tail)
    (h : ∀ offset bytes, tokenAt offset b bytes = wordToken content word (offset + 1) bytes)
    (rest : Bytes) : Spelled (b :: tail) (.leaf content) rest := by
  have hscan : ∀ (tail : Bytes) (offset : Nat),
      scanWord offset tail (tail ++ rest) = .ok (offset + tail.length) := by
    intro tail
    induction tail with
    | nil => exact fun _ => rfl
    | cons c cs ih =>
        intro offset
        rw [List.cons_append, scanWord, if_pos rfl, ih, List.length_cons]
        congr 1
        omega
  refine ⟨b, tail, rfl, hblank, ?_⟩
  intro offset
  rw [h, wordToken, hword, hscan, List.length_cons]
  simp only [Prod.mk.injEq, true_and]
  omega

/-! ### Values -/

/-- A value may stand here. -/
def Due.TakesValue : Due → Prop
  | .value | .firstItem | .item => True
  | _ => False

theorem step_of_takesValue {due : Due} (hdue : due.TakesValue) {t : Token}
    (ht : t ≠ .listClose) (start stop : Nat) (stack : List Frame) :
    step (.within due stack) start stop t = onValue start stop t stack := by
  cases due with
  | value => rfl
  | firstItem => cases t <;> first | rfl | exact absurd rfl ht
  | item => cases t <;> first | rfl | exact absurd rfl ht
  | _ => cases hdue

/-- A scalar is delivered as it is. -/
theorem feed_scalar {text rest : Bytes} {content : Leaf} {v : Value}
    (htext : Spelled text (.leaf content) rest) (hread : content.read = .ok v)
    (hdepth : v.depth = 0) {due : Due} (hdue : due.TakesValue) (stack : List Frame)
    (offset : Nat) :
    ∃ n stop, n.Reads v ∧
      feed (.within due stack) 0 offset (text ++ rest) = feed (deliver n stack) 0 stop rest := by
  refine ⟨.leaf offset (offset + text.length) content, offset + text.length,
    Node.reads_leaf hread hdepth, ?_⟩
  rw [feed_token htext, step_of_takesValue hdue (fun h => by cases h)]
  rfl

theorem terminated_cons {b : UInt8} (hb : isDigit b = false ∧ b ≠ 0x2E ∧ b ≠ 0x65 ∧ b ≠ 0x45)
    (rest : Bytes) : Terminated (b :: rest) := by
  rintro c hc
  obtain rfl := Option.some.inj hc
  exact hb

/-- A name is followed by a colon, and its value goes to the object. -/
theorem feed_name {due : Due} {before : Nat} (hdue : due = .firstName before ∨ due = .name before)
    (k : String) (start : Nat) (ms : List (Name × Node)) (stack : List Frame) (offset : Nat)
    (rest : Bytes) :
    ∃ name stop, name.text = .ok k ∧
      feed (.within due (.object start ms :: stack)) 0 offset
          (encode (renderString k) ++ ([0x3A] ++ rest)) =
        feed (.within .value (.member start ms name :: stack)) 0 stop rest := by
  have hcolon : Spelled [0x3A] .colon rest := spelled_punctuation (by decide) (fun _ _ => rfl) rest
  refine ⟨⟨before, offset, .ok k, offset + (encode (renderString k)).length,
    offset + (encode (renderString k)).length⟩, offset + (encode (renderString k)).length + 1,
    rfl, ?_⟩
  rw [feed_token (spelled_string k _), feed_token hcolon]
  rcases hdue with rfl | rfl <;> rfl

/-! ### The bytes of arrays and objects -/

theorem encode_array (items : List Value) (rest : Bytes) :
    encode (Value.array items).render ++ rest =
      [0x5B] ++ (encode (renderItems items) ++ [0x5D] ++ rest) := by
  rw [Value.render, encode_cons, encode_append, List.append_assoc]
  rfl

theorem encode_object (members : List (String × Value)) (rest : Bytes) :
    encode (Value.object members).render ++ rest =
      [0x7B] ++ (encode (renderMembers members) ++ [0x7D] ++ rest) := by
  rw [Value.render, encode_cons, encode_append, List.append_assoc]
  rfl

theorem encode_items_cons (v : Value) (vs : List Value) (rest : Bytes) :
    encode (renderItems (v :: vs)) ++ [0x5D] ++ rest =
      encode v.render ++ (encode (renderItemsAfter vs) ++ [0x5D] ++ rest) := by
  rw [renderItems, encode_append]
  simp only [List.append_assoc]

theorem encode_itemsAfter_cons (v : Value) (vs : List Value) (rest : Bytes) :
    encode (renderItemsAfter (v :: vs)) ++ [0x5D] ++ rest =
      [0x2C] ++ (encode v.render ++ (encode (renderItemsAfter vs) ++ [0x5D] ++ rest)) := by
  rw [renderItemsAfter, encode_cons, encode_append]
  simp only [List.append_assoc]
  rfl

theorem encode_members_cons (k : String) (v : Value) (ms : List (String × Value)) (rest : Bytes) :
    encode (renderMembers ((k, v) :: ms)) ++ [0x7D] ++ rest =
      encode (renderString k) ++
        ([0x3A] ++ (encode v.render ++ (encode (renderMembersAfter ms) ++ [0x7D] ++ rest))) := by
  rw [renderMembers, encode_append, encode_cons, encode_append]
  simp only [List.append_assoc]
  rfl

theorem encode_membersAfter_cons (k : String) (v : Value) (ms : List (String × Value))
    (rest : Bytes) :
    encode (renderMembersAfter ((k, v) :: ms)) ++ [0x7D] ++ rest =
      [0x2C] ++ (encode (renderString k) ++
        ([0x3A] ++ (encode v.render ++ (encode (renderMembersAfter ms) ++ [0x7D] ++ rest)))) := by
  rw [renderMembersAfter, encode_cons, encode_append, encode_cons, encode_append]
  simp only [List.append_assoc]
  rfl

theorem terminated_itemsAfter (vs : List Value) (rest : Bytes) :
    Terminated (encode (renderItemsAfter vs) ++ [0x5D] ++ rest) := by
  cases vs with
  | nil =>
      rw [renderItemsAfter]
      exact terminated_cons (by decide) rest
  | cons v vs =>
      rw [encode_itemsAfter_cons]
      exact terminated_cons (by decide) _

theorem terminated_membersAfter (ms : List (String × Value)) (rest : Bytes) :
    Terminated (encode (renderMembersAfter ms) ++ [0x7D] ++ rest) := by
  cases ms with
  | nil =>
      rw [renderMembersAfter]
      exact terminated_cons (by decide) rest
  | cons m ms =>
      rw [encode_membersAfter_cons]
      exact terminated_cons (by decide) _

/-! ### Feeding -/

mutual

/-- The text of a value delivers a node that stands for the value. -/
theorem feed_value : ∀ {v : Value}, v.InRange → ∀ (due : Due), due.TakesValue →
    ∀ (stack : List Frame) (offset : Nat) {rest : Bytes}, Terminated rest →
    ∃ n stop, n.Reads v ∧ feed (.within due stack) 0 offset (encode v.render ++ rest) =
      feed (deliver n stack) 0 stop rest
  | .null, _, due, hdue, stack, offset, rest, _ => by
      rw [Value.render]
      exact feed_scalar (spelled_word (by decide) (by decide) (fun _ _ => rfl) rest) rfl
        (by rw [Value.depth]) hdue stack offset
  | .bool true, _, due, hdue, stack, offset, rest, _ => by
      rw [Value.render]
      exact feed_scalar (spelled_word (by decide) (by decide) (fun _ _ => rfl) rest) rfl
        (by rw [Value.depth]) hdue stack offset
  | .bool false, _, due, hdue, stack, offset, rest, _ => by
      rw [Value.render]
      exact feed_scalar (spelled_word (by decide) (by decide) (fun _ _ => rfl) rest) rfl
        (by rw [Value.depth]) hdue stack offset
  | .number n, h, due, hdue, stack, offset, rest, hrest => by
      rw [Value.InRange] at h
      rw [Value.render]
      exact feed_scalar (spelled_number h hrest) rfl (by rw [Value.depth]) hdue stack offset
  | .string s, _, due, hdue, stack, offset, rest, _ => by
      rw [Value.render]
      exact feed_scalar (spelled_string s rest) rfl (by rw [Value.depth]) hdue stack offset
  | .array items, h, due, hdue, stack, offset, rest, _ => by
      rw [Value.InRange] at h
      obtain ⟨ns, close, stop, hns, hfeed⟩ := feed_items h offset stack (offset + 1) rest
      refine ⟨.list offset ns (.closed close), stop, hns.list offset close, ?_⟩
      rw [encode_array, feed_token (spelled_punctuation (by decide) (fun _ _ => rfl) _),
        step_of_takesValue hdue (fun h => by cases h)]
      exact hfeed
  | .object members, h, due, hdue, stack, offset, rest, _ => by
      rw [Value.InRange] at h
      obtain ⟨ns, close, stop, hns, hfeed⟩ := feed_members h offset stack (offset + 1) rest
      refine ⟨.object offset ns (.closed close), stop, hns.object offset close, ?_⟩
      rw [encode_object, feed_token (spelled_punctuation (by decide) (fun _ _ => rfl) _),
        step_of_takesValue hdue (fun h => by cases h)]
      exact hfeed

/-- The items of an array are collected up to the closing bracket. -/
theorem feed_items : ∀ {vs : List Value}, Value.InRangeItems vs →
    ∀ (start : Nat) (stack : List Frame) (offset : Nat) (rest : Bytes),
    ∃ ns close stop, ItemsRead ns vs ∧
      feed (.within .firstItem (.list start [] :: stack)) 0 offset
          (encode (renderItems vs) ++ [0x5D] ++ rest) =
        feed (deliver (.list start ns (.closed close)) stack) 0 stop rest
  | [], _, start, stack, offset, rest => by
      refine ⟨[], offset + 1, offset + 1, .nil, ?_⟩
      rw [renderItems, encode_nil, List.nil_append,
        feed_token (spelled_punctuation (by decide) (fun _ _ => rfl) rest)]
      rfl
  | v :: vs, h, start, stack, offset, rest => by
      rw [Value.InRangeItems] at h
      -- the first item is not behind a comma, so its number may end at one or at the bracket
      obtain ⟨n, next, hn, hvalue⟩ := feed_value h.1 .firstItem trivial
        (.list start [] :: stack) offset (terminated_itemsAfter vs rest)
      obtain ⟨ns, close, stop, hns, hfeed⟩ := feed_itemsAfter h.2 start [n] stack next rest
      refine ⟨n :: ns, close, stop, .cons hn hns, ?_⟩
      rw [encode_items_cons, hvalue]
      exact hfeed

/-- The items behind the first one are collected, each behind a comma. -/
theorem feed_itemsAfter : ∀ {vs : List Value}, Value.InRangeItems vs →
    ∀ (start : Nat) (taken : List Node) (stack : List Frame) (offset : Nat) (rest : Bytes),
    ∃ ns close stop, ItemsRead ns vs ∧
      feed (.within .itemEnd (.list start taken :: stack)) 0 offset
          (encode (renderItemsAfter vs) ++ [0x5D] ++ rest) =
        feed (deliver (.list start (taken.reverse ++ ns) (.closed close)) stack) 0 stop rest
  | [], _, start, taken, stack, offset, rest => by
      refine ⟨[], offset + 1, offset + 1, .nil, ?_⟩
      rw [renderItemsAfter, encode_nil, List.nil_append,
        feed_token (spelled_punctuation (by decide) (fun _ _ => rfl) rest), List.append_nil]
      rfl
  | v :: vs, h, start, taken, stack, offset, rest => by
      rw [Value.InRangeItems] at h
      obtain ⟨n, next, hn, hvalue⟩ := feed_value h.1 .item trivial
        (.list start taken :: stack) (offset + 1) (terminated_itemsAfter vs rest)
      obtain ⟨ns, close, stop, hns, hfeed⟩ := feed_itemsAfter h.2 start (n :: taken) stack next rest
      refine ⟨n :: ns, close, stop, .cons hn hns, ?_⟩
      -- items are taken in reverse, so the new one goes in front of those taken
      rw [List.reverse_cons, List.append_assoc (taken.reverse)] at hfeed
      rw [encode_itemsAfter_cons, feed_token (spelled_punctuation (by decide) (fun _ _ => rfl) _)]
      exact hvalue.trans hfeed

/-- The members of an object are collected up to the closing brace. -/
theorem feed_members : ∀ {ms : List (String × Value)}, Value.InRangeMembers ms →
    ∀ (start : Nat) (stack : List Frame) (offset : Nat) (rest : Bytes),
    ∃ ns close stop, MembersRead ns ms ∧
      feed (.within (.firstName start) (.object start [] :: stack)) 0 offset
          (encode (renderMembers ms) ++ [0x7D] ++ rest) =
        feed (deliver (.object start ns (.closed close)) stack) 0 stop rest
  | [], _, start, stack, offset, rest => by
      refine ⟨[], offset + 1, offset + 1, .nil, ?_⟩
      rw [renderMembers, encode_nil, List.nil_append,
        feed_token (spelled_punctuation (by decide) (fun _ _ => rfl) rest)]
      rfl
  | (k, v) :: ms, h, start, stack, offset, rest => by
      rw [Value.InRangeMembers] at h
      obtain ⟨name, middle, hname, hnamed⟩ := feed_name (.inl rfl) k start [] stack offset
        (encode v.render ++ (encode (renderMembersAfter ms) ++ [0x7D] ++ rest))
      obtain ⟨n, next, hn, hvalue⟩ := feed_value h.1 .value trivial
        (.member start [] name :: stack) middle (terminated_membersAfter ms rest)
      obtain ⟨ns, close, stop, hns, hfeed⟩ :=
        feed_membersAfter h.2 start [(name, n)] stack next rest
      refine ⟨(name, n) :: ns, close, stop, .cons hname hn hns, ?_⟩
      rw [encode_members_cons, hnamed, hvalue]
      exact hfeed

/-- The members behind the first one are collected, each behind a comma. -/
theorem feed_membersAfter : ∀ {ms : List (String × Value)}, Value.InRangeMembers ms →
    ∀ (start : Nat) (taken : List (Name × Node)) (stack : List Frame) (offset : Nat)
      (rest : Bytes),
    ∃ ns close stop, MembersRead ns ms ∧
      feed (.within .memberEnd (.object start taken :: stack)) 0 offset
          (encode (renderMembersAfter ms) ++ [0x7D] ++ rest) =
        feed (deliver (.object start (taken.reverse ++ ns) (.closed close)) stack) 0 stop rest
  | [], _, start, taken, stack, offset, rest => by
      refine ⟨[], offset + 1, offset + 1, .nil, ?_⟩
      rw [renderMembersAfter, encode_nil, List.nil_append,
        feed_token (spelled_punctuation (by decide) (fun _ _ => rfl) rest), List.append_nil]
      rfl
  | (k, v) :: ms, h, start, taken, stack, offset, rest => by
      rw [Value.InRangeMembers] at h
      obtain ⟨name, middle, hname, hnamed⟩ := feed_name (.inr rfl) k start taken stack (offset + 1)
        (encode v.render ++ (encode (renderMembersAfter ms) ++ [0x7D] ++ rest))
      obtain ⟨n, next, hn, hvalue⟩ := feed_value h.1 .value trivial
        (.member start taken name :: stack) middle (terminated_membersAfter ms rest)
      obtain ⟨ns, close, stop, hns, hfeed⟩ :=
        feed_membersAfter h.2 start ((name, n) :: taken) stack next rest
      refine ⟨(name, n) :: ns, close, stop, .cons hname hn hns, ?_⟩
      rw [List.reverse_cons, List.append_assoc (taken.reverse)] at hfeed
      rw [encode_membersAfter_cons,
        feed_token (spelled_punctuation (by decide) (fun _ _ => rfl) _)]
      exact (hnamed.trans hvalue).trans hfeed

end

/-! ### Texts -/

/-- The tree of the text of a value stands for the value, and nothing follows
it. -/
theorem document_text {v : Value} (h : v.InRange) :
    ∃ root, Document.ofBytes (bytesOf v.text) = ⟨bytesOf v.text, root, none⟩ ∧ root.Reads v := by
  have hbytes : bytesOf v.text = encode v.render := by
    rw [bytesOf, Value.text, String.toList_ofList]
  have hend : Terminated [] := fun b hb => by cases hb
  obtain ⟨n, stop, hn, hfeed⟩ := feed_value h .value trivial [] 0 hend
  rw [List.append_nil] at hfeed
  refine ⟨n, ?_, hn⟩
  rw [hbytes, Document.ofBytes, State.initial, hfeed]
  rfl

/-- The text of a value is read as the canonical form of that value as long as
it nests at most 127 arrays and objects, and as too deep otherwise. -/
theorem ofBytes_text_of_inRange {v : Value} (h : v.InRange) :
    (v.depth ≤ 127 → Value.ofBytes (bytesOf v.text) = .ok v.canonical) ∧
      (127 < v.depth → ∃ line column,
        Value.ofBytes (bytesOf v.text) = .error ⟨.defect .tooDeep, line, column⟩) := by
  obtain ⟨root, hdocument, hroot⟩ := document_text h
  rw [Value.ofBytes, hdocument, Document.value]
  constructor
  · intro hdepth
    rw [hroot.shallow depthLimit (Nat.lt_succ_of_le hdepth)]
    simp only [Except.map, Document.finish]
  · intro hdepth
    obtain ⟨o, ho⟩ := hroot.deep depthLimit (by decide) hdepth
    rw [ho]
    exact ⟨_, _, rfl⟩

/-- **Printing and reading.** The text of a canonical value is read as that
value as long as it nests at most 127 arrays and objects, and as too deep
otherwise. -/
theorem ofBytes_text {v : Value} (h : v.Canonical) :
    (v.depth ≤ 127 → Value.ofBytes (bytesOf v.text) = .ok v) ∧
      (127 < v.depth → ∃ line column,
        Value.ofBytes (bytesOf v.text) = .error ⟨.defect .tooDeep, line, column⟩) := by
  simpa only [h.eq] using ofBytes_text_of_inRange h.inRange

end SbomGate.Json
