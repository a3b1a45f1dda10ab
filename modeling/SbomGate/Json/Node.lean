import SbomGate.Json.Token
/-!
# SbomGate.Json.Node

JSON text as a **located tree**: every value with the offsets of its bytes,
and the place where the text breaks off, if it does, as a part of the tree.

Design points:

* Building the tree never fails. Whoever walks it meets the faults in the
  order of the text, so a wrong type early in the text is reported before a
  grammatical fault later on, and a fault inside a skipped member is judged
  by the rules for skipping.
* The tree is built by `State.step`, one token at a time, with the open
  arrays and objects on a stack. Reading is thus one pass over the bytes
  without recursion into them.
-/

namespace SbomGate.Json

/-- How an array or object ends. -/
inductive Close
  /-- By its bracket or brace, before offset `stop`. -/
  | closed (stop : Nat)
  /-- Not at all. -/
  | broken (b : Break)

/-- The name of a member. -/
structure Name where
  /-- The offset of the brace or comma in front of it. -/
  before : Nat
  /-- The offset at which it starts. -/
  start : Nat
  /-- Its text, unless a reader finds fault with it. -/
  text : Except Fault String
  /-- The offset after it. -/
  stop : Nat
  /-- The offset blamed when the name is not wanted: that of the token after
  it, or the offset past a closing brace in that place. -/
  mark : Nat

/-- A located JSON value. -/
inductive Node
  /-- A scalar. -/
  | leaf (start stop : Nat) (content : Leaf)
  /-- An array. -/
  | list (start : Nat) (items : List Node) (close : Close)
  /-- An object. -/
  | object (start : Nat) (members : List (Name × Node)) (close : Close)
  /-- A word or number that breaks off. -/
  | stub (start : Nat) (b : Break)
  /-- No value, at the place where one is due. -/
  | broken (start : Nat) (b : Break)

/-- The offset at which a value starts. -/
def Node.start : Node → Nat
  | leaf start _ _ => start
  | list start _ _ => start
  | object start _ _ => start
  | stub start _ => start
  | broken start _ => start

/-- An open array or object, its parts in reverse. -/
inductive Frame
  /-- An array with the items so far. -/
  | list (start : Nat) (items : List Node)
  /-- An object with the members so far. -/
  | object (start : Nat) (members : List (Name × Node))
  /-- An object with the members so far and the name of the next one. -/
  | member (start : Nat) (members : List (Name × Node)) (name : Name)

/-- What the text calls for next. -/
inductive Due
  /-- A value. -/
  | value
  /-- An item or the closing bracket. -/
  | firstItem
  /-- An item, after a comma. -/
  | item
  /-- A comma or the closing bracket. -/
  | itemEnd
  /-- A name or the closing brace, after a brace at this offset. -/
  | firstName (brace : Nat)
  /-- A name, after a comma at this offset. -/
  | name (comma : Nat)
  /-- A colon after the name with these parts. -/
  | colon (before start : Nat) (text : Except Fault String) (stop : Nat)
  /-- A comma or the closing brace. -/
  | memberEnd

/-- The tree under construction. -/
inductive State
  /-- Values are open on the stack. -/
  | within (due : Due) (stack : List Frame)
  /-- The value is complete or broken; `trailing` is the offset of the first
  token after it. -/
  | done (root : Node) (trailing : Option Nat)

namespace State

/-- Before the first byte: one value is due. -/
def initial : State := .within .value []

/-- A completed value goes to the frame that waits for it. -/
def deliver (n : Node) : List Frame → State
  | [] => .done n none
  | .list start items :: fs => .within .itemEnd (.list start (n :: items) :: fs)
  | .member start ms name :: fs => .within .memberEnd (.object start ((name, n) :: ms) :: fs)
  | .object start ms :: fs => .within .memberEnd (.object start ms :: fs)

/-- A value that ends in a break closes all that is open. -/
def abandon (b : Break) (n : Node) : List Frame → Node
  | [] => n
  | .list start items :: fs => abandon b (.list start (n :: items).reverse (.broken b)) fs
  | .member start ms name :: fs =>
    abandon b (.object start ((name, n) :: ms).reverse (.broken b)) fs
  | .object start ms :: fs => abandon b (.object start ms.reverse (.broken b)) fs

/-- The value that is due is `n`, which breaks off. -/
def breakValue (n : Node) (b : Break) (stack : List Frame) : State :=
  .done (abandon b n stack) none

/-- The innermost array or object does not go on. -/
def breakFrame (start : Nat) (b : Break) : List Frame → State
  | [] => .done (.broken start b) none
  | .list s items :: fs => .done (abandon b (.list s items.reverse (.broken b)) fs) none
  | .object s ms :: fs => .done (abandon b (.object s ms.reverse (.broken b)) fs) none
  | .member s ms name :: fs =>
    .done (abandon b (.object s ((name, .broken start b) :: ms).reverse (.broken b)) fs) none

/-- The innermost array or object is closed. -/
def close (stop : Nat) : List Frame → State
  | .list start items :: fs => deliver (.list start items.reverse (.closed stop)) fs
  | .object start ms :: fs => deliver (.object start ms.reverse (.closed stop)) fs
  | .member start ms _ :: fs => deliver (.object start ms.reverse (.closed stop)) fs
  | [] => .within .value []

/-- A token where a value is due. -/
def onValue (start stop : Nat) (t : Token) (stack : List Frame) : State :=
  match t with
  | .leaf content => deliver (.leaf start stop content) stack
  | .listOpen => .within .firstItem (.list start [] :: stack)
  | .objectOpen => .within (.firstName start) (.object start [] :: stack)
  | .brokenString b => breakValue (.broken start b) b stack
  | .brokenScalar b => breakValue (.stub start b) b stack
  | .listClose | .objectClose | .comma | .colon | .stray =>
    let b := .all (Defect.valueDue.at (start + 1))
    breakValue (.broken start b) b stack

/-- What a reader of a variant says to a token in the place of its name. -/
def variantFault (start stop : Nat) (t : Token) : Fault :=
  let refuse (found : Found) (offset : Nat) : Fault :=
    (Mismatch.wrongType found "variant identifier").at offset
  match t with
  | .leaf .null => refuse .null stop
  | .leaf (.bool b) => refuse (.bool b) stop
  | .leaf (.number (.ok n)) => refuse (.number n) stop
  | .leaf (.number (.error f)) => f
  | .leaf (.string (.ok s)) => refuse (.string s) stop
  | .leaf (.string (.error f)) => f
  | .listOpen => refuse .array start
  | .objectOpen => refuse .object start
  | .brokenScalar b | .brokenString b => b.reading
  | .listClose | .objectClose | .comma | .colon | .stray => Defect.valueDue.at (start + 1)

/-- A token where a name is due after the brace at `before` and the closing
brace has been dealt with. -/
def onFirstName (before start stop : Nat) (t : Token) (stack : List Frame) : State :=
  match t with
  | .leaf (.string s) => .within (.colon before start s stop) stack
  | .brokenString b => breakFrame start b stack
  | t =>
    let f := Defect.nameDue.at (start + 1)
    breakFrame start ⟨f, f, variantFault start stop t⟩ stack

/-- A token where a name is due after the comma at `before` and the closing
brace has been dealt with. -/
def onName (before start stop : Nat) (t : Token) (stack : List Frame) : State :=
  let surplus := Defect.valueDue.at before
  match t with
  | .leaf (.string s) => .within (.colon before start s stop) stack
  | .brokenString b => breakFrame start { b with choosing := surplus } stack
  | _ =>
    let f := Defect.nameDue.at (start + 1)
    breakFrame start ⟨f, f, surplus⟩ stack

/-- The object on top waits for the value of a name. -/
def named (name : Name) : List Frame → List Frame
  | .object start ms :: fs => .member start ms name :: fs
  | stack => stack

/-- One token, from offset `start` to `stop`. -/
def step (s : State) (start stop : Nat) (t : Token) : State :=
  match s with
  | .done root trailing => .done root (trailing.or (some start))
  | .within due stack =>
    match due with
    | .value => onValue start stop t stack
    | .firstItem =>
      match t with
      | .listClose => close stop stack
      | t => onValue start stop t stack
    | .item =>
      match t with
      | .listClose =>
        breakFrame start
          (.split (Defect.trailingComma.at (start + 1)) (Defect.valueDue.at (start + 1))) stack
      | t => onValue start stop t stack
    | .itemEnd =>
      match t with
      | .comma => .within .item stack
      | .listClose => close stop stack
      | _ => breakFrame start (.all (Defect.itemEndDue.at (start + 1))) stack
    | .firstName before =>
      match t with
      | .objectClose => close stop stack
      | t => onFirstName before start stop t stack
    | .name before =>
      match t with
      | .objectClose =>
        breakFrame start
          ⟨Defect.trailingComma.at (start + 1), Defect.nameDue.at (start + 1),
            Defect.valueDue.at before⟩ stack
      | t => onName before start stop t stack
    | .colon before nameStart text nameStop =>
      match t with
      | .colon => .within .value (named ⟨before, nameStart, text, nameStop, start⟩ stack)
      | t =>
        let mark := match t with
          | .objectClose => stop
          | _ => start
        breakFrame start (.all (Defect.colonDue.at (start + 1)))
          (named ⟨before, nameStart, text, nameStop, mark⟩ stack)
    | .memberEnd =>
      match t with
      | .comma => .within (.name start) stack
      | .objectClose => close stop stack
      | _ =>
        let f := Defect.memberEndDue.at (start + 1)
        breakFrame start ⟨f, f, Defect.valueDue.at start⟩ stack

/-- The text ends at offset `length`. -/
def finish (s : State) (length : Nat) : State :=
  match s with
  | .done root trailing => .done root trailing
  | .within due stack =>
    let value := Defect.valueEnds.at length
    let object := Defect.objectEnds.at length
    match due with
    | .value | .item => breakValue (.broken length (.all value)) (.all value) stack
    | .firstItem | .itemEnd => breakFrame length (.all (Defect.listEnds.at length)) stack
    | .firstName _ => breakFrame length ⟨object, object, value⟩ stack
    | .memberEnd => breakFrame length (.all object) stack
    | .name before => breakFrame length ⟨value, object, Defect.valueDue.at before⟩ stack
    | .colon before nameStart text nameStop =>
      breakFrame length (.all object)
        (named ⟨before, nameStart, text, nameStop, length⟩ stack)

/-- Steps through the tokens of a byte string, from `offset` on; `skip` counts
the bytes that still belong to the token before. -/
def feed (s : State) (skip offset : Nat) : Bytes → State
  | [] => s
  | b :: rest =>
    match skip with
    | skip + 1 => feed s skip (offset + 1) rest
    | 0 =>
      if isBlank b then feed s 0 (offset + 1) rest
      else
        let (t, stop) := tokenAt offset b rest
        feed (s.step offset stop t) (stop - offset - 1) (offset + 1) rest

end State

/-- A JSON text as a tree. -/
structure Document where
  text : Bytes
  root : Node
  /-- The offset of the first token after the value, if there is one. -/
  trailing : Option Nat

/-- The located tree of a text. -/
def Document.ofBytes (text : Bytes) : Document :=
  match (State.initial.feed 0 0 text).finish text.length with
  | .done root trailing => ⟨text, root, trailing⟩
  | .within _ _ => ⟨text, .broken 0 (.all (Defect.valueEnds.at 0)), none⟩

end SbomGate.Json
