import SbomGate.Json.Node
/-!
# SbomGate.Json.Reader

Reading the **value** of a located tree, and skipping it.

`Node.read` checks everything and limits the nesting; it keeps members as
they are written, in order and with repetitions, and `Document.value` puts
the result into canonical form. `Node.skip` only follows the brackets.
-/

namespace SbomGate.Json

/-- Arrays and objects nest at most 127 deep: the limit counts down from here
and may not reach zero. -/
def depthLimit : Nat := 128

/-- The fault at the end of an array or object, for a reader. -/
def Close.read : Close → Except Fault Unit
  | closed _ => .ok ()
  | broken b => .error b.reading

/-- The fault at the end of an array or object, for a skipper. -/
def Close.skip : Close → Except Fault Unit
  | closed _ => .ok ()
  | broken b => .error b.skipping

/-- The value of a scalar, or what is wrong with it. -/
def Leaf.read : Leaf → Except Fault Value
  | null => .ok .null
  | bool b => .ok (.bool b)
  | number n => n.map .number
  | string s => s.map .string

mutual

/-- The value of a node, its members as written; `limit` bounds the nesting. -/
def Node.read (limit : Nat) : Node → Except Fault Value
  | .leaf _ _ content => content.read
  | .list start items close =>
    if limit ≤ 1 then .error (Defect.tooDeep.at (start + 1))
    else do
      let vs ← Node.readItems (limit - 1) items
      close.read
      .ok (.array vs)
  | .object start members close =>
    if limit ≤ 1 then .error (Defect.tooDeep.at (start + 1))
    else do
      let ms ← Node.readMembers (limit - 1) members
      close.read
      .ok (.object ms)
  | .stub _ b => .error b.reading
  | .broken _ b => .error b.reading

/-- The values of items, up to the first fault. -/
def Node.readItems (limit : Nat) : List Node → Except Fault (List Value)
  | [] => .ok []
  | n :: ns => do
    let v ← Node.read limit n
    let vs ← Node.readItems limit ns
    .ok (v :: vs)

/-- The names and values of members. -/
def Node.readMembers (limit : Nat) : List (Name × Node) → Except Fault (List (String × Value))
  | [] => .ok []
  | (k, n) :: ms => do
    let name ← k.text
    let v ← Node.read limit n
    let rest ← Node.readMembers limit ms
    .ok ((name, v) :: rest)

end

mutual

/-- The first fault that a skipper meets in a node. -/
def Node.skip : Node → Except Fault Unit
  | .leaf _ _ _ => .ok ()
  | .list _ items close => do Node.skipItems items; close.skip
  | .object _ members close => do Node.skipMembers members; close.skip
  | .stub _ b => .error b.skipping
  | .broken _ b => .error b.skipping

/-- The first fault that a skipper meets in items. -/
def Node.skipItems : List Node → Except Fault Unit
  | [] => .ok ()
  | n :: ns => do Node.skip n; Node.skipItems ns

/-- The first fault that a skipper meets in members; it does not look at their names. -/
def Node.skipMembers : List (Name × Node) → Except Fault Unit
  | [] => .ok ()
  | (_, n) :: ms => do Node.skip n; Node.skipMembers ms

end

/-- The result of reading the root, once nothing follows it; faults are placed
in the text. -/
def Document.finish {α : Type} (d : Document) (r : Except Fault α) : Except ReadError α :=
  match r with
  | .error f => .error (f.locate d.text)
  | .ok a =>
    match d.trailing with
    | some o => .error ((Defect.trailingText.at (o + 1)).locate d.text)
    | none => .ok a

/-- The canonical value of a document. -/
def Document.value (d : Document) : Except ReadError Value :=
  d.finish ((d.root.read depthLimit).map Value.canonical)

/-- The canonical value that a text denotes. -/
def Value.ofBytes (text : Bytes) : Except ReadError Value := (Document.ofBytes text).value

end SbomGate.Json
