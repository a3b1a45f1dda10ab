import SbomGate.Json.Reader
import SbomGate.Json.Schema
/-!
# SbomGate.Json.Projection

Reading **text through a schema**: the projection of a located tree, or the
first fault in the order of the text.

Where a fault is placed: a wrong scalar at its end, a wrong array or object at
its start, a member that is not wanted behind its name, and what can only be
known at the end of an array or object behind its bracket.
-/

namespace SbomGate.Json

/-- A fault after all fields of a record have been read from a list: whatever
stands there other than the bracket is surplus. -/
def Close.readAfterFields : Close → Except Fault Unit
  | closed _ => .ok ()
  | broken b =>
    match b.reading.cause with
    | .defect .listEnds | .defect .trailingComma => .error b.reading
    | _ => .error (Defect.trailingText.at b.reading.offset)

/-- A mismatch that is known behind the closing bracket. -/
def Close.finish {α : Type} (close : Close) (r : Except Mismatch α) : Except Fault α :=
  match close with
  | closed stop => r.mapError (·.at stop)
  | broken b => .error b.reading

/-- A projection whose mismatch is placed at an offset. -/
def projectAt {α : Type} (offset : Nat) (r : Except Mismatch α) : Except Fault α :=
  r.mapError (·.at offset)

/-- The projection of a scalar from `start` to `stop`. A choice is refused
before anything but a string is read. -/
def Leaf.project (s : Schema) (start stop : Nat) (leaf : Leaf) : Except Fault Value :=
  match s.core, leaf with
  | .choice names, .string text =>
    text.bind fun t => projectAt stop ((Schema.choice names).projectScalar (.string t))
  | .choice _, .null =>
    if s.isOptional then .ok .null else .error (Defect.valueDue.at (start + 1))
  | .choice _, _ => .error (Defect.valueDue.at (start + 1))
  | _, leaf => leaf.read.bind fun v => projectAt stop (s.projectScalar v)

/-- The value that stands for no content: null. -/
def Node.readUnit : Node → Except Fault Unit
  | .leaf _ _ .null => .ok ()
  | .leaf _ stop content =>
    content.read.bind fun v => .error ((Mismatch.wrongType v.found "unit").at stop)
  | .list start _ _ => .error ((Mismatch.wrongType .array "unit").at start)
  | .object start _ _ => .error ((Mismatch.wrongType .object "unit").at start)
  | .stub _ b => .error b.reading
  | .broken _ b => .error b.reading

/-- The choice that an object makes by its only member. -/
def Node.readVariant (names : List String) (members : List (Name × Node)) (close : Close) :
    Except Fault Value :=
  match members with
  | [] =>
    match close with
    | .closed stop => .error (Defect.valueDue.at stop)
    | .broken b => .error b.choosing
  | (name, n) :: rest => do
    let text ← name.text
    if text ∈ names then
      n.readUnit
      match rest, close with
      | (next, _) :: _, _ => .error (Defect.valueDue.at next.before)
      | [], .closed _ => .ok (.string text)
      | [], .broken b => .error b.choosing
    else .error ((Mismatch.unknownVariant text names).at name.stop)

mutual

/-- The projection of a node; `limit` bounds the nesting. -/
def Node.project (limit : Nat) (s : Schema) : Node → Except Fault Value
  | .leaf start stop content => content.project s start stop
  | .list start items close =>
    match s.core with
    | .anything => ((Node.list start items close).read limit).map Value.canonical
    | .list item =>
      if limit ≤ 1 then .error (Defect.tooDeep.at (start + 1))
      else do
        let vs ← Node.projectItems (limit - 1) item items
        close.read
        .ok (.array vs)
    | .record name _ fields =>
      if limit ≤ 1 then .error (Defect.tooDeep.at (start + 1))
      else
        (Node.projectFields (limit - 1) (expectedFields name fields.length) 0 fields close
          items).map .object
    | .choice _ => .error (Defect.valueDue.at (start + 1))
    | core => .error ((Mismatch.wrongType .array core.expected).at start)
  | .object start members close =>
    match s.core with
    | .anything => ((Node.object start members close).read limit).map Value.canonical
    | .record _ closed fields =>
      if limit ≤ 1 then .error (Defect.tooDeep.at (start + 1))
      else do
        let found ← Node.projectMembers (limit - 1) closed fields [] members
        close.finish ((assemble fields found).map .object)
    | .gathered _ check =>
      if limit ≤ 1 then .error (Defect.tooDeep.at (start + 1))
      else do
        let ms ← Node.readMembers (limit - 1) members
        close.finish (check ms)
    | .choice names =>
      if limit ≤ 1 then .error (Defect.tooDeep.at (start + 1))
      else Node.readVariant names members close
    | core => .error ((Mismatch.wrongType .object core.expected).at start)
  | .stub start b =>
    match s.core with
    | .choice _ => .error (Defect.valueDue.at (start + 1))
    | _ => .error b.reading
  | .broken _ b => .error b.reading

/-- The projections of the items of a list. -/
def Node.projectItems (limit : Nat) (item : Schema) : List Node → Except Fault (List Value)
  | [] => .ok []
  | n :: ns => do
    let v ← Node.project limit item n
    let vs ← Node.projectItems limit item ns
    .ok (v :: vs)

/-- The fields of a record given as a list, of which `count` have been
read. -/
def Node.projectFields (limit : Nat) (expected : String) (count : Nat) (fields : Fields)
    (close : Close) : List Node → Except Fault Members
  | [] =>
    match fields with
    | [] => close.readAfterFields.map fun _ => []
    | _ => close.finish ((projectAbsent expected count fields).map fun _ => [])
  | n :: ns =>
    match fields with
    | [] => .error (Defect.trailingText.at (n.start + 1))
    | (name, _, s) :: rest => do
      let v ← Node.project limit s n
      let ms ← Node.projectFields limit expected (count + 1) rest close ns
      .ok ((name, v) :: ms)

/-- The fields of a record found among members, behind those in `found`. -/
def Node.projectMembers (limit : Nat) (closed : Bool) (fields : Fields) (found : Members) :
    List (Name × Node) → Except Fault Members
  | [] => .ok found
  | (name, n) :: rest =>
    match name.text with
    | .error f => .error f
    | .ok text =>
      match projectField closed fields found text with
      | .error m => .error (m.at name.mark)
      | .ok none =>
        match Node.skip n with
        | .error f => .error f
        | .ok _ => Node.projectMembers limit closed fields found rest
      | .ok (some s) =>
        match Node.project limit s n with
        | .error f => .error f
        | .ok v => Node.projectMembers limit closed fields (found ++ [(text, v)]) rest

end

/-- The projection of a document by a schema. -/
def Document.project (d : Document) (s : Schema) : Except ReadError Value :=
  d.finish (d.root.project depthLimit s)

/-- The projection of a text by a schema. -/
def Schema.readBytes (s : Schema) (text : Bytes) : Except ReadError Value :=
  (Document.ofBytes text).project s

end SbomGate.Json
