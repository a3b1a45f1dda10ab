import SbomGate.Json.Fault
/-!
# SbomGate.Json.Schema

**Schemas** for JSON, as data, and the check of a value against one.

Design points:

* A schema says what is read and in which order faults are found; what comes
  out is again a value, the *projection*: an object with the fields of the
  record that were given, in the order of their declaration, whatever else the
  object held. Types of the library are made from projections by total
  functions, so every way of failing is a `Mismatch` of this module.
* A record may also be given as a list of its fields in order. The projection
  is the same object.
* `Schema.project` checks a value in memory. Reading text through a schema, with
  places for the faults, is in `SbomGate.Json.Projection`; both share
  `projectScalar`, `projectField` and `assemble`.
-/

namespace SbomGate.Json

/-- How a field may be missing. -/
inductive Presence
  /-- It may not. -/
  | required
  /-- It may be missing from an object but not from a list. -/
  | nullable
  /-- It may be missing altogether. -/
  | defaulted
  deriving DecidableEq, Repr

/-- What a value has to be. -/
inductive Schema
  /-- Any value. -/
  | anything
  /-- A string. -/
  | string
  /-- An unsigned 64-bit integer. -/
  | word64
  /-- A signed 64-bit integer. -/
  | int64
  /-- A string that spells something, which messages call `expected`. -/
  | spelling (expected : String) (accepts : String → Bool)
  /-- One of several names. -/
  | choice (names : List String)
  /-- Null, or what `inner` says. -/
  | optional (inner : Schema)
  /-- A list. -/
  | list (item : Schema)
  /-- A record; a `closed` one refuses unknown members. -/
  | record (name : String) (closed : Bool) (fields : List (String × Presence × Schema))
  /-- An object whose members are taken as they are and checked together. -/
  | gathered (name : String) (check : Members → Except Mismatch Value)

/-- The fields of a record: their names, what they do when they are missing, and their values. -/
abbrev Fields := List (String × Presence × Schema)

/-- The schema for values other than null. -/
def Schema.core : Schema → Schema
  | .optional inner => inner.core
  | s => s

/-- Whether null is allowed in place of a value. -/
def Schema.isOptional : Schema → Bool
  | .optional _ => true
  | _ => false

/-- What messages call the values of a schema. -/
def Schema.expected : Schema → String
  | .anything => "any value"
  | .string => "a string"
  | .word64 => "u64"
  | .int64 => "i64"
  | .spelling expected _ => expected
  | .choice _ => "string or map"
  | .optional inner => inner.expected
  | .list _ => "a sequence"
  | .record name _ _ => "struct " ++ name
  | .gathered name _ => "struct " ++ name

/-- The record `name` with `count` fields, as messages about its list form
call it. -/
def expectedFields (name : String) (count : Nat) : String :=
  "struct " ++ name ++ " with " ++ toString count ++
    (if count = 1 then " element" else " elements")

/-- Checks a value that is looked at as a whole: a scalar, or a container in
the place of one. -/
def Schema.projectScalar : Schema → Value → Except Mismatch Value
  | .anything, v => .ok v
  | .string, .string s => .ok (.string s)
  | .word64, .number (.whole i) =>
    if 0 ≤ i then .ok (.number (.whole i)) else .error (.wrongValue (.number (.whole i)) "u64")
  | .int64, .number (.whole i) =>
    if i < 0x8000000000000000 then .ok (.number (.whole i))
    else .error (.wrongValue (.number (.whole i)) "i64")
  | .spelling expected accepts, .string s =>
    if accepts s then .ok (.string s) else .error (.wrongValue (.string s) expected)
  | .choice names, .string s =>
    if s ∈ names then .ok (.string s) else .error (.unknownVariant s names)
  | .optional _, .null => .ok .null
  | .optional inner, v => inner.projectScalar v
  | s, v => .error (.wrongType v.found s.expected)

/-- Puts the fields found into the order of their declaration. -/
def assemble (fields : Fields) (found : Members) : Except Mismatch Members :=
  match fields with
  | [] => .ok []
  | (name, presence, _) :: rest =>
    match Members.get? found name with
    | some v => (assemble rest found).map ((name, v) :: ·)
    | none =>
      if presence = .required then .error (.missingField name) else assemble rest found

/-- What a record makes of a member name, `found` holding the fields read so
far: the schema of the field, or nothing for a name to be ignored. -/
def projectField (closed : Bool) (fields : Fields) (found : Members) (name : String) :
    Except Mismatch (Option Schema) :=
  match fields.find? (·.1 = name) with
  | some (_, _, s) =>
    if (Members.get? found name).isSome then .error (.duplicateField name) else .ok (some s)
  | none => if closed then .error (.unknownField name (fields.map (·.1))) else .ok none

/-- The fields that a list leaves out, after `count` of the record's fields
have been read: all of them must have defaults. -/
def projectAbsent (expected : String) (count : Nat) : Fields → Except Mismatch Unit
  | [] => .ok ()
  | (_, presence, _) :: rest =>
    if presence = .defaulted then projectAbsent expected (count + 1) rest
    else .error (.wrongLength count expected)

/-- The choice that an object of one member makes: its value must be null. -/
def projectVariant (names : List String) : Members → Except Mismatch Value
  | [(name, v)] =>
    if name ∈ names then
      match v with
      | .null => .ok (.string name)
      | v => .error (.wrongType v.found "unit")
    else .error (.unknownVariant name names)
  | _ => .error (.wrongValue .object "map with a single key")

mutual

/-- The projection of a value by a schema. -/
def Schema.project (s : Schema) : Value → Except Mismatch Value
  | .array items =>
    match s.core with
    | .list item => (projectItems item items).map .array
    | .record name _ fields =>
      (projectFields (expectedFields name fields.length) items.length 0 fields items).map .object
    | core => core.projectScalar (.array items)
  | .object members =>
    match s.core with
    | .record _ closed fields =>
      (projectMembers closed fields [] members).bind fun found =>
        (assemble fields found).map .object
    | .choice names => projectVariant names members
    | .gathered _ check => check members
    | core => core.projectScalar (.object members)
  | v => s.projectScalar v

/-- The projections of the items of a list. -/
def projectItems (item : Schema) : List Value → Except Mismatch (List Value)
  | [] => .ok []
  | v :: vs =>
    (item.project v).bind fun w => (projectItems item vs).map (w :: ·)

/-- The fields of a record given as a list of `length` items, of which `count`
have been read. -/
def projectFields (expected : String) (length count : Nat) (fields : Fields) :
    List Value → Except Mismatch Members
  | [] => (projectAbsent expected count fields).map fun _ => []
  | v :: vs =>
    match fields with
    | [] => .error (.wrongLength length "fewer elements in array")
    | (name, _, s) :: rest =>
      (s.project v).bind fun w =>
        (projectFields expected length (count + 1) rest vs).map ((name, w) :: ·)

/-- The fields of a record found among members, behind those in `found`. -/
def projectMembers (closed : Bool) (fields : Fields) (found : Members) :
    List (String × Value) → Except Mismatch Members
  | [] => .ok found
  | (name, v) :: rest =>
    match projectField closed fields found name with
    | .error m => .error m
    | .ok none => projectMembers closed fields found rest
    | .ok (some s) =>
      (s.project v).bind fun w => projectMembers closed fields (found ++ [(name, w)]) rest

end

/-! ### Taking projections apart -/

namespace Members

/-- The text of a string field, empty without one. -/
def text (ms : Members) (name : String) : String :=
  match get? ms name with
  | some (.string s) => s
  | _ => ""

/-- The text of an optional string field. -/
def text? (ms : Members) (name : String) : Option String :=
  (get? ms name).bind Value.asString?

/-- The items of a list field, none without one. -/
def items (ms : Members) (name : String) : List Value :=
  match get? ms name with
  | some (.array vs) => vs
  | _ => []

/-- The texts of an optional list of strings. -/
def texts? (ms : Members) (name : String) : Option (List String) :=
  match get? ms name with
  | some (.array vs) => some (vs.filterMap Value.asString?)
  | _ => none

/-- The value of an optional whole number. -/
def whole? (ms : Members) (name : String) : Option Int :=
  match get? ms name with
  | some (.number (.whole i)) => some i
  | _ => none

end Members

/-- The members of an object, none for any other value. -/
def Value.members : Value → Members
  | .object ms => ms
  | _ => []

/-! ### Putting members together -/

/-- A member with a string. -/
def textMember (name text : String) : Members := [(name, .string text)]

/-- A member with a string, or none. -/
def textMember? (name : String) : Option String → Members
  | some s => [(name, .string s)]
  | none => []

/-- A member with a whole number, or none. -/
def wholeMember? (name : String) : Option Int → Members
  | some i => [(name, .number (.whole i))]
  | none => []

/-- A member with a list of strings, or none. -/
def textsMember? (name : String) : Option (List String) → Members
  | some ss => [(name, .array (ss.map .string))]
  | none => []

/-- A member with a list; an empty list is left out. -/
def listMember {α : Type} (name : String) (write : α → Value) : List α → Members
  | [] => []
  | xs => [(name, .array (xs.map write))]

end SbomGate.Json
