import SbomGate.Binary64.Basic
/-!
# SbomGate.Json.Value

**JSON values** and their canonical form.

Design points:

* A number is a whole number or a double, and the two stay apart: `1` and
  `1.0` are different numbers with different texts.
* The members of an object are a list. A value read from text is *canonical*:
  its members stand in strictly increasing order of their names, which is the
  byte order of the UTF-8 spellings. Values assembled for writing may use any
  order, and the printer keeps it.
* `ofMembers` is the one place that gives a meaning to repeated names: the
  last member wins.
-/

namespace SbomGate.Json

/-- A JSON number. -/
inductive Number
  /-- A whole number, written without fraction and exponent. -/
  | whole (i : Int)
  /-- Every other number. -/
  | real (x : Binary64)
  deriving DecidableEq

/-- Whole numbers are those of a signed or an unsigned 64-bit word. -/
def Number.InRange : Number → Prop
  | whole i => -0x8000000000000000 ≤ i ∧ i < 0x10000000000000000
  | real _ => True

instance (n : Number) : Decidable n.InRange := by
  cases n <;> unfold Number.InRange <;> infer_instance

/-- A JSON value. -/
inductive Value
  /-- `null` -/
  | null
  /-- `true` or `false` -/
  | bool (b : Bool)
  /-- A number. -/
  | number (n : Number)
  /-- A string. -/
  | string (s : String)
  /-- An array. -/
  | array (items : List Value)
  /-- An object; a canonical one lists its members by increasing name. -/
  | object (members : List (String × Value))

namespace Value

mutual

/-- Equality of values can be decided. -/
protected def decEq (a b : Value) : Decidable (a = b) :=
  match a, b with
  | null, null => isTrue rfl
  | bool a, bool b => if h : a = b then isTrue (by rw [h]) else isFalse (by simp [h])
  | number a, number b => if h : a = b then isTrue (by rw [h]) else isFalse (by simp [h])
  | string a, string b => if h : a = b then isTrue (by rw [h]) else isFalse (by simp [h])
  | array a, array b =>
    match Value.decEqItems a b with
    | isTrue h => isTrue (by rw [h])
    | isFalse h => isFalse (by simp [h])
  | object a, object b =>
    match Value.decEqMembers a b with
    | isTrue h => isTrue (by rw [h])
    | isFalse h => isFalse (by simp [h])
  | null, bool _ | null, number _ | null, string _ | null, array _ | null, object _
  | bool _, null | bool _, number _ | bool _, string _ | bool _, array _ | bool _, object _
  | number _, null | number _, bool _ | number _, string _ | number _, array _
  | number _, object _ | string _, null | string _, bool _ | string _, number _
  | string _, array _ | string _, object _ | array _, null | array _, bool _
  | array _, number _ | array _, string _ | array _, object _ | object _, null
  | object _, bool _ | object _, number _ | object _, string _ | object _, array _ =>
    isFalse (by simp)

/-- Equality of item lists can be decided. -/
protected def decEqItems (a b : List Value) : Decidable (a = b) :=
  match a, b with
  | [], [] => isTrue rfl
  | x :: xs, y :: ys =>
    match Value.decEq x y, Value.decEqItems xs ys with
    | isTrue h, isTrue t => isTrue (by rw [h, t])
    | isFalse h, _ => isFalse (by simp [h])
    | _, isFalse t => isFalse (by simp [t])
  | [], _ :: _ | _ :: _, [] => isFalse (by simp)

/-- Equality of member lists can be decided. -/
protected def decEqMembers (a b : List (String × Value)) : Decidable (a = b) :=
  match a, b with
  | [], [] => isTrue rfl
  | (k, x) :: xs, (l, y) :: ys =>
    if hk : k = l then
      match Value.decEq x y, Value.decEqMembers xs ys with
      | isTrue h, isTrue t => isTrue (by rw [hk, h, t])
      | isFalse h, _ => isFalse (by simp [h])
      | _, isFalse t => isFalse (by simp [t])
    else isFalse (by simp [hk])
  | [], _ :: _ | _ :: _, [] => isFalse (by simp)

end

instance : DecidableEq Value := Value.decEq

instance : Inhabited Value := ⟨null⟩

end Value

/-- The members of an object, in some order. -/
abbrev Members := List (String × Value)

namespace Members

/-- The member named `name`, if there is one; the first, should there be
several. -/
def get? (ms : Members) (name : String) : Option Value :=
  match ms with
  | [] => none
  | (k, v) :: rest => if k = name then some v else get? rest name

@[simp] theorem get?_nil (name : String) : get? [] name = none := rfl

@[simp] theorem get?_cons (k : String) (v : Value) (ms : Members) (name : String) :
    get? ((k, v) :: ms) name = if k = name then some v else get? ms name := rfl

/-- Puts a member at its place by name; a member of that name is replaced. -/
def insert (name : String) (value : Value) : Members → Members
  | [] => [(name, value)]
  | (k, v) :: rest =>
    if name < k then (name, value) :: (k, v) :: rest
    else if name = k then (name, value) :: rest
    else (k, v) :: insert name value rest

theorem get?_insert (name : String) (value : Value) (ms : Members) (other : String) :
    get? (insert name value ms) other =
      if name = other then some value else get? ms other := by
  induction ms with
  | nil => simp [insert]
  | cons m ms ih =>
    obtain ⟨k, v⟩ := m
    simp only [insert]
    split
    · simp
    · split
      · rename_i h; subst h; simp only [get?_cons]; split <;> rfl
      · rename_i h
        simp only [get?_cons, ih]
        by_cases hk : k = other
        · have : name ≠ other := fun e => h (e.trans hk.symm)
          simp [hk, this]
        · simp [hk]

/-- The members in order of their names; of several with one name the last
stays. -/
def sort (ms : Members) : Members := ms.foldl (fun acc m => insert m.1 m.2 acc) []

/-- Names stand in strictly increasing order. -/
def Sorted (ms : Members) : Prop := ms.Pairwise fun a b => a.1 < b.1

end Members

namespace Value

/-- The member of an object named `name`. -/
def member? (v : Value) (name : String) : Option Value :=
  match v with
  | object ms => Members.get? ms name
  | _ => none

/-- The text of a string value. -/
def asString? : Value → Option String
  | string s => some s
  | _ => none

/-- The items of an array value. -/
def asArray? : Value → Option (List Value)
  | array items => some items
  | _ => none

/-- Whether the value is an object. -/
def isObject : Value → Bool
  | object _ => true
  | _ => false

/-- The name of the value's kind, as messages call it. -/
def kindName : Value → String
  | null => "null"
  | bool _ => "boolean"
  | number _ => "number"
  | string _ => "string"
  | array _ => "array"
  | object _ => "object"

mutual

/-- The canonical form: the members of every object sorted by name, the last
of several with one name kept. -/
def canonical : Value → Value
  | null => null
  | bool b => bool b
  | number n => number n
  | string s => string s
  | array items => array (canonicalItems items)
  | object members => object (Members.sort (canonicalMembers members))

/-- `canonical` on the items of an array. -/
def canonicalItems : List Value → List Value
  | [] => []
  | v :: vs => canonical v :: canonicalItems vs

/-- `canonical` on the member values of an object. -/
def canonicalMembers : List (String × Value) → List (String × Value)
  | [] => []
  | (k, v) :: ms => (k, canonical v) :: canonicalMembers ms

end

mutual

/-- How deep arrays and objects nest in a value. -/
def depth : Value → Nat
  | null => 0
  | bool _ => 0
  | number _ => 0
  | string _ => 0
  | array items => depthItems items + 1
  | object members => depthMembers members + 1

/-- The greatest depth among items. -/
def depthItems : List Value → Nat
  | [] => 0
  | v :: vs => max (depth v) (depthItems vs)

/-- The greatest depth among member values. -/
def depthMembers : List (String × Value) → Nat
  | [] => 0
  | (_, v) :: ms => max (depth v) (depthMembers ms)

end

end Value

end SbomGate.Json
