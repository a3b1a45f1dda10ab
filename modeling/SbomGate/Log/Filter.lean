import SbomGate.Text.Blank
import SbomGate.Text.Numeral
import SbomGate.Text.Word
/-!
# SbomGate.Log.Filter

**Filters of the log**: which events are written.

A filter is a list of directives with commas between them. Each gives a level
for the events of a target, and the most specific directive that fits an event
decides. A directive may also name a span or the values of fields; such a one
says nothing about events outside of all spans.
-/

namespace SbomGate.Log

/-- How much is written, from nothing to everything. -/
inductive Level
  | off
  | error
  | warn
  | info
  | debug
  | trace
  deriving DecidableEq, Repr

namespace Level

/-- All levels, from the one that lets nothing through to the one that lets everything through. -/
def all : List Level := [off, error, warn, info, debug, trace]

/-- The name of a level in lower case. -/
def name : Level → String
  | off => "off"
  | error => "error"
  | warn => "warn"
  | info => "info"
  | debug => "debug"
  | trace => "trace"

/-- The place of a level in the order. -/
def rank : Level → Nat
  | off => 0
  | error => 1
  | warn => 2
  | info => 3
  | debug => 4
  | trace => 5

/-- The level that a text names by its number or by its name, in whatever case;
an empty text names the level of errors. -/
def ofText? (s : String) : Option Level :=
  match Text.readWord s with
  | .ok n => all.find? (·.rank = n.toNat)
  | .error _ =>
    if s.isEmpty then some error
    else all.find? (·.name = String.ofList (s.toList.map Char.toLower))

end Level

/-- An event. -/
structure Event where
  /-- Where it comes from. -/
  target : String
  level : Level
  message : String
  /-- What is known about it. -/
  fields : List (String × String)
  deriving DecidableEq, Repr

/-- The name of a level in upper case. -/
def Level.label (l : Level) : String := String.ofList (l.name.toList.map Char.toUpper)

/-- An event as a line of the log, without its time. -/
def Event.line (e : Event) : String :=
  e.level.label ++ " " ++ e.target ++ ": " ++ e.message ++
    String.join (e.fields.map fun f => " " ++ f.1 ++ "=" ++ f.2)

/-- A directive. -/
structure Directive where
  level : Level
  /-- What targets start with. -/
  target : Option String
  /-- The span it is about. -/
  span : Option String
  /-- The fields that events must have, and whether a value is asked for. -/
  fields : List (String × Bool)
  deriving DecidableEq, Repr

/-! ### Reading directives -/

/-- What has been read of a directive; positions are those of its parts. -/
inductive Progress
  /-- Nothing. -/
  | start
  /-- A part of a level or target. -/
  | word (origin : Nat)
  /-- A part of the name of a span. -/
  | span (origin : Nat)
  /-- A part of a field. -/
  | field (origin : Nat)
  /-- All fields. -/
  | fields
  /-- A target or span to its end. -/
  | subject
  /-- A part of a level. -/
  | level (origin : Nat)
  deriving DecidableEq, Repr

/-- The characters from the offset `i` up to the offset `j`. -/
def cut (cs : List Char) (i j : Nat) : String := String.ofList ((cs.drop i).take (j - i))

/-- Whether a directive may start with a character: ASCII that is no letter,
digit, dash, colon or underscore is refused. -/
def canStart (c : Char) : Bool :=
  c.isAlphanum || c = '-' || c = ':' || c = '_' || 0x80 ≤ c.toNat

/-- A field and whether a value is asked for. -/
def readField? (s : String) : Option (String × Bool) :=
  if s.isEmpty then none
  else some (String.ofList (s.toList.takeWhile (· ≠ '=')), s.toList.contains '=')

/-- A directive with one more field. -/
def Directive.addField? (d : Directive) (s : String) : Option Directive :=
  (readField? s).map fun f => { d with fields := d.fields ++ [f] }

/-- The directive and the progress behind the character `c` at position `i` of
the text `cs`. -/
def Progress.next? (cs : List Char) (i : Nat) (c : Char) (d : Directive) :
    Progress → Option (Directive × Progress)
  | start =>
    if c = '[' then some (d, span (i + 1)) else if canStart c then some (d, word i) else none
  | word k =>
    if c = '=' then some ({ d with target := some (cut cs k i) }, level (i + 1))
    else if c = '[' then some ({ d with target := some (cut cs k i) }, span (i + 1))
    else some (d, word k)
  | span k =>
    if c = ']' then some ({ d with span := some (cut cs k i) }, subject)
    else if c = '\x7b' then
      some ({ d with span := if k = i then none else some (cut cs k i) }, field (i + 1))
    else some (d, span k)
  | field k =>
    if c = '\x7d' then (d.addField? (cut cs k i)).map fun d => (d, fields) else some (d, field k)
  | fields => if c = ']' then some (d, subject) else none
  | subject => if c = '=' then some (d, level (i + 1)) else none
  | level k => some (d, level k)

/-- The directive and the progress behind further characters. -/
def Progress.run? (cs : List Char) (i : Nat) (d : Directive) (p : Progress) :
    List Char → Option (Directive × Progress)
  | [] => some (d, p)
  | c :: rest => (p.next? cs i c d).bind fun r => run? cs (i + 1) r.1 r.2 rest

/-- The directive at the end of its text. A word that is no level is a target,
of which everything is written. -/
def Progress.finish? (cs : List Char) (d : Directive) : Progress → Option Directive
  | word k =>
    let s := cut cs k cs.length
    match Level.ofText? s with
    | some l => some { d with level := l, target := none }
    | none => some { d with level := .trace, target := some s }
  | level k =>
    let s := cut cs k cs.length
    if s.isEmpty then some { d with level := .trace }
    else (Level.ofText? s).map fun l => { d with level := l }
  | subject => some d
  | start | span _ | field _ | fields => none

/-- The directive that a text spells. Blanks around it are not looked at, but
they count where its parts are cut out. -/
def Directive.ofText? (s : String) : Option Directive :=
  let cs := s.toList
  let front := cs.dropWhile Text.isBlank
  let inner := (front.reverse.dropWhile Text.isBlank).reverse
  (Progress.run? cs 0 ⟨.trace, none, none, []⟩ .start inner).bind fun r => r.2.finish? cs r.1

/-! ### Filters -/

/-- A filter. -/
structure Filter where
  directives : List Directive
  deriving DecidableEq, Repr

namespace Filter

/-- The filter that a text spells; empty directives are dropped. -/
def ofText? (s : String) : Option Filter :=
  (((Text.splitAtChar ',' s.toList).filter (!·.isEmpty)).mapM fun piece =>
    Directive.ofText? (String.ofList piece)).map Filter.mk

/-- Whether a directive says something about events outside of all spans. -/
def isStatic (d : Directive) : Bool := d.span.isNone && d.fields.all (!·.2)

/-- Whether a directive is about an event. -/
def fits (e : Event) (d : Directive) : Bool :=
  isStatic d && (d.target.all fun t => e.target.startsWith t) &&
    d.fields.all fun f => (e.fields.map (·.1)).contains f.1 || f.1 = "message"

/-- How specific a directive is: a long target before a short one before none,
then many fields before few. -/
def specificity (d : Directive) : Nat × Nat :=
  ((d.target.map fun t => t.utf8ByteSize + 1).getD 0, d.fields.length)

/-- Whether the second of two directives that fit an event decides it; of two
that are equally specific the one with the later names does, and of equals the
later one. -/
def yields (a b : Directive) : Bool :=
  let s := specificity a
  let t := specificity b
  s.1 < t.1 || (s.1 = t.1 && (s.2 < t.2 || (s.2 = t.2 &&
    !(decide (b.fields.map (·.1) < a.fields.map (·.1))))))

/-- The directive that decides an event. -/
def decisive? (f : Filter) (e : Event) : Option Directive :=
  (f.directives.filter (fits e)).foldl
    (fun best d =>
      match best with
      | some b => if yields b d then some d else some b
      | none => some d)
    none

/-- Whether an event is written. A filter without directives lets errors
through. -/
def passes (f : Filter) (e : Event) : Bool :=
  if f.directives.isEmpty then e.level.rank ≤ Level.error.rank
  else (f.decisive? e).any fun d => e.level.rank ≤ d.level.rank

end Filter

end SbomGate.Log
