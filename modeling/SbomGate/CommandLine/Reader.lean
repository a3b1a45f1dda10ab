import SbomGate.CommandLine.Error
import SbomGate.Settings.Basic
/-!
# SbomGate.CommandLine.Reader

**Settings from a command line** and the environment.

Arguments are read in order. The value of an option is its second half behind
an equals sign or the next argument, unless that starts with a dash; it is
looked at once the next option begins, so a mistake in it can be overtaken by
an argument that is not known at all. Then the environment fills in what is
not given, and defaults fill in the rest.
-/

namespace SbomGate.CommandLine

/-- The settings that have been given. -/
structure Draft where
  /-- The URL of the server. -/
  apiUrl : Option String
  /-- How long a key set is kept. -/
  cacheTtl : Option UInt64
  /-- How long fetching a key set may take. -/
  fetchTimeout : Option UInt64
  /-- The filter of the log. -/
  logLevel : Option String
  /-- The address to listen on. -/
  bindAddress : Option Net.SocketAddress
  /-- The greatest length of a body. -/
  bodyLimit : Option UInt64
  databaseUrl : Option String
  /-- The options that have been given, in order. -/
  given : List Key

namespace Draft

/-- The draft before the first argument. -/
def empty : Draft := ⟨none, none, none, none, none, none, none, []⟩

/-- The parameters that have been given. -/
def parameters (d : Draft) : List Parameter := d.given.map .option

/-- A number as the value of an option. -/
def wordOf (k : Key) (value : String) : Except Error UInt64 :=
  (Text.readWord value).mapError fun f => .badValue k value (.word f)

/-- A socket address as the value of an option. -/
def addressOf (k : Key) (value : String) : Except Error Net.SocketAddress :=
  match Net.SocketAddress.ofText? value with
  | some a => .ok a
  | none => .error (.badValue k value .socketAddress)

/-- Gives a value to an option that has none yet. -/
def put (d : Draft) (k : Key) (value : String) : Except Error Draft :=
  if k ∈ d.given then .error (.repeated k)
  else
    let d := { d with given := d.given ++ [k] }
    match k with
    | .apiUrl => .ok { d with apiUrl := some value }
    | .cacheTtl => (wordOf k value).map fun n => { d with cacheTtl := some n }
    | .fetchTimeout => (wordOf k value).map fun n => { d with fetchTimeout := some n }
    | .logLevel => .ok { d with logLevel := some value }
    | .bindAddress => (addressOf k value).map fun a => { d with bindAddress := some a }
    | .bodyLimit => (wordOf k value).map fun n => { d with bodyLimit := some n }
    | .databaseUrl => .ok { d with databaseUrl := some value }

/-- Fills in options that are not given from variables. -/
def fill (lookup : String → Option String) (d : Draft) : List Key → Except Error Draft
  | [] => .ok d
  | k :: ks =>
    match if k ∈ d.given then none else lookup k.envName with
    | some value => (d.put k value).bind fun d => fill lookup d ks
    | none => fill lookup d ks

/-- The address to listen on if none is given. -/
def defaultAddress : Net.SocketAddress := .v4 [0, 0, 0, 0] 8000

/-- The greatest length of a body if none is given. -/
def defaultBodyLimit : UInt64 := 10485760

/-- The settings, with defaults for what is not given. -/
def settings (d : Draft) : Except Error Settings :=
  match d.apiUrl with
  | none => .error (.missing d.parameters)
  | some apiUrl =>
    .ok
      { apiUrl := apiUrl
        cacheTtl := d.cacheTtl.getD 3600
        fetchTimeout := d.fetchTimeout.getD 10
        logLevel := d.logLevel.getD "info"
        bindAddress := d.bindAddress.getD defaultAddress
        bodyLimit := d.bodyLimit.getD defaultBodyLimit
        databaseUrl := d.databaseUrl }

end Draft

/-! ### Arguments -/

/-- An option whose value is still open: the value may have come already. -/
abbrev Pending := Option (Key × Option String)

/-- Gives the open option its value. -/
def resolve (d : Draft) : Pending → Except Error Draft
  | none => .ok d
  | some (k, none) => .error (.valueMissing k)
  | some (k, some value) => d.put k value

/-- The parameters that count as given once the open option has its value,
whether the value is right or not; one that is given again does not count. -/
def givenAfter (d : Draft) : Pending → List Parameter
  | some (k, some _) =>
    if k ∈ d.given then (d.given.erase k).map .option else (d.given ++ [k]).map .option
  | _ => d.parameters

/-- An argument by its looks. -/
inductive Shape
  /-- Two dashes. -/
  | escape
  /-- Two dashes and a name, perhaps with a value behind an equals sign. -/
  | long (name : String) (value : Option String)
  /-- A dash and letters. -/
  | short (letters : List Char)
  /-- Anything else. -/
  | plain
  deriving DecidableEq, Repr

/-- The shape of an argument; a name ends at the first equals sign. -/
def Shape.of (argument : String) : Shape :=
  match argument.toList with
  | ['-', '-'] => .escape
  | '-' :: '-' :: cs =>
    let name := String.ofList (cs.takeWhile (· ≠ '='))
    match cs.dropWhile (· ≠ '=') with
    | [] => .long name none
    | _ :: value => .long name (some (String.ofList value))
  | ['-'] => .plain
  | '-' :: letters => .short letters
  | _ => .plain

/-- What a parameter without a value asks for. -/
def Parameter.wish : Parameter → Error
  | version => .version
  | _ => .help

/-- An argument with a name that is not known. -/
def unknownName (given : List Parameter) (name : String) : Error :=
  .unknown ("--" ++ name)
    ((Text.mostSimilar? name (Parameter.all.map Parameter.name)).bind Parameter.ofName?) given

/-- An argument with a name. Only an option that takes the next argument for
its value stays open. -/
def readLong (d : Draft) (p : Pending) (name : String) (value : Option String) :
    Except Error (Draft × Pending) :=
  match Parameter.ofName? name, value with
  | some (.option k), none => (resolve d p).map fun d => (d, some (k, none))
  | some (.option k), some value =>
    (resolve d p).bind fun d => (d.put k value).map fun d => (d, none)
  | some wish, none => (resolve d p).bind fun _ => .error wish.wish
  | some wish, some value => .error (.surplusValue wish value d.parameters)
  | none, _ => .error (unknownName (givenAfter d p) name)

/-- An argument of letters, of which the first one counts. -/
def readShort (d : Draft) (p : Pending) (letters : List Char) : Error :=
  match letters.head?.bind Parameter.ofLetter? with
  | some wish =>
    match resolve d p with
    | .ok _ => wish.wish
    | .error e => e
  | none => .unknown (String.ofList ('-' :: letters.take 1)) none []

/-- Reads arguments; behind an escape nothing is known. -/
def readArguments (d : Draft) (p : Pending) (escaped : Bool) :
    List String → Except Error Draft
  | [] => resolve d p
  | a :: rest =>
    if escaped then .error (.unknown a none [])
    else
      match Shape.of a, p with
      | .escape, _ => readArguments d p true rest
      | .long name value, _ =>
        (readLong d p name value).bind fun r => readArguments r.1 r.2 false rest
      | .short letters, _ => .error (readShort d p letters)
      | .plain, some (k, none) => readArguments d (some (k, some a)) false rest
      | .plain, _ => .error (.unknown a none [])

/-- The settings of a command line, which variables complete. -/
def readSettings (arguments : List String) (lookup : String → Option String) :
    Except Error Settings := do
  let d ← readArguments .empty none false arguments
  let d ← d.fill lookup Key.all
  d.settings

end SbomGate.CommandLine
