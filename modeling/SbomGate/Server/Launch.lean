import SbomGate.CommandLine.Reader
import SbomGate.Gate.Router
import SbomGate.Log.Filter
/-!
# SbomGate.Server.Launch

The **start and the end of a server**: from arguments and environment to
settings, from settings to a gate and an address to listen on, and what is
said on the way.

Nothing here touches the outside. Whether the address can be listened on and
which signal arrives is told to `Plan.outcome`; what that answers is for an
outer layer to print.
-/

namespace SbomGate.Server

open Log

/-- How a program ends. -/
structure Outcome where
  code : Nat
  /-- What it writes to the standard output, apart from the log. -/
  stdout : String
  /-- What it writes to the standard error. -/
  stderr : String
  /-- What it writes to the log. -/
  log : List Event
  deriving DecidableEq

/-! ### Reports of errors -/

/-- A text whose further lines are indented. -/
def indent (margin s : String) : String :=
  String.ofList (s.toList.flatMap fun c => if c = '\n' then '\n' :: margin.toList else [c])

/-- A cause in a list of several, by its number. -/
def numberedCause (n : Nat) (s : String) : String :=
  let digits := toString n
  String.ofList (List.replicate (5 - digits.length) ' ') ++ digits ++ ": " ++ indent "       " s

/-- The lines on the causes of an error. -/
def causeLines : List String → String
  | [] => ""
  | [s] => "\n\nCaused by:\n    " ++ indent "    " s
  | causes =>
    "\n\nCaused by:" ++
      String.join ((causes.zipIdx).map fun c => "\n" ++ numberedCause c.2 c.1)

/-- The outcome of an error with its causes. -/
def failure (text : String) (causes : List String) : Outcome :=
  ⟨1, "", "Error: " ++ text ++ causeLines causes ++ "\n", []⟩

/-- The outcome of a command line that gives no settings. -/
def commandLineOutcome (e : CommandLine.Error) : Outcome :=
  if e.isMistake then ⟨2, "", e.render, []⟩ else ⟨0, e.render, "", []⟩

/-- The outcome of settings that are refused. -/
def settingsOutcome (f : Settings.Fault) : Outcome :=
  failure "invalid settings" (f.message :: f.cause?.toList)

/-! ### Plans -/

/-- What a server is going to do. -/
structure Plan where
  /-- The filter of its log. -/
  filter : Filter
  /-- The URL it is reached at. -/
  apiUrl : String
  /-- The address to listen on. -/
  address : Net.SocketAddress
  /-- How the keys are cached. -/
  cache : Config.Cache
  /-- Whose tokens are accepted. -/
  verifier : Config.Verifier
  /-- The greatest length of a body. -/
  bodyLimit : Nat
  deriving DecidableEq

/-- The filter of the log: the one of the environment if it can be read, else
the one of the settings, else information of all kinds. -/
def filterOf (override : Option String) (logLevel : String) : Filter :=
  ((override.bind Filter.ofText?).or (Filter.ofText? logLevel)).getD
    ⟨[⟨.info, none, none, []⟩]⟩

/-- The variable of the environment that holds a filter. -/
def filterVariable : String := "RUST_LOG"

/-- The plan that follows from settings. -/
def planOf (filter : Filter) (s : Settings) : Except Outcome Plan := do
  s.validate.mapError settingsOutcome
  let cache ← s.cacheConfig.mapError fun f => failure f.message []
  let verifier ← s.verifierConfig.mapError fun f => failure f.message []
  return { filter, apiUrl := s.apiUrl, address := s.bindAddress, cache, verifier,
           bodyLimit := s.bodyLimit.toNat }

/-- The plan of a command line and an environment, or the outcome without
one. -/
def plan (arguments : List String) (lookup : String → Option String) : Except Outcome Plan := do
  let settings ← (CommandLine.readSettings arguments lookup).mapError commandLineOutcome
  planOf (filterOf (lookup filterVariable) settings.logLevel) settings

/-- The gate that a server opens, with the source it fetches keys from; none
for a cache that would keep keys too long. -/
def Plan.gate? (p : Plan) (source : Keys.Source) : Option Gate :=
  (Keys.Cache.empty? p.cache).map fun cache =>
    { verifier := p.verifier, store := ⟨source, cache, false⟩, sink := .accepting,
      bodyLimit := p.bodyLimit }

/-! ### Outcomes -/

/-- The signals that end a server. -/
inductive Signal
  /-- The interrupt from a terminal. -/
  | interrupt
  /-- The wish that the program end. -/
  | terminate
  deriving DecidableEq, Repr

/-- The name of a signal. -/
def Signal.name : Signal → String
  | interrupt => "SIGINT"
  | terminate => "SIGTERM"

/-- What the events of a server have in common. -/
def event (message : String) (fields : List (String × String)) : Event :=
  ⟨"pg_atlas", .info, message, fields⟩

/-- The events from the start to the end that a signal brings. -/
def Plan.events (p : Plan) (s : Signal) : List Event :=
  [event "PG Atlas starting up"
      [("api_url", p.apiUrl), ("addr", p.address.text),
        ("version", "\"" ++ CommandLine.programVersion ++ "\"")],
    event ("Received " ++ s.name) [], event "PG Atlas shutting down" []]

/-- The outcome of a plan whose address cannot be listened on. -/
def Plan.unbound (p : Plan) (reason : String) : Outcome :=
  failure ("failed to bind " ++ p.address.text) [reason]

/-- The outcome of a server that a signal ends. -/
def Plan.ended (p : Plan) (s : Signal) : Outcome :=
  ⟨0, "", "", (p.events s).filter p.filter.passes⟩

/-- The outcome of a plan whose cache would keep keys too long. -/
def overlong : Outcome := ⟨101, "", "time_to_live is longer than 1000 years\n", []⟩

/-- The outcome of a plan: either the address cannot be listened on for some
reason, or a signal ends the server. -/
def Plan.outcome (p : Plan) (bound : Except String Signal) : Outcome :=
  match p.gate? .empty, bound with
  | none, _ => overlong
  | some _, .error reason => p.unbound reason
  | some _, .ok s => p.ended s

end SbomGate.Server
