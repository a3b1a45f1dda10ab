import SbomGate.CommandLine.Option
import SbomGate.Text.Similarity
import SbomGate.Text.Word
/-!
# SbomGate.CommandLine.Error

What a command line can **end in instead of settings**: a mistake, or the wish
for help or the version. A mistake is reported with a tip and the usage where
they are of use.
-/

namespace SbomGate.CommandLine

/-- The name that the program goes by in its help and its usage. -/
def program : String := "pg-atlas"

/-- The version that the program reports. -/
def programVersion : String := "0.1.0"

/-- What the program is for, the first line of the help. -/
def about : String :=
  "HTTP boundary of PG Atlas: health check and authenticated SBOM ingestion"

/-- Why the text of a value is refused. -/
inductive ValueFlaw
  /-- It is no number. -/
  | word (f : Text.WordFlaw)
  /-- It is no socket address. -/
  | socketAddress
  deriving DecidableEq, Repr

/-- The message of a flaw. -/
def ValueFlaw.message : ValueFlaw → String
  | word f => f.message
  | socketAddress => "invalid socket address syntax"

/-- What a command line ends in. -/
inductive Error
  /-- An option has no value. -/
  | valueMissing (k : Key)
  /-- The value of an option is refused. -/
  | badValue (k : Key) (value : String) (flaw : ValueFlaw)
  /-- An argument is none that is known; with the parameters given before. -/
  | unknown (argument : String) (similar : Option Parameter) (given : List Parameter)
  /-- An option is given twice. -/
  | repeated (k : Key)
  /-- A parameter has a value that takes none; with the parameters given
  before. -/
  | surplusValue (p : Parameter) (value : String) (given : List Parameter)
  /-- The required option is not given; with the parameters that are. -/
  | missing (given : List Parameter)
  /-- Help is wished for. -/
  | help
  /-- The version is wished for. -/
  | version
  deriving DecidableEq, Repr

namespace Error

/-- Whether the command line is at fault; a wish for the help or the version is none. -/
def isMistake : Error → Bool
  | help | version => false
  | _ => true

/-- The usage with some parameters, or with all options if there are none. -/
def usageOf (shown : List Parameter) : String :=
  let labels := ((Parameter.required :: shown).map Parameter.label).eraseDups
  "Usage: " ++ program ++ (if shown.isEmpty then " [OPTIONS]" else "") ++ " " ++
    " ".intercalate labels

/-- The parameters that the usage does not show anyway. -/
def optional (given : List Parameter) : List Parameter :=
  given.filter (· ≠ Parameter.required)

/-- The usage that goes with a mistake. -/
def usage? : Error → Option String
  | unknown _ similar given => some (usageOf (optional (given ++ similar.toList)))
  | repeated _ => some (usageOf [])
  | surplusValue p _ given => some (usageOf (optional given ++ [p]))
  | missing given => some (usageOf (given ++ [Parameter.required]))
  | valueMissing _ | badValue _ _ _ | help | version => none

/-- The tip that goes with a mistake. -/
def tip? : Error → Option String
  | unknown _ (some p) _ => some ("a similar argument exists: '--" ++ p.name ++ "'")
  | _ => none

/-- The first sentence of a report, without a hint or the usage. -/
def headline : Error → String
  | valueMissing k =>
    "a value is required for '" ++ (Parameter.option k).label ++ "' but none was supplied"
  | badValue k value flaw =>
    "invalid value '" ++ value ++ "' for '" ++ (Parameter.option k).label ++ "': " ++ flaw.message
  | unknown argument _ _ => "unexpected argument '" ++ argument ++ "' found"
  | repeated k =>
    "the argument '" ++ (Parameter.option k).label ++ "' cannot be used multiple times"
  | surplusValue p value _ =>
    "unexpected value '" ++ value ++ "' for '" ++ p.label ++ "' found; no more were expected"
  | missing _ =>
    "the following required arguments were not provided:\n  " ++ Parameter.required.label
  | help | version => ""

/-- The line of help on an option. -/
def optionHelp (k : Key) : String :=
  "      " ++ (Parameter.option k).label ++ "\n          " ++ k.purpose ++ " [env: " ++
    k.envName ++ (if k.isSecret then "]" else "=]") ++
    (match k.default? with
      | some value => " [default: " ++ value ++ "]"
      | none => "") ++ "\n"

/-- The whole of the help. -/
def helpText : String :=
  about ++ "\n\n" ++ usageOf [] ++ "\n\nOptions:\n" ++ String.join (Key.all.map optionHelp) ++
    "  -h, --help\n          Print help\n  -V, --version\n          Print version\n"

/-- The text that is shown for an error, a wish for help or version among them. -/
def render (e : Error) : String :=
  match e with
  | help => helpText
  | version => program ++ " " ++ programVersion ++ "\n"
  | _ =>
    "error: " ++ e.headline ++
      (match e.tip? with
        | some t => "\n\n  tip: " ++ t
        | none => "") ++
      (match e.usage? with
        | some u => "\n\n" ++ u
        | none => "") ++
      "\n\nFor more information, try '--help'.\n"

end Error

end SbomGate.CommandLine
