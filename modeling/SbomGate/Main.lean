import SbomGate.Server.Launch
/-!
# SbomGate.Main

The **program**: it takes arguments and environment from the outside, and
writes out what the plan of a launch comes to.

The program has no sockets at hand. A launch that gets as far as its address
therefore ends there, as it does on a system that refuses the address.
-/

namespace SbomGate.Program

/-- The variables that a launch looks at. -/
def variableNames : List String :=
  CommandLine.Key.all.map (·.envName) ++ [Server.filterVariable]

/-- Why no address can be listened on. -/
def noSockets : String := "Function not implemented (os error 38)"

/-- The outcome of a command line in an environment of names and values. -/
def outcome (arguments : List String) (environment : List (String × String)) : Server.Outcome :=
  match Server.plan arguments (environment.lookup ·) with
  | .ok plan => plan.outcome (.error noSockets)
  | .error outcome => outcome

/-- The variables of the environment that the program looks at, those that are set. -/
def environment : IO (List (String × String)) :=
  variableNames.filterMapM fun name => do
    return (← IO.getEnv name).map fun value => (name, value)

/-- Writes an outcome and answers its exit code. -/
def report (o : Server.Outcome) : IO UInt32 := do
  IO.print o.stdout
  for e in o.log do
    IO.println e.line
  IO.eprint o.stderr
  return UInt32.ofNat o.code

end SbomGate.Program

/-- The program: settles what becomes of its arguments and reports it. -/
def main (arguments : List String) : IO UInt32 := do
  SbomGate.Program.report (SbomGate.Program.outcome arguments (← SbomGate.Program.environment))
