/-!
# SbomGate.Config.Fault

Why a **configuration value** is refused.
-/

namespace SbomGate.Config

/-- Why a configuration value is refused. -/
inductive Fault
  /-- A number or a span is below its least value. -/
  | belowMinimum (field value least : String)
  /-- A text is empty. -/
  | empty (field : String)
  deriving DecidableEq, Repr

/-- The message of a fault, which names the field. -/
def Fault.message : Fault → String
  | belowMinimum field value least =>
    field ++ " must be at least " ++ least ++ " (got " ++ value ++ ")"
  | empty field => field ++ " cannot be empty"

end SbomGate.Config
