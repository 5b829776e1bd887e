import Acceptance.Log
import Acceptance.Text.CaseFold

/-!
# The level of the log

How much of the log a command shows. The environment may set the level, and an option of the command line
overrides it; a level that the environment sets has to be valid all the same.
-/

set_option autoImplicit false

namespace Acceptance

/-- A text that is no level of the log. -/
structure LogLevelFault where
  text : String
  deriving DecidableEq, Repr

/-- What is said about the fault. -/
def LogLevelFault.message (fault : LogLevelFault) : String :=
  "invalid configuration: unknown log level '" ++ fault.text ++
    "', expected one of: trace, debug, info, warn, error"

namespace LogLevel

/-- The level that a text names, in any letter case. Only ASCII letters make up the names, and no other
character has one of these for its small form. -/
def read (text : String) : Except LogLevelFault LogLevel :=
  let name := Text.lowered text
  if name = "trace" then .ok trace
  else if name = "debug" then .ok debug
  else if name = "info" then .ok info
  else if name = "warn" || name = "warning" then .ok warn
  else if name = "error" then .ok error
  else .error ⟨text⟩

/-- The level in force, given what the environment sets and what the command line does. -/
def effective (environment : Option String) (option : Option LogLevel) :
    Except LogLevelFault LogLevel :=
  match environment with
  | none => .ok (option.getD warn)
  | some text =>
    match read text with
    | .error fault => .error fault
    | .ok level => .ok (option.getD level)

end LogLevel

end Acceptance
