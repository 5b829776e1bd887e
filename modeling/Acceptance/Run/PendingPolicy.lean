import Acceptance.Text.Blank
import Acceptance.Text.CaseFold

/-!
# Whether pending scenarios fail

A scenario that meets a step without definition is skipped, unless it is to fail. That is decided by a
setting of the running process, or without one by a variable of its environment.
-/

set_option autoImplicit false

namespace Acceptance

/-- The setting of the process and the value of the environment variable, where there are such. -/
structure PendingPolicy where
  setting : Option Bool := none
  environment : Option String := none
  deriving DecidableEq, Repr

namespace PendingPolicy

/-- The truth value that a text spells, up to letter case and the blanks around it. -/
def readSwitch (text : String) : Option Bool :=
  let word := Text.lowered (Text.trimmed text)
  if word ∈ ["1", "true", "yes", "on"] then some true
  else if word ∈ ["0", "false", "no", "off"] then some false
  else none

/-- Whether pending scenarios fail. A variable that spells no truth value does not count. -/
def failOnPending (p : PendingPolicy) : Bool :=
  (p.setting.or (p.environment.bind readSwitch)).getD false

end PendingPolicy

end Acceptance
