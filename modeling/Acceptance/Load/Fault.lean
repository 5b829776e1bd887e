import Acceptance.Document.Parser
import Acceptance.Outline

/-!
# Why a document cannot be loaded

The causes that end the loading of a document. No part of a document is kept when one of them arises.
-/

set_option autoImplicit false

namespace Acceptance

/-- Why a document cannot be loaded. -/
inductive LoadFault where
  /-- It does not follow the grammar, or cannot be read. -/
  | parse (fault : ParseFault)
  /-- A step as it is written matches several definitions. -/
  | ambiguous (a : Ambiguity)
  /-- A table row does not fit the keys of its table. -/
  | uneven (row : UnevenRow)
  /-- A row of examples cannot be expanded. -/
  | expansion (fault : ExpansionFault)
  /-- A setting of the configuration cannot begin an identifier. -/
  | invalidConfig (setting value : String)
  /-- The file at the path cannot be opened. -/
  | cannotOpen (path reason : String)
  deriving DecidableEq, Repr

namespace LoadFault

/-- What is said about the fault. -/
def message : LoadFault → String
  | parse fault => fault.message
  | ambiguous a => a.message
  | expansion fault => fault.message
  | uneven row => row.message
  | invalidConfig setting value =>
    "invalid loader configuration: " ++ setting ++ " " ++ Text.quote value ++
      " is not an identifier prefix"
  | cannotOpen path reason => "cannot open " ++ path ++ ": " ++ reason

/-- What is said about the fault, and then about the cause behind it if a system beyond this library
reported one. -/
def chain : LoadFault → List String
  | .parse (.unreadable source reason) => [message (.parse (.unreadable source reason)), reason]
  | .cannotOpen path reason => [message (.cannotOpen path reason), reason]
  | .expansion (.substitution fault) => [fault.message, fault.cause.message]
  | fault => [fault.message]

end LoadFault

end Acceptance
