import Acceptance.Keyword
import Acceptance.Table
import Acceptance.Text.Decimal
import Acceptance.Text.Quoted

/-!
# What a step does

A step definition has a callback. It sees the step and what the pattern captured, works on a world, and
leaves the world together with how it ended. A callback that panics still leaves the world as it was at
that moment. `Context.read` is how callbacks turn captures into values.
-/

set_option autoImplicit false

namespace Acceptance

/-- A step as it stands in a document: its keyword, its text, and the multiline block or the table that
is attached to it. -/
structure StepText where
  keyword : Keyword
  text : String
  multilines : Option (List String) := none
  table : Option Table := none
  deriving DecidableEq, Repr

namespace StepText

/-- The step on one line. -/
def display (s : StepText) : String :=
  s.keyword.name ++ " " ++ s.text

/-- The multiline block as one text, in which every line ends with a line feed. -/
def multiline (s : StepText) : Option String :=
  s.multilines.map fun lines => String.join (lines.map (· ++ "\n"))

end StepText

/-- What a panic carries. -/
inductive PanicPayload where
  | text (message : String)
  | integer (value : Int)
  /-- A value of a type that cannot be shown. -/
  | unknown
  deriving DecidableEq, Repr

/-- What is said about a panic. -/
def PanicPayload.message : PanicPayload → String
  | text message => message
  | integer value => toString value
  | unknown => "Any { .. }"

/-- Why a step did not pass. -/
inductive StepError where
  /-- An expectation did not hold. -/
  | assertion (reason : String)
  /-- The callback panicked. -/
  | panic (reason : String)
  | other (reason : String)
  /-- The step has no definition. -/
  | undefined (step : String)
  deriving DecidableEq, Repr

namespace StepError

/-- What is said about it. -/
def message : StepError → String
  | assertion reason | other reason => reason
  | panic reason => "step panicked: " ++ reason
  | undefined step => "undefined step: " ++ step

/-- Whether it is a failure of what was tested and not an error. -/
def isFailure : StepError → Bool
  | assertion _ | panic _ => true
  | other _ | undefined _ => false

end StepError

/-- How a callback ends. -/
inductive Ending where
  | passed
  | failed (error : StepError)
  | panicked (payload : PanicPayload)
  deriving DecidableEq, Repr

/-- The ending as a result, where a panic is a failure like any other. -/
def Ending.toExcept : Ending → Except StepError Unit
  | passed => .ok ()
  | failed error => .error error
  | panicked payload => .error (.panic payload.message)

/-- What a callback sees besides the world: the step, and what its pattern captured. -/
structure Context where
  step : StepText
  args : List String
  deriving DecidableEq, Repr

/-- What a step does to a world of type `W`. -/
abbrev Callback (W : Type) : Type := Context → W → W × Ending

namespace Context

/-- The capture with a number, counted from zero. -/
def arg? (c : Context) (index : Nat) : Option String :=
  c.args[index]?

/-- The value of a capture. A capture that is missing or cannot be read is a failed expectation. -/
def read {α : Type} (c : Context) (reader : String → Except String α) (index : Nat) :
    Except StepError α :=
  match c.arg? index with
  | none => .error (.assertion ("missing capture " ++ toString index))
  | some raw =>
    match reader raw with
    | .ok value => .ok value
    | .error reason =>
      .error (.assertion ("cannot parse capture " ++ toString index ++ " (" ++ Text.quote raw ++
        "): " ++ reason))

end Context

/-- Read an integer of a range. -/
def readInteger (range : Text.IntegerRange) (text : String) : Except String Int :=
  (range.read text).mapError Text.IntegerFault.message

/-- Read a truth value. -/
def readBool (text : String) : Except String Bool :=
  if text = "true" then .ok true
  else if text = "false" then .ok false
  else .error "provided string was not `true` or `false`"

/-- Read a step keyword. -/
def readKeyword (text : String) : Except String Keyword :=
  (Keyword.read text).mapError KeywordFault.message

end Acceptance
