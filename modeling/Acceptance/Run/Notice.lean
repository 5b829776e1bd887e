import Acceptance.Step.Callback
import Acceptance.Suite

/-!
# Notices

What a run reports, in order: when test cases and steps begin and end, and what became of them. Whoever
wants results folds over the notices.
-/

set_option autoImplicit false

namespace Acceptance

/-- What ends a scenario early. -/
inductive Halt where
  /-- There is nothing to run. -/
  | skip (reason : String)
  /-- Steps without definition were met. -/
  | pending (steps : List String)
  /-- A step did not pass. The index counts the steps of its own block from zero. -/
  | stepFailed (index : Nat) (keyword : Keyword) (text : String) (error : StepError)
  deriving DecidableEq, Repr

namespace Halt

/-- What is said about it. -/
def message : Halt → String
  | skip reason => reason
  | pending steps =>
    "pending " ++ toString steps.length ++ " step(s): [" ++
      ", ".intercalate (steps.map fun s => "<" ++ s ++ ">") ++ "]"
  | stepFailed index keyword text error =>
    "step " ++ toString index ++ " `" ++ keyword.name ++ " " ++ text ++ "` failed: " ++ error.message

/-- Whether the scenario counts as skipped. -/
def isSkip : Halt → Bool
  | skip _ | pending _ => true
  | stepFailed _ _ _ _ => false

/-- Whether the scenario counts as failed. -/
def isFailure : Halt → Bool
  | stepFailed _ _ _ error => error.isFailure
  | skip _ | pending _ => false

/-- Why there was nothing to run. -/
def skipReason? : Halt → Option String
  | skip reason => some reason
  | pending _ | stepFailed _ _ _ _ => none

end Halt

/-- The step that a notice is about. -/
structure StepInfo where
  keyword : Keyword
  text : String
  deriving DecidableEq, Repr

namespace StepInfo

/-- The step on one line. -/
def display (s : StepInfo) : String :=
  s.keyword.name ++ " " ++ s.text

end StepInfo

/-- What notices say of a step. -/
def StepText.info (s : StepText) : StepInfo :=
  ⟨s.keyword, s.text⟩

/-- One report about a run. -/
inductive Notice where
  | startTest (test : TestInfo)
  | stopTest (test : TestInfo)
  | success (test : TestInfo)
  | failure (test : TestInfo) (halt : Halt)
  | error (test : TestInfo) (halt : Halt)
  | skip (test : TestInfo) (reason : String)
  | startStep (step : StepInfo)
  | stopStep (step : StepInfo)
  | stepSuccess (step : StepInfo)
  | stepFailure (step : StepInfo) (reason : StepError)
  | stepError (step : StepInfo) (reason : StepError)
  | stepUndefined (step : StepInfo)
  deriving DecidableEq, Repr

end Acceptance
