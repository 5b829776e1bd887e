import Acceptance.Run.Notice

/-!
# Running scenarios

A scenario runs the steps of its backgrounds, the farthest one first, and then its own, all on one world,
up to the first step that does not pass. A test case runs on a fresh world and reports one outcome. What
its callbacks have made of the world is given back with the notices.
-/

set_option autoImplicit false

namespace Acceptance

/-- What running something leaves: notices, the world, and what ended it early. -/
structure Run (W : Type) where
  notices : List Notice
  world : W
  halt : Option Halt

namespace Run

variable {W : Type}

/-- Go on with the world that is left, unless the run ended early. -/
def andThen (first : Run W) (second : W → Run W) : Run W :=
  match first.halt with
  | some _ => first
  | none =>
    let rest := second first.world
    { rest with notices := first.notices ++ rest.notices }

end Run

namespace Step

variable {W : Type}

/-- Call the callback of the step, if it has one. -/
def run (s : Step W) (world : W) : W × Except StepError Unit :=
  match s.binding with
  | none => (world, .error (.undefined s.display))
  | some binding =>
    let (world, ending) := binding.definition.callback ⟨s.toStepText, binding.args⟩ world
    (world, ending.toExcept)

/-- What is reported between the beginning and the end of a step. -/
def verdict (info : StepInfo) : Except StepError Unit → Notice
  | .ok () => .stepSuccess info
  | .error (.undefined _) => .stepUndefined info
  | .error reason => if reason.isFailure then .stepFailure info reason else .stepError info reason

/-- How a step ends the scenario, if it does. Only the step itself is pending, because none behind it is
reached. -/
def haltOf (s : Step W) (index : Nat) : Except StepError Unit → Option Halt
  | .ok () => none
  | .error (.undefined _) => some (.pending [s.display])
  | .error reason => some (.stepFailed index s.keyword s.text reason)

/-- Run the step that has the given index in its block. -/
def runAt (s : Step W) (index : Nat) (world : W) : Run W :=
  let (world, outcome) := s.run world
  ⟨[.startStep s.info, verdict s.info outcome, .stopStep s.info], world, s.haltOf index outcome⟩

end Step

namespace Block

variable {W : Type}

/-- Run steps in order, the first of which has the given index. -/
def runSteps (index : Nat) : List (Step W) → W → Run W
  | [], world => ⟨[], world, none⟩
  | s :: steps, world => (s.runAt index world).andThen (runSteps (index + 1) steps)

/-- Run blocks in order. -/
def runAll : List (Block W) → W → Run W
  | [], world => ⟨[], world, none⟩
  | b :: blocks, world => (runSteps 0 b.steps world).andThen (runAll blocks)

end Block

/-- The reason of a scenario without steps. -/
def noSteps : String := "no steps defined"

/-- The reason of a feature without scenarios. -/
def noScenarios : String := "no scenarios defined"

/-- Run a scenario. Without steps of its own there is nothing to run, and its backgrounds do not run
either. -/
def Scenario.run {W : Type} (s : Scenario W) (world : W) : Run W :=
  if s.steps.isEmpty then ⟨[], world, some (.skip noSteps)⟩
  else Block.runAll (s.backgrounds.reverse ++ [s.toBlock]) world

namespace TestCase

variable {W : Type}

/-- What is reported about the outcome of a test case. A pending scenario is a failure where
`failOnPending` holds, and skipped otherwise. -/
def outcome (failOnPending : Bool) (test : TestInfo) : Option Halt → Notice
  | none => .success test
  | some (.pending steps) =>
    if failOnPending then .failure test (.pending steps)
    else .skip test (Halt.pending steps).message
  | some (.skip reason) => .skip test reason
  | some halt => if halt.isFailure then .failure test halt else .error test halt

/-- Run a test case on a world. -/
def run (failOnPending : Bool) (c : TestCase W) (world : W) : Run W :=
  let ran : Run W :=
    match c.scenario with
    | some scenario => scenario.run world
    | none => ⟨[], world, some (.skip noScenarios)⟩
  { ran with
    notices := .startTest c.info :: ran.notices ++
      [outcome failOnPending c.info ran.halt, .stopTest c.info] }

end TestCase

/-- Run the test cases in order, each on a world like `fresh`. -/
def Suite.run {W : Type} (failOnPending : Bool) (fresh : W) (suite : Suite W) : List (Run W) :=
  suite.map fun c => c.run failOnPending fresh

end Acceptance
