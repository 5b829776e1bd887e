import Acceptance.Step
import Acceptance.Tag.Set

/-!
# Scenarios

A block has a title, tags and steps. A scenario is a block with the backgrounds that run before it: the
background it refers to, the background of that one, and so on. A background is a scenario too, and its
tags hold for every scenario that refers to it.
-/

set_option autoImplicit false

namespace Acceptance

/-- A title, the tags in force, and steps. -/
structure Block (W : Type) where
  title : String
  tags : TagSet := ∅
  steps : List (Step W) := []

/-- A block and its backgrounds, the nearest one first. -/
structure Scenario (W : Type) extends Block W where
  backgrounds : List (Block W) := []

namespace Block

variable {W : Type}

/-- The number of steps that have a definition. -/
def definedSteps (b : Block W) : Nat :=
  b.steps.countP Step.isDefined

/-- The number of steps that have none. -/
def undefinedSteps (b : Block W) : Nat :=
  b.steps.length - b.definedSteps

/-- The block under another title, with the placeholders of its steps replaced. -/
def fill (b : Block W) (title : String) (values : Substitution) (r : Registry W) :
    Logged Ambiguity (Block W) :=
  (Logged.traverse (fun step => step.fill values r) b.steps).bind fun steps =>
    .pure { b with title := title, steps := steps }

end Block

namespace Scenario

variable {W : Type}

/-- The scenario with a title and nothing else. -/
def ofTitle (title : String) : Scenario W :=
  { title := title }

/-- The background that the scenario refers to, with the backgrounds of that one. -/
def background? (s : Scenario W) : Option (Scenario W) :=
  match s.backgrounds with
  | [] => none
  | nearest :: others => some { nearest with backgrounds := others }

/-- The scenario with more tags. -/
def withTags (s : Scenario W) (tags : TagSet) : Scenario W :=
  { s with tags := s.tags.union tags }

/-- The scenario with a background, whose tags it takes over. -/
def withBackground (s background : Scenario W) : Scenario W :=
  { s with
    tags := s.tags.union background.tags
    backgrounds := background.toBlock :: background.backgrounds }

/-- The scenario with one more step. -/
def addStep (s : Scenario W) (step : Step W) : Scenario W :=
  { s with steps := s.steps ++ [step] }

/-- All steps in the order in which they run: those of the farthest background first, the scenario's own
last. -/
def allSteps (s : Scenario W) : List (Step W) :=
  s.backgrounds.reverse.flatMap Block.steps ++ s.steps

end Scenario

end Acceptance
