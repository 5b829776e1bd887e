import Acceptance.Suite

/-!
# Features

A feature has a title, a description, tags and scenarios. Each of its scenarios has a name, which no two
of them share: a scenario whose name is taken already stands in the place of the earlier one.
-/

set_option autoImplicit false

namespace Acceptance

/-- A title, a description, tags, and scenarios with their names. -/
structure Feature (W : Type) where
  title : String
  description : Option String := none
  tags : TagSet := ∅
  scenarios : List (String × Scenario W) := []

namespace Feature

variable {W : Type}

/-- Whether a scenario has the name. -/
def hasName (f : Feature W) (name : String) : Bool :=
  f.scenarios.any fun (taken, _) => taken == name

/-- Put a scenario in the place of the one that has its name. -/
def replaceNamed (name : String) (scenario : Scenario W) :
    List (String × Scenario W) → List (String × Scenario W)
  | [] => []
  | (taken, earlier) :: rest =>
    if taken = name then (name, scenario) :: rest
    else (taken, earlier) :: replaceNamed name scenario rest

/-- The feature with a scenario under a name, in the place of an earlier one of that name. -/
def addScenario (f : Feature W) (name : String) (scenario : Scenario W) : Feature W :=
  if f.hasName name then { f with scenarios := replaceNamed name scenario f.scenarios }
  else { f with scenarios := f.scenarios ++ [(name, scenario)] }

/-- The name of the test case that stands for a feature without scenarios. -/
def emptyName : String := "run_test"

/-- The identity of a test case of the feature. -/
def info (f : Feature W) (group name : String) (scenarioTitle : Option String) (tags : TagSet) :
    TestInfo :=
  ⟨group, f.title, f.description, name, scenarioTitle, tags⟩

/-- The test cases of the feature in a group: one for each scenario, or a single one that stands for the
feature. -/
def cases (f : Feature W) (group : String) : Suite W :=
  match f.scenarios with
  | [] => [⟨f.info group emptyName none f.tags, none⟩]
  | scenarios =>
    scenarios.map fun (name, scenario) =>
      ⟨f.info group name (some scenario.title) scenario.tags, some scenario⟩

end Feature

end Acceptance
