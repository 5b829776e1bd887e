import Acceptance.Scenario
import Acceptance.Tag.Expression

/-!
# Suites of test cases

A test case is a scenario with an identity, or stands for a feature that has no scenarios. A suite is a
list of test cases, from any number of features.
-/

set_option autoImplicit false

namespace Acceptance

/-- The identity of a test case: the group of its feature and its name within that, with the titles and
tags that it comes from. -/
structure TestInfo where
  group : String
  featureTitle : String
  description : Option String
  name : String
  scenarioTitle : Option String
  tags : TagSet
  deriving DecidableEq, Repr

/-- The group and the name of a test case, with a point between them. -/
def TestInfo.id (info : TestInfo) : String :=
  info.group ++ "." ++ info.name

/-- A scenario with its identity. Without a scenario it stands for a feature that has none. -/
structure TestCase (W : Type) where
  info : TestInfo
  scenario : Option (Scenario W)

/-- What a test case is about, on one line. -/
def TestCase.shortDescription {W : Type} (c : TestCase W) : String :=
  match c.scenario with
  | some scenario => "Scenario: " ++ scenario.title
  | none => "Feature: " ++ c.info.featureTitle

/-- Test cases in the order in which they run. -/
abbrev Suite (W : Type) : Type := List (TestCase W)

namespace Suite

variable {W : Type}

/-- The first test case with the given identity. -/
def find? (suite : Suite W) (id : String) : Option (TestCase W) :=
  List.find? (fun c => c.info.id == id) suite

/-- The test cases whose tags the expression selects. -/
def select (suite : Suite W) (e : TagExpression) : Suite W :=
  List.filter (fun c => e.holds c.info.tags) suite

end Suite

end Acceptance
