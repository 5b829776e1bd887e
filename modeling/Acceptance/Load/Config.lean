import Acceptance.Text.Property

/-!
# Names of generated test cases

The groups, the names and the titles of generated test cases begin with configurable texts. Each of them
has to be able to begin an identifier, so that what is generated is one.
-/

set_option autoImplicit false

namespace Acceptance

/-- What generated names begin with. -/
structure NamingConfig where
  /-- The beginning of the names of groups. -/
  featurePrefix : String := "Feature_"
  /-- The beginning of the names of test cases. -/
  scenarioPrefix : String := "test_Scenario_"
  /-- The beginning of what is added to the titles of scenarios made from examples. -/
  examplesPrefix : String := "Example_"
  deriving DecidableEq, Repr

namespace NamingConfig

/-- Whether a text can begin an identifier: an ASCII letter or an underscore, and then ASCII letters,
digits and underscores. -/
def beginsIdentifier (text : String) : Bool :=
  match text.toList with
  | [] => false
  | c :: cs => (Text.isAsciiLetter c || c == '_') && cs.all Text.isAsciiWord

/-- The settings by name, in the order in which they are checked. -/
def settings (config : NamingConfig) : List (String × String) :=
  [("feature_prefix", config.featurePrefix), ("scenario_prefix", config.scenarioPrefix),
    ("examples_prefix", config.examplesPrefix)]

/-- The first setting that cannot begin an identifier, with its value. -/
def invalidSetting? (config : NamingConfig) : Option (String × String) :=
  config.settings.find? fun (_, value) => !beginsIdentifier value

end NamingConfig

end Acceptance
