/-!
# States, line classes and actions

The vocabulary of the feature grammar. A row of the grammar says that in a state a line of some class
fires some actions and leads to the next state.
-/

set_option autoImplicit false

namespace Acceptance.Grammar

/-- Where in a document a reader stands. -/
inductive State where
  /-- Before the feature header. -/
  | start
  /-- Directly after the feature header. -/
  | feature
  /-- Inside the free text after the feature header. -/
  | description
  /-- Between blocks, after a line of tags. -/
  | featureBody
  /-- After a background header, or after a multiline block of its steps. -/
  | background
  /-- After a step of a background. -/
  | backgroundStep
  /-- Inside a multiline block of a background step. -/
  | backgroundMultiline
  /-- Inside a table of a background step. -/
  | backgroundTable
  /-- After a scenario header, or after a multiline block of its steps. -/
  | scenario
  /-- After a step of a scenario. -/
  | scenarioStep
  /-- Inside a multiline block of a scenario step. -/
  | scenarioMultiline
  /-- Inside a table of a scenario step. -/
  | scenarioTable
  /-- After an outline header, or after a multiline block of its steps. -/
  | outline
  /-- After a step of an outline. -/
  | outlineStep
  /-- Inside a multiline block of an outline step. -/
  | outlineMultiline
  /-- Inside a table of an outline step. -/
  | outlineTable
  /-- After an outline, where tags may lead to an examples block. -/
  | afterOutline
  /-- After an examples header. -/
  | examples
  /-- Inside the table of an examples block. -/
  | examplesTable
  /-- After the end of input. -/
  | ended
  deriving DecidableEq, Repr, Inhabited

namespace State

/-- All states, in the order of a document. -/
def all : List State :=
  [start, feature, description, featureBody, background, backgroundStep, backgroundMultiline,
    backgroundTable, scenario, scenarioStep, scenarioMultiline, scenarioTable, outline,
    outlineStep, outlineMultiline, outlineTable, afterOutline, examples, examplesTable, ended]

/-- The state as messages name it. -/
def name : State → String
  | start => "start"
  | feature => "feature"
  | description => "description"
  | featureBody => "feature_body"
  | background => "background"
  | backgroundStep => "background_step"
  | backgroundMultiline => "background_multiline"
  | backgroundTable => "background_table"
  | scenario => "scenario"
  | scenarioStep => "scenario_step"
  | scenarioMultiline => "scenario_multiline"
  | scenarioTable => "scenario_table"
  | outline => "outline"
  | outlineStep => "outline_step"
  | outlineMultiline => "outline_multiline"
  | outlineTable => "outline_table"
  | afterOutline => "after_outline"
  | examples => "examples"
  | examplesTable => "examples_table"
  | ended => "end"

end State

/-- What a line can be recognised as. -/
inductive Matcher where
  /-- The end of input, and no line. -/
  | endOfInput
  /-- A line such as `# text`. -/
  | comment
  /-- A line such as `@tag @other`. -/
  | tags
  /-- A line such as `Feature: title`. -/
  | feature
  /-- A line such as `Background: title`. -/
  | background
  /-- A line such as `Scenario: title`. -/
  | scenario
  /-- A line such as `Scenario Outline: title`. -/
  | outline
  /-- A line such as `Examples: name`. -/
  | examples
  /-- A step keyword and the text of the step. -/
  | step
  /-- The delimiter that opens a multiline block. -/
  | multilineOpen
  /-- The delimiter that closes a block, indented as the one that opened it. -/
  | multilineClose
  /-- Any line inside a multiline block. -/
  | multilineContent
  /-- A line such as `| cell | cell |`. -/
  | tableRow
  /-- Any line that is not blank. -/
  | text
  deriving DecidableEq, Repr, Inhabited

namespace Matcher

/-- All line classes. -/
def all : List Matcher :=
  [endOfInput, comment, tags, feature, background, scenario, outline, examples, step,
    multilineOpen, multilineClose, multilineContent, tableRow, text]

/-- The line class as messages name it. -/
def name : Matcher → String
  | endOfInput => "end_of_input"
  | comment => "comment"
  | tags => "tags"
  | feature => "feature"
  | background => "background"
  | scenario => "scenario"
  | outline => "outline"
  | examples => "examples"
  | step => "step"
  | multilineOpen => "multiline_open"
  | multilineClose => "multiline_close"
  | multilineContent => "multiline_content"
  | tableRow => "table_row"
  | text => "text"

end Matcher

/-- What a row reports when it fires. -/
inductive Action where
  | startFeature
  | finishFeature
  | startDescription
  | finishDescription
  | data
  | startBackground
  | finishBackground
  | startScenario
  | finishScenario
  | startOutline
  | finishOutline
  | startExamples
  | finishExamples
  | startStep
  | finishStep
  | startMultiline
  | multilineData
  | finishMultiline
  | startTable
  | tableData
  | finishTable
  | tags
  | comment
  deriving DecidableEq, Repr, Inhabited

namespace Action

/-- All actions. -/
def all : List Action :=
  [startFeature, finishFeature, startDescription, finishDescription, data, startBackground,
    finishBackground, startScenario, finishScenario, startOutline, finishOutline, startExamples,
    finishExamples, startStep, finishStep, startMultiline, multilineData, finishMultiline,
    startTable, tableData, finishTable, tags, comment]

/-- The action by its own name. -/
def name : Action → String
  | startFeature => "start_feature"
  | finishFeature => "finish_feature"
  | startDescription => "start_description"
  | finishDescription => "finish_description"
  | data => "data"
  | startBackground => "start_background"
  | finishBackground => "finish_background"
  | startScenario => "start_scenario"
  | finishScenario => "finish_scenario"
  | startOutline => "start_outline"
  | finishOutline => "finish_outline"
  | startExamples => "start_examples"
  | finishExamples => "finish_examples"
  | startStep => "start_step"
  | finishStep => "finish_step"
  | startMultiline => "start_multiline"
  | multilineData => "multiline_data"
  | finishMultiline => "finish_multiline"
  | startTable => "start_hash"
  | tableData => "hash_data"
  | finishTable => "finish_hash"
  | tags => "tags"
  | comment => "comment"

/-- The name of what is reported. Text of a description and content of a multiline block are reported
alike. -/
def reported : Action → String
  | multilineData => "data"
  | action => action.name

end Action

/-- A row of the grammar: a line of class `matcher` fires `actions` in order and leads to `next`. -/
structure Transition where
  matcher : Matcher
  actions : List Action
  next : State
  deriving DecidableEq, Repr

/-- The rows declared for a state. Among the rows that accept a line, the first one counts. -/
structure StateRows where
  state : State
  rows : List Transition
  deriving DecidableEq, Repr

end Acceptance.Grammar
