import Acceptance.Grammar.Declaration

/-!
# The feature grammar

A document has a feature with a description, then backgrounds, scenarios and outlines with their steps,
and examples blocks after outlines. Whatever a line ends is closed before what it begins is opened: the
rows that leave a block begin with the actions that close it, innermost first. Tags end a block too. They
lead to `featureBody`, or after an outline to `afterOutline`, where they may belong to an examples block.
-/

set_option autoImplicit false

namespace Acceptance.Grammar

/-- A comment is reported and changes nothing. -/
def commentIn (s : State) : Transition :=
  ⟨.comment, [.comment], s⟩

/-- The rows for the headers of blocks and for the end of input, after the given closing actions. -/
def headers (closing : List Action) : List Transition :=
  [⟨.background, closing ++ [.startBackground], .background⟩,
    ⟨.scenario, closing ++ [.startScenario], .scenario⟩,
    ⟨.outline, closing ++ [.startOutline], .outline⟩,
    ⟨.endOfInput, closing ++ [.finishFeature], .ended⟩]

/-- The rows for tags, headers and the end of input, after the given closing actions. -/
def leaving (closing : List Action) (afterTags : State) : List Transition :=
  ⟨.tags, closing ++ [.tags], afterTags⟩ :: headers closing

/-- The rows for a multiline block of a step, which ends in `after`. -/
def multilineRows (inside after : State) : List Transition :=
  [⟨.multilineClose, [.finishMultiline, .finishStep], after⟩,
    ⟨.multilineContent, [.multilineData], inside⟩]

/-- The row for an examples block, after the given closing actions. -/
def examplesAfter (closing : List Action) : Transition :=
  ⟨.examples, closing ++ [.startExamples], .examples⟩

/-- The rows of a state inside or after an outline: an examples block may follow, and tags keep that
possible. -/
def leavingOutline (closing : List Action) : List Transition :=
  examplesAfter closing :: leaving closing .afterOutline

/-- The states of a block with steps, and the action that closes it. -/
structure BlockStates where
  header : State
  step : State
  multiline : State
  table : State
  finish : Action

/-- The states of backgrounds. -/
def backgroundStates : BlockStates :=
  ⟨.background, .backgroundStep, .backgroundMultiline, .backgroundTable, .finishBackground⟩

/-- The states of scenarios. -/
def scenarioStates : BlockStates :=
  ⟨.scenario, .scenarioStep, .scenarioMultiline, .scenarioTable, .finishScenario⟩

/-- The states of outlines. -/
def outlineStates : BlockStates :=
  ⟨.outline, .outlineStep, .outlineMultiline, .outlineTable, .finishOutline⟩

/-- The rows of a block with steps. `leave` gives the rows that leave it, after closing actions. -/
def blockRows (b : BlockStates) (leave : List Action → List Transition) : List StateRows :=
  [⟨b.header, commentIn b.header :: ⟨.step, [.startStep], b.step⟩ :: leave [b.finish]⟩,
    ⟨b.step, commentIn b.step :: ⟨.step, [.finishStep, .startStep], b.step⟩ ::
      ⟨.multilineOpen, [.startMultiline], b.multiline⟩ :: ⟨.tableRow, [.startTable], b.table⟩ ::
      leave [.finishStep, b.finish]⟩,
    ⟨b.multiline, multilineRows b.multiline b.header⟩,
    ⟨b.table, commentIn b.table :: ⟨.tableRow, [.tableData], b.table⟩ ::
      ⟨.step, [.finishTable, .finishStep, .startStep], b.step⟩ ::
      leave [.finishTable, .finishStep, b.finish]⟩]

/-- The feature grammar, state by state. -/
def featureGrammar : List StateRows :=
  [⟨.start, [commentIn .start, ⟨.tags, [.tags], .start⟩, ⟨.feature, [.startFeature], .feature⟩,
      ⟨.endOfInput, [], .ended⟩]⟩,
    ⟨.feature, commentIn .feature :: leaving [] .featureBody ++
      [⟨.text, [.startDescription, .data], .description⟩]⟩,
    ⟨.description, commentIn .description :: leaving [.finishDescription] .featureBody ++
      [⟨.text, [.data], .description⟩]⟩,
    ⟨.featureBody, commentIn .featureBody :: leaving [] .featureBody⟩] ++
  blockRows backgroundStates (fun closing => leaving closing .featureBody) ++
  blockRows scenarioStates (fun closing => leaving closing .featureBody) ++
  blockRows outlineStates leavingOutline ++
  [⟨.afterOutline, commentIn .afterOutline :: ⟨.tags, [.tags], .afterOutline⟩ ::
      examplesAfter [] :: headers []⟩,
    ⟨.examples, [commentIn .examples, ⟨.tableRow, [.startTable], .examplesTable⟩]⟩,
    ⟨.examplesTable, commentIn .examplesTable :: ⟨.tableRow, [.tableData], .examplesTable⟩ ::
      leavingOutline [.finishTable, .finishExamples]⟩]

/-- The table of the feature grammar. -/
def standard : TransitionTable :=
  ⟨featureGrammar⟩

/-- The feature grammar is a sound declaration. -/
theorem compile_featureGrammar : TransitionTable.compile featureGrammar = .ok standard := by
  rfl

end Acceptance.Grammar
