import Acceptance.Feature
import Acceptance.Load.Config
import Acceptance.Load.Fault
import Acceptance.Outline
import Acceptance.Slug

/-!
# Building a suite from events

A draft holds what has been read of a document and is not finished yet. Each event changes it: what begins
opens a place, contents go into the place that is open, and what ends is put where it belongs. Tags wait
until the next header takes them.

Steps are bound when they end, outlines are expanded when an examples block ends, and the test cases of a
feature are made when the feature ends.
-/

set_option autoImplicit false

namespace Acceptance

/-- What has been read of a document. -/
structure Draft (W : Type) where
  source : String := ""
  /-- Tags that no header has taken yet. -/
  pendingTags : TagSet := ∅
  feature : Option (Feature W) := none
  /-- The lines of the open description or multiline block. -/
  lines : Option (List String) := none
  /-- The latest background that has ended. -/
  background : Option (Scenario W) := none
  /-- The open background, scenario or outline. -/
  current : Option (Scenario W) := none
  /-- The latest outline that has ended. -/
  outline : Option (Scenario W) := none
  /-- The open examples block: its label and its tags. -/
  examples : Option (String × TagSet) := none
  /-- The open step. -/
  step : Option (Keyword × String) := none
  /-- The multiline block that has ended and belongs to the open step. -/
  multilines : Option (List String) := none
  table : Option Table := none
  suite : Suite W := []

namespace Draft

variable {W : Type}

/-- The lines without the empty ones at the end. -/
def dropTrailingEmpty (lines : List String) : List String :=
  (lines.reverse.dropWhile String.isEmpty).reverse

/-- Add a line to the open description or multiline block. -/
def addLine (d : Draft W) (line : String) : Draft W :=
  { d with lines := d.lines.map (· ++ [line]) }

/-- Begin a feature, which takes the waiting tags. -/
def openFeature (d : Draft W) (title : String) : Draft W :=
  { d with
    feature := some { title := title, tags := d.pendingTags }
    pendingTags := ∅
    background := none }

/-- End the description. Empty lines at its end do not belong to it. -/
def closeDescription (d : Draft W) : Draft W :=
  let text := "\n".intercalate (dropTrailingEmpty (d.lines.getD []))
  { d with
    lines := none
    feature := d.feature.map fun f => { f with description := some text } }

/-- The tags of the feature. -/
def featureTags (d : Draft W) : TagSet :=
  match d.feature with
  | some f => f.tags
  | none => ∅

/-- A block with the tags of the feature and the waiting ones. -/
def newBlock (d : Draft W) (title : String) : Scenario W :=
  ((Scenario.ofTitle title).withTags d.featureTags).withTags d.pendingTags

/-- Begin a background. -/
def openBackground (d : Draft W) (title : String) : Draft W :=
  { d with current := some (d.newBlock title), pendingTags := ∅ }

/-- Begin a scenario or an outline, which refers to the latest background. -/
def openScenario (d : Draft W) (title : String) : Draft W :=
  let block := d.newBlock title
  let block := match d.background with
    | some background => block.withBackground background
    | none => block
  { d with current := some block, pendingTags := ∅ }

/-- Add a scenario to the feature. A scenario whose name is taken replaces the earlier one, which is worth
a warning. -/
def addScenario (config : NamingConfig) (d : Draft W) (scenario : Scenario W) :
    Logged LoadFault (Draft W) :=
  let name := config.scenarioPrefix ++ slugify scenario.title
  match d.feature with
  | none => .pure d
  | some f =>
    let record : LogRecord :=
      if f.hasName name then
        ⟨.warn, d.source ++ ": scenario `" ++ scenario.title ++
          "` replaces an earlier scenario named " ++ name⟩
      else ⟨.debug, d.source ++ ": generated test case " ++ name⟩
    ⟨[record], .ok { d with feature := some (f.addScenario name scenario) }⟩

/-- Add scenarios in order. -/
def addScenarios (config : NamingConfig) :
    List (Scenario W) → Draft W → Logged LoadFault (Draft W)
  | [], d => .pure d
  | scenario :: rest, d => (d.addScenario config scenario).bind (addScenarios config rest)

/-- Attach what has ended to a step: the multiline block, or else the table. -/
def attach (d : Draft W) (step : Step W) : Draft W × Step W :=
  match d.multilines with
  | some lines => ({ d with multilines := none }, step.withMultiline lines)
  | none =>
    match d.table with
    | some table => ({ d with table := none }, step.withTable table)
    | none => (d, step)

/-- End the step: bind it and add it to the open block. A step without definition is worth a warning
where there are definitions. -/
def closeStep (r : Registry W) (d : Draft W) : Logged LoadFault (Draft W) :=
  match d.step with
  | none => .pure d
  | some (keyword, text) =>
    ((Step.make keyword text r).mapError LoadFault.ambiguous).bind fun step =>
      let (d, step) := { d with step := none }.attach step
      let log : Log :=
        if !step.isDefined && !r.isEmpty then
          [⟨.warn, d.source ++ ": undefined step `" ++ step.display ++ "`"⟩]
        else []
      ⟨log, .ok { d with current := d.current.map (·.addStep step) }⟩

/-- End the examples block: expand the latest outline and add what comes of it. -/
def closeExamples (config : NamingConfig) (r : Registry W) (d : Draft W) :
    Logged LoadFault (Draft W) :=
  let closed := { d with examples := none, table := none }
  match d.examples, d.table, d.outline with
  | some (label, tags), some table, some outline =>
    ((outline.expand (Examples.ofTable label tags table) r).mapError LoadFault.expansion).bind
      fun scenarios => closed.addScenarios config scenarios
  | _, _, _ => .pure closed

/-- End the feature: its test cases go into the suite. -/
def closeFeature (config : NamingConfig) (d : Draft W) : Logged LoadFault (Draft W) :=
  match d.feature with
  | none => .pure d
  | some f =>
    let group := config.featurePrefix ++ slugify f.title
    let cases := f.cases group
    ⟨[⟨.debug, d.source ++ ": loaded feature `" ++ f.title ++ "` as " ++ group ++ " with " ++
        toString cases.length ++ " test case(s)"⟩],
      .ok { d with feature := none, suite := d.suite ++ cases }⟩

/-- What an event makes of the draft. -/
def handle (config : NamingConfig) (r : Registry W) (d : Draft W) :
    Event → Logged LoadFault (Draft W)
  | .startParse source => .pure { d with source := source, pendingTags := ∅ }
  | .startFeature title => .pure (d.openFeature title)
  | .finishFeature => d.closeFeature config
  | .startDescription | .startMultiline _ => .pure { d with lines := some [] }
  | .finishDescription => .pure d.closeDescription
  | .data text => .pure (d.addLine text)
  | .whitespace _ => .pure (d.addLine "")
  | .startBackground title => .pure (d.openBackground title)
  | .finishBackground => .pure { d with background := d.current, current := none }
  | .startScenario title | .startOutline title => .pure (d.openScenario title)
  | .finishScenario =>
    match d.current with
    | some scenario => { d with current := none }.addScenario config scenario
    | none => .pure d
  | .finishOutline => .pure { d with outline := d.current, current := none }
  | .startExamples label =>
    .pure { d with
      examples := some (config.examplesPrefix ++ slugify label, d.pendingTags)
      pendingTags := ∅ }
  | .finishExamples => d.closeExamples config r
  | .startStep keyword text => .pure { d with step := some (keyword, text) }
  | .finishStep => d.closeStep r
  | .finishMultiline => .pure { d with multilines := d.lines, lines := none }
  | .startTable keys => .pure { d with table := some (Table.ofKeys keys) }
  | .tableData cells =>
    match d.table with
    | none => .pure d
    | some table =>
      match table.addRow cells with
      | .ok table => .pure { d with table := some table }
      | .error row => .fail (.uneven row)
  | .tags tags => .pure { d with pendingTags := tags.foldl TagSet.insert d.pendingTags }
  | .finishParse | .finishTable | .comment _ => .pure d

/-- The handler that builds a suite. -/
def builder (config : NamingConfig) (r : Registry W) : Handler (Draft W) LoadFault :=
  ⟨fun d event =>
    let reply := d.handle config r event
    match reply.result with
    | .ok d => { state := d, log := reply.log }
    | .error fault => { state := d, log := reply.log, refusal := some fault }⟩

end Draft

end Acceptance
