import Acceptance.Proofs.Load.Draft

/-!
# What a document asks for

The test cases that a document asks for can be read off its events, looking back from the end of a scenario
or of an examples block to the headers before it. A `History` has the latest event first, so that to look
back is to go down the list.

An `Origin` is where a test case comes from: a scenario, or a row of an examples block. It has the tags of
its headers, and every header has the tags of the lines of tags since the header before it.
-/

set_option autoImplicit false

namespace Acceptance

namespace History

/-- The latest event that has what is looked for, and what was before that event. -/
def latest {α : Type} (sought : Event → Option α) : History → Option (α × History)
  | [] => none
  | event :: past =>
    match sought event with
    | some found => some (found, past)
    | none => latest sought past

/-- Whether an event takes the tags that wait. -/
def takesTags : Event → Bool
  | .startParse _ | .startFeature _ | .startBackground _ | .startScenario _ | .startOutline _
  | .startExamples _ => true
  | _ => false

/-- The tags on the lines of tags since the latest header, or since the start of the document. -/
def ownTags : History → List String
  | [] => []
  | .tags tags :: past => ownTags past ++ tags
  | event :: past => if takesTags event then [] else ownTags past

end History

/-- The title of a feature header. -/
def Event.featureTitle? : Event → Option String
  | .startFeature title => some title
  | _ => none

/-- The title of the header of a block. -/
def BlockKind.title? : BlockKind → Event → Option String
  | .background, .startBackground title => some title
  | .scenario, .startScenario title => some title
  | .outline, .startOutline title => some title
  | _, _ => none

/-- The label of an examples header. -/
def Event.examplesLabel? : Event → Option String
  | .startExamples label => some label
  | _ => none

/-- The end of a background. -/
def Event.backgroundEnd? : Event → Option Unit
  | .finishBackground => some ()
  | _ => none

namespace History

/-- The own tags of the feature. -/
def featureTags (past : History) : List String :=
  match past.latest Event.featureTitle? with
  | some (_, before) => ownTags before
  | none => []

/-- What was before the header of the latest background that has ended. -/
def closedBackground? (past : History) : Option History := do
  let (_, closed) ← past.latest Event.backgroundEnd?
  let (_, before) ← History.latest BlockKind.background.title? closed
  return before

/-- The own tags of the latest background that has ended. -/
def backgroundTags (past : History) : List String :=
  match past.closedBackground? with
  | some before => ownTags before
  | none => []

/-- The latest table: the cells behind its beginning. -/
def table? : History → Option Table
  | [] => none
  | .startTable keys :: _ => some ⟨keys, []⟩
  | .tableData cells :: past => (table? past).map fun t => ⟨t.keys, t.rows ++ [cells]⟩
  | _ :: past => table? past

end History

/-- Where a test case comes from: its title, and the tags of the headers above it. -/
structure Origin where
  title : String
  tags : List String

namespace Origin

/-- The name of the test case. -/
def name (config : NamingConfig) (o : Origin) : String :=
  config.scenarioPrefix ++ slugify o.title

/-- The title and the tags of the test case. -/
def key (o : Origin) : String × TagSet :=
  (o.title, .ofList o.tags)

/-- The origin of a row of an examples block, with its number from one. -/
def ofRow (config : NamingConfig) (outline : Origin) (label : String) (own : List String)
    (row : Table.Row) (number : Nat) : Origin where
  title :=
    (Substitution.ofPairs row.pairs).apply outline.title ++ " " ++ toString number ++ " " ++
      (config.examplesPrefix ++ slugify label)
  tags := outline.tags ++ own

end Origin

namespace History

/-- The latest block of a kind: its title, the own tags of the feature, its own tags, and those of the
background that it refers to. A background refers to none. -/
def block? (k : BlockKind) (past : History) : Option Origin :=
  (past.latest k.title?).map fun (title, before) =>
    ⟨title, past.featureTags ++ ownTags before ++ if k = .background then [] else backgroundTags before⟩

/-- The origins at the end of a scenario or of an examples block, given what was before. -/
def ended (config : NamingConfig) (past : History) : Event → List Origin
  | .finishScenario => (past.block? .scenario).toList
  | .finishExamples =>
    match past.block? .outline, past.latest Event.examplesLabel?, past.table? with
    | some outline, some (label, before), some table =>
      table.withOutlineKeys.views.zipIdx.map fun (row, index) =>
        .ofRow config outline label (ownTags before) row (index + 1)
    | _, _, _ => []
  | _ => []

/-- All origins, in the order of the document. -/
def origins (config : NamingConfig) : History → List Origin
  | [] => []
  | event :: past => origins config past ++ ended config past event

/-- Whether an event is no header and no end that is looked for. -/
def quiet : Event → Bool
  | .startParse _ | .finishParse | .data _ | .comment _ | .whitespace _ | .tags _ | .startDescription
  | .finishDescription | .startStep _ _ | .finishStep | .startMultiline _ | .finishMultiline
  | .startTable _ | .tableData _ | .finishTable => true
  | _ => false

section Quiet

variable {event : Event} {past : History}

/-- A quiet event leaves the tags of the feature. -/
theorem featureTags_quiet (h : quiet event = true) : featureTags (event :: past) = featureTags past := by
  cases event <;> first | rfl | cases h

/-- A quiet event leaves the background that has ended. -/
theorem closedBackground?_quiet (h : quiet event = true) :
    closedBackground? (event :: past) = closedBackground? past := by
  cases event <;> first | rfl | cases h

/-- A quiet event leaves the open block of every kind. -/
theorem block?_quiet (h : quiet event = true) (k : BlockKind) :
    block? k (event :: past) = block? k past := by
  cases event <;> cases k <;> first | rfl | cases h

/-- A quiet event leaves the label of the examples block. -/
theorem examplesLabel?_quiet (h : quiet event = true) :
    latest Event.examplesLabel? (event :: past) = latest Event.examplesLabel? past := by
  cases event <;> first | rfl | cases h

/-- An event at which nothing ends adds no origin. -/
theorem origins_of_ended {config : NamingConfig} (h : ended config past event = []) :
    origins config (event :: past) = origins config past := by
  rw [origins, h, List.append_nil]

/-- A quiet event adds no origin. -/
theorem origins_quiet (h : quiet event = true) (config : NamingConfig) :
    origins config (event :: past) = origins config past := by
  refine origins_of_ended ?_
  cases event <;> first | rfl | cases h

end Quiet

end History

end Acceptance
