import Acceptance.Proofs.Document.Transcript

/-!
# The course of a document

The events of a document take it from one `Stage` to the next. A stage says what is open, and no more than
the stage decides which events may come (`Moves`). Whoever receives the events can rely on that: the events
of a document without fault are a `Course` from the first stage to the last (`Transcript.exists_course`).
-/

set_option autoImplicit false

namespace Acceptance

open Acceptance.Grammar

/-- The kinds of blocks that have steps. -/
inductive BlockKind where
  | background
  | scenario
  | outline
  deriving DecidableEq, Repr

/-- The event that begins a block. -/
def BlockKind.start : BlockKind → String → Event
  | background, title => .startBackground title
  | scenario, title => .startScenario title
  | outline, title => .startOutline title

/-- The event that ends a block. -/
def BlockKind.finish : BlockKind → Event
  | background => .finishBackground
  | scenario => .finishScenario
  | outline => .finishOutline

/-- Where a document stands. -/
inductive Stage where
  /-- Before the feature. -/
  | outside
  /-- In the feature, and in nothing within it. -/
  | body
  | description
  /-- In a block, between its steps. -/
  | block (k : BlockKind)
  /-- In a step that has nothing attached. -/
  | step (k : BlockKind)
  | multiline (k : BlockKind)
  | table (k : BlockKind)
  /-- In a step, behind what is attached to it. -/
  | attached (k : BlockKind)
  /-- In an examples block, before its table. -/
  | examples
  | examplesTable
  /-- In an examples block, behind its table. -/
  | examplesRead
  /-- Behind the feature. -/
  | closed
  deriving DecidableEq, Repr

namespace Stage

/-- Whether comments and blank lines may come. -/
def remarks : Stage → Bool
  | multiline _ | attached _ | examplesRead => false
  | _ => true

/-- The stage after the event of an action, if that may come. -/
def next : Stage → Action → Option Stage
  | m, .comment => if m.remarks then some m else none
  | outside, .tags => some outside
  | outside, .startFeature => some body
  | body, .tags => some body
  | body, .startDescription => some description
  | body, .startBackground => some (block .background)
  | body, .startScenario => some (block .scenario)
  | body, .startOutline => some (block .outline)
  | body, .startExamples => some examples
  | body, .finishFeature => some closed
  | description, .data => some description
  | description, .finishDescription => some body
  | block .background, .finishBackground => some body
  | block .scenario, .finishScenario => some body
  | block .outline, .finishOutline => some body
  | block k, .startStep => some (step k)
  | step k, .startMultiline => some (multiline k)
  | step k, .startTable => some (table k)
  | step k, .finishStep => some (block k)
  | multiline k, .multilineData => some (multiline k)
  | multiline k, .finishMultiline => some (attached k)
  | table k, .tableData => some (table k)
  | table k, .finishTable => some (attached k)
  | attached k, .finishStep => some (block k)
  | examples, .startTable => some examplesTable
  | examplesTable, .tableData => some examplesTable
  | examplesTable, .finishTable => some examplesRead
  | examplesRead, .finishExamples => some body
  | _, _ => none

end Stage

/-- The events that may come at a stage, and the stages to which they lead. -/
inductive Moves : Stage → Event → Stage → Prop where
  | startParse (source : String) : Moves .outside (.startParse source) .outside
  | comment {m : Stage} (text : String) : m.remarks = true → Moves m (.comment text) m
  | whitespace {m : Stage} (line : String) : m.remarks = true → Moves m (.whitespace line) m
  | tags {m : Stage} (tags : List String) : m = .outside ∨ m = .body → Moves m (.tags tags) m
  | startFeature (title : String) : Moves .outside (.startFeature title) .body
  | startDescription : Moves .body .startDescription .description
  | description (text : String) : Moves .description (.data text) .description
  | finishDescription : Moves .description .finishDescription .body
  | startBlock (k : BlockKind) (title : String) : Moves .body (k.start title) (.block k)
  | finishBlock (k : BlockKind) : Moves (.block k) k.finish .body
  | startStep (k : BlockKind) (keyword : Keyword) (text : String) :
      Moves (.block k) (.startStep keyword text) (.step k)
  | finishStep (k : BlockKind) : Moves (.step k) .finishStep (.block k)
  | startMultiline (k : BlockKind) (indent : Nat) :
      Moves (.step k) (.startMultiline indent) (.multiline k)
  | content (k : BlockKind) (text : String) : Moves (.multiline k) (.data text) (.multiline k)
  | finishMultiline (k : BlockKind) : Moves (.multiline k) .finishMultiline (.attached k)
  | startTable (k : BlockKind) (keys : List String) : Moves (.step k) (.startTable keys) (.table k)
  | tableData (k : BlockKind) (cells : List String) : Moves (.table k) (.tableData cells) (.table k)
  | finishTable (k : BlockKind) : Moves (.table k) .finishTable (.attached k)
  | finishAttached (k : BlockKind) : Moves (.attached k) .finishStep (.block k)
  | startExamples (label : String) : Moves .body (.startExamples label) .examples
  | startExamplesTable (keys : List String) : Moves .examples (.startTable keys) .examplesTable
  | examplesData (cells : List String) : Moves .examplesTable (.tableData cells) .examplesTable
  | finishExamplesTable : Moves .examplesTable .finishTable .examplesRead
  | finishExamples : Moves .examplesRead .finishExamples .body
  | finishFeature : Moves .body .finishFeature .closed
  | finishParse {m : Stage} : m = .outside ∨ m = .closed → Moves m .finishParse m

/-- Events that take a document from one stage to another. -/
inductive Course : Stage → List Event → Stage → Prop where
  | nil (m : Stage) : Course m [] m
  | cons {m middle last : Stage} {event : Event} {events : List Event} :
      Moves m event middle → Course middle events last → Course m (event :: events) last

/-- Where an action may come at a stage, its event takes the document to the next one. -/
theorem Stage.moves_of_next {m n : Stage} {a : Action} {parts : List String} {event : Event}
    (hnext : m.next a = some n) (hevent : a.event parts = .ok event) : Moves m event n := by
  cases a with
  | startStep =>
    obtain ⟨keyword, text, rfl⟩ := Action.eq_startStep_of_event hevent
    cases m <;> cases hnext
    exact .startStep _ _ _
  | comment =>
    cases hevent
    cases m <;> cases hnext <;> exact .comment _ rfl
  | tags =>
    cases hevent
    cases m <;> cases hnext <;> exact .tags _ (by decide)
  | finishBackground =>
    cases hevent
    cases m with
    | block k => cases k <;> cases hnext; exact .finishBlock .background
    | _ => cases hnext
  | finishScenario =>
    cases hevent
    cases m with
    | block k => cases k <;> cases hnext; exact .finishBlock .scenario
    | _ => cases hnext
  | finishOutline =>
    cases hevent
    cases m with
    | block k => cases k <;> cases hnext; exact .finishBlock .outline
    | _ => cases hnext
  | finishStep =>
    cases hevent
    cases m <;> cases hnext
    · exact .finishStep _
    · exact .finishAttached _
  | startTable =>
    cases hevent
    cases m <;> cases hnext
    · exact .startTable _ _
    · exact .startExamplesTable _
  | tableData =>
    cases hevent
    cases m <;> cases hnext
    · exact .tableData _ _
    · exact .examplesData _
  | finishTable =>
    cases hevent
    cases m <;> cases hnext
    · exact .finishTable _
    · exact .finishExamplesTable
  | startBackground => cases hevent; cases m <;> cases hnext; exact .startBlock .background _
  | startScenario => cases hevent; cases m <;> cases hnext; exact .startBlock .scenario _
  | startOutline => cases hevent; cases m <;> cases hnext; exact .startBlock .outline _
  | startFeature => cases hevent; cases m <;> cases hnext; exact .startFeature _
  | finishFeature => cases hevent; cases m <;> cases hnext; exact .finishFeature
  | startDescription => cases hevent; cases m <;> cases hnext; exact .startDescription
  | finishDescription => cases hevent; cases m <;> cases hnext; exact .finishDescription
  | data => cases hevent; cases m <;> cases hnext; exact .description _
  | startExamples => cases hevent; cases m <;> cases hnext; exact .startExamples _
  | finishExamples => cases hevent; cases m <;> cases hnext; exact .finishExamples
  | startMultiline => cases hevent; cases m <;> cases hnext; exact .startMultiline _ _
  | multilineData => cases hevent; cases m <;> cases hnext; exact .content _ _
  | finishMultiline => cases hevent; cases m <;> cases hnext; exact .finishMultiline _

/-- Nothing leads back to before the feature, and there a feature has not begun. -/
theorem Moves.of_outside {m : Stage} {event : Event} (h : Moves m event .outside) :
    m = .outside ∧ ∀ title, event ≠ .startFeature title := by
  cases h <;> exact ⟨rfl, nofun⟩

/-- A block ends where it is open. -/
theorem Moves.of_finish {m n : Stage} {event : Event} {k : BlockKind} (h : Moves m event n)
    (hevent : event = k.finish) : m = .block k := by
  cases h with
  | finishBlock other => cases other <;> cases k <;> cases hevent <;> rfl
  | startBlock other => cases other <;> cases k <;> cases hevent
  | _ => cases k <;> cases hevent

/-- An examples block ends behind its table only. -/
theorem Moves.of_finishExamples {m n : Stage} (h : Moves m .finishExamples n) : m = .examplesRead := by
  generalize hevent : Event.finishExamples = event at h
  cases h with
  | finishExamples => rfl
  | startBlock k => cases k <;> cases hevent
  | finishBlock k => cases k <;> cases hevent
  | _ => cases hevent

namespace Course

variable {m middle last : Stage} {first second events : List Event}

/-- Courses that meet at a stage join. -/
theorem append (hfirst : Course m first middle) (hsecond : Course middle second last) :
    Course m (first ++ second) last := by
  induction hfirst with
  | nil => exact hsecond
  | cons hmoves _ ih => exact .cons hmoves (ih hsecond)

/-- A course can be cut between any two of its events. -/
theorem exists_of_append (h : Course m (first ++ second) last) :
    ∃ middle, Course m first middle ∧ Course middle second last := by
  induction first generalizing m with
  | nil => exact ⟨m, .nil m, h⟩
  | cons event first ih =>
    cases h with
    | cons hmoves hrest =>
      obtain ⟨middle, hfirst, hsecond⟩ := ih hrest
      exact ⟨middle, .cons hmoves hfirst, hsecond⟩

/-- Up to a stage before the feature, no feature has begun. -/
theorem of_outside (h : Course m events .outside) :
    m = .outside ∧ ∀ event ∈ events, ∀ title, event ≠ .startFeature title := by
  generalize hlast : Stage.outside = last at h
  induction h with
  | nil m => exact ⟨hlast ▸ rfl, List.forall_mem_nil _⟩
  | cons hmoves _ ih =>
    obtain ⟨rfl, hevents⟩ := ih hlast
    subst hlast
    obtain ⟨hm, hevent⟩ := hmoves.of_outside
    exact ⟨hm, List.forall_mem_cons.mpr ⟨hevent, hevents⟩⟩

/-- Behind the feature, a feature has begun. -/
theorem exists_startFeature (h : Course .outside events m) (hm : m ≠ .outside) :
    ∃ title, .startFeature title ∈ events := by
  generalize hfirst : Stage.outside = first at h
  induction h with
  | nil => exact absurd hfirst.symm hm
  | @cons first middle _ event _ hmoves _ ih =>
    subst hfirst
    by_cases hmiddle : middle = .outside
    · obtain ⟨title, htitle⟩ := ih hm hmiddle.symm
      exact ⟨title, List.mem_cons_of_mem _ htitle⟩
    · cases hmoves with
      | startFeature title => exact ⟨title, List.mem_cons_self⟩
      | _ => exact absurd rfl hmiddle

/-- Actions that may come one after the other report events that take the same course. -/
theorem of_reports {parts : List String} {actions : List Action}
    (hactions : actions.foldlM Stage.next m = some last) (h : Reports parts actions events) :
    Course m events last := by
  induction h generalizing m with
  | nil =>
    cases hactions
    exact .nil _
  | cons hevent _ ih =>
    rw [List.foldlM_cons] at hactions
    obtain ⟨n, hnext, hrest⟩ := Option.bind_eq_some_iff.mp hactions
    exact .cons (Stage.moves_of_next hnext hevent) (ih hrest)

end Course

/-- The stages at which a document can be when the parser is in a state. -/
def Grammar.State.stages : State → List Stage
  | .start => [.outside]
  | .feature | .featureBody | .afterOutline => [.body]
  | .description => [.description]
  | .background => [.block .background]
  | .backgroundStep => [.step .background]
  | .backgroundMultiline => [.multiline .background]
  | .backgroundTable => [.table .background]
  | .scenario => [.block .scenario]
  | .scenarioStep => [.step .scenario]
  | .scenarioMultiline => [.multiline .scenario]
  | .scenarioTable => [.table .scenario]
  | .outline => [.block .outline]
  | .outlineStep => [.step .outline]
  | .outlineMultiline => [.multiline .outline]
  | .outlineTable => [.table .outline]
  | .examples => [.examples]
  | .examplesTable => [.examplesTable]
  | .ended => [.outside, .closed]

namespace Stage

/-- **Every row of the grammar** goes on from the stages of its state. -/
theorem exists_next_of_row : ∀ s : State, ∀ m ∈ s.stages, ∀ row ∈ standard.rows s,
    ∃ n ∈ row.next.stages, row.actions.foldlM next m = some n := by
  intro s
  cases s <;> decide

/-- Blank lines may come where no content of a multiline block is awaited. -/
theorem remarks_of_row : ∀ s : State, (∀ row ∈ standard.rows s, row.matcher ≠ .multilineContent) →
    ∀ m ∈ s.stages, m.remarks = true := by
  intro s
  cases s <;> decide

/-- **The course runs along** with the events of a document. -/
theorem tracks : Tracks Course fun m s => m ∈ s.stages where
  nil := .nil
  append := .append
  row hm hrow hevents := by
    obtain ⟨n, hn, hactions⟩ := exists_next_of_row _ _ hm _ hrow
    exact ⟨n, .of_reports hactions hevents, hn⟩
  blank line hm hcontent :=
    ⟨_, .cons (.whitespace line (remarks_of_row _ hcontent _ hm)) (.nil _), hm⟩

end Stage

/-- **A document without fault** takes its course from the first stage to the last. -/
theorem Transcript.exists_course {source : String} {lines : List String} {unreadable : Option String}
    (h : (ofLines source lines unreadable).fault = none) :
    ∃ m, Course .outside (ofLines source lines unreadable).events m ∧ (m = .outside ∨ m = .closed) := by
  have hstart : ∃ m, Course .outside [.startParse source] m ∧ m ∈ State.start.stages :=
    ⟨.outside, .cons (.startParse source) (.nil _), by decide⟩
  have hfinish (m : Stage) (hm : m ∈ State.ended.stages) :
      ∃ n, Course m [.finishParse] n ∧ n ∈ State.ended.stages :=
    ⟨m, .cons (.finishParse (by simpa [State.stages] using hm)) (.nil _), hm⟩
  obtain ⟨m, hcourse, hm⟩ := Stage.tracks.ofLines hstart hfinish lines unreadable
  refine ⟨m, hcourse, ?_⟩
  obtain ⟨body, closing, rfl, -, rfl, hclosing, hdocument⟩ := ofLines_of_fault_eq_none h
  rw [hdocument, Parser.state_report_none hclosing] at hm
  simpa [State.stages] using hm

end Acceptance
