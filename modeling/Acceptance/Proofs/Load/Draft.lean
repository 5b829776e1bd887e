import Acceptance.Load
import Acceptance.Proofs.Document.Course
import Acceptance.Proofs.Load.Names
import Acceptance.Proofs.Outline.Expansion

/-!
# What an event makes of a draft

One lemma for each operation of a draft that can fail or that says more than its definition. Then the two
ways in which the rest of the development looks at a loader: what it says about a text is what its draft has
become after the events of the text (`Loader.exists_answerAll_of_loadText`), and what every event preserves
holds after any course of events (`Course.invariant`).
-/

set_option autoImplicit false

namespace Acceptance

variable {W : Type}

/-! ## Logged results -/

namespace Logged

variable {ε ε' α β : Type}

/-- Telling a failure otherwise changes no result. -/
theorem mapError_result_eq_ok {f : ε → ε'} {x : Logged ε α} {a : α} :
    (x.mapError f).result = .ok a ↔ x.result = .ok a := by
  unfold mapError
  cases x.result <;> simp [Except.mapError]

/-- A failure that is told otherwise is one that was met. -/
theorem mapError_result_eq_error {f : ε → ε'} {x : Logged ε α} {e : ε'} :
    (x.mapError f).result = .error e ↔ ∃ reason, x.result = .error reason ∧ f reason = e := by
  unfold mapError
  cases x.result <;> simp [Except.mapError]

/-- A sequence fails with its first part, or with its second part on the result of the first. -/
theorem bind_result_eq_error {x : Logged ε α} {f : α → Logged ε β} {e : ε} :
    (x.bind f).result = .error e ↔
      x.result = .error e ∨ ∃ a, x.result = .ok a ∧ (f a).result = .error e := by
  cases h : x.result <;> simp [bind, h]

end Logged

/-! ## Operations of drafts -/

namespace Draft

variable {config : NamingConfig} {r : Registry W} {d next : Draft W} {event : Event}

/-- The name of the test case of a scenario. -/
def nameOf (config : NamingConfig) (s : Scenario W) : String :=
  config.scenarioPrefix ++ slugify s.title

/-- The scenarios that an event adds to the feature: at the end of a scenario the open one, and at the end of
an examples block those that the latest outline makes of its table. -/
def ended (r : Registry W) (d : Draft W) : Event → List (Scenario W)
  | .finishScenario => d.current.toList
  | .finishExamples =>
    match d.examples, d.table, d.outline with
    | some (label, tags), some table, some outline =>
      (outline.expand (.ofTable label tags table) r).result.toOption.getD []
    | _, _, _ => []
  | _ => []

/-- The scenarios that events add to the feature, in order. -/
def candidates (config : NamingConfig) (r : Registry W) : Draft W → List Event → List (Scenario W)
  | _, [] => []
  | d, event :: events =>
    d.ended r event ++
      match (d.handle config r event).result with
      | .ok next => candidates config r next events
      | .error _ => []

/-- The candidates of an event come before those of the events behind it. -/
theorem candidates_cons {events : List Event} (h : (d.handle config r event).result = .ok next) :
    d.candidates config r (event :: events) = d.ended r event ++ next.candidates config r events := by
  rw [candidates, h]

/-- The handler that builds answers with the result of the draft. -/
theorem answer_builder_eq (d : Draft W) (event : Event) :
    (builder config r).answer d event = (d.handle config r event).result := by
  unfold Handler.answer builder
  dsimp only
  cases (d.handle config r event).result <;> rfl

/-- The handler that builds takes an event where the draft has a result for it. -/
theorem answer_builder :
    (builder config r).answer d event = .ok next ↔ (d.handle config r event).result = .ok next := by
  rw [answer_builder_eq]

/-- A scenario joins the feature under its generated name, if there is a feature. -/
theorem addScenario_result (s : Scenario W) :
    (d.addScenario config s).result =
      .ok { d with feature := d.feature.map fun f => f.addScenario (nameOf config s) s } := by
  unfold addScenario
  cases hfeature : d.feature with
  | none =>
    obtain ⟨⟩ := d
    cases hfeature
    rfl
  | some f => rfl

/-- Scenarios join the feature in their order. -/
theorem addScenarios_result (scenarios : List (Scenario W)) :
    (addScenarios config scenarios d).result =
      .ok { d with feature := d.feature.map fun f => f.addAll (nameOf config) scenarios } := by
  induction scenarios generalizing d with
  | nil =>
    obtain ⟨⟩ := d
    simp [addScenarios, Logged.pure, Feature.addAll]
  | cons s scenarios ih =>
    unfold addScenarios
    rw [Logged.bind, addScenario_result]
    dsimp only
    rw [ih, Option.map_map]
    rfl

/-- What is attached to a step that has nothing yet: the multiline block, or else the table. -/
theorem attach_eq {step : Step W} {keyword : Keyword} {text : String}
    (hstep : step.toStepText = ⟨keyword, text, none, none⟩) :
    (d.attach step).1 =
        { d with multilines := none, table := if d.multilines.isSome then d.table else none } ∧
      (d.attach step).2.toStepText =
        ⟨keyword, text, d.multilines, if d.multilines.isSome then none else d.table⟩ ∧
      (d.attach step).2.binding = step.binding := by
  unfold attach
  obtain ⟨_, _, _, _, _, _, _, _, _, multilines, table, _⟩ := d
  cases multilines with
  | some lines => exact ⟨rfl, by dsimp only [Step.withMultiline]; rw [hstep]; rfl, rfl⟩
  | none =>
    cases table with
    | some table => exact ⟨rfl, by dsimp only [Step.withTable]; rw [hstep]; rfl, rfl⟩
    | none => exact ⟨rfl, hstep, rfl⟩

/-- A step that ends joins the open block, with what has ended and belongs to it, and bound by its own
text. -/
theorem closeStep_result {keyword : Keyword} {text : String} (hstep : d.step = some (keyword, text))
    (h : (d.closeStep r).result = .ok next) :
    ∃ step : Step W,
      step.toStepText = ⟨keyword, text, d.multilines, if d.multilines.isSome then none else d.table⟩ ∧
      r.resolve keyword text = .ok step.binding ∧
      next =
        { d with
          step := none
          multilines := none
          table := if d.multilines.isSome then d.table else none
          current := d.current.map (·.addStep step) } := by
  unfold closeStep at h
  rw [hstep] at h
  dsimp only at h
  rw [Logged.bind_result_eq_ok] at h
  obtain ⟨made, hmade, h⟩ := h
  rw [Logged.mapError_result_eq_ok] at hmade
  obtain ⟨htext, hbinding⟩ := (Step.make_binds keyword text).of_ok hmade
  obtain ⟨hdraft, hattached, hsame⟩ := attach_eq (d := { d with step := none }) htext
  dsimp only at hdraft hattached h
  rw [hdraft] at h
  cases h
  exact ⟨_, hattached, by rw [hsame, hbinding], rfl⟩

/-- A step that ends leaves all places as they are but its own, those of what belongs to it, and the open
block. -/
theorem exists_closeStep_result (h : (d.closeStep r).result = .ok next) : ∃ multilines table current,
    next = { d with step := none, multilines := multilines, table := table, current := current } := by
  cases hstep : d.step with
  | none =>
    unfold closeStep at h
    rw [hstep] at h
    cases h
    refine ⟨d.multilines, d.table, d.current, ?_⟩
    obtain ⟨⟩ := d
    cases hstep
    rfl
  | some step =>
    obtain ⟨_, -, -, rfl⟩ := closeStep_result hstep h
    exact ⟨_, _, _, rfl⟩

/-- A scenario that ends joins the feature, and leaves nothing behind. -/
theorem finishScenario_result (h : (d.handle config r .finishScenario).result = .ok next) :
    next =
      { d with
        current := none
        feature := d.feature.map fun f => f.addAll (nameOf config) (d.ended r .finishScenario) } := by
  unfold handle at h
  dsimp only at h
  unfold ended
  cases hcurrent : d.current with
  | none =>
    rw [hcurrent] at h
    cases h
    obtain ⟨⟩ := d
    cases hcurrent
    simp [Feature.addAll]
  | some scenario =>
    rw [hcurrent] at h
    dsimp only at h
    rw [addScenario_result] at h
    cases h
    rfl

/-- A feature that ends adds its test cases to the suite, and leaves nothing behind. -/
theorem closeFeature_result (h : (d.closeFeature config).result = .ok next) :
    next =
      { d with
        feature := none
        suite := d.suite ++ (d.feature.map fun f => f.cases (config.featurePrefix ++ slugify f.title)).getD [] } := by
  unfold closeFeature at h
  cases hfeature : d.feature with
  | none =>
    rw [hfeature] at h
    cases h
    obtain ⟨⟩ := d
    cases hfeature
    simp
  | some f =>
    rw [hfeature] at h
    cases h
    rfl

/-- The test cases that the end of a feature adds are those of the feature. -/
theorem exists_of_mem_finished {feature : Option (Feature W)} {group : Feature W → String} {c : TestCase W}
    (h : c ∈ (feature.map fun f => f.cases (group f)).getD []) :
    ∃ f, feature = some f ∧ c ∈ f.cases (group f) := by
  cases feature with
  | none => cases h
  | some f => exact ⟨f, rfl, h⟩

/-- The scenarios that an examples block adds are those that its outline makes of its table. -/
theorem expand_of_closeExamples {label : String} {tags : TagSet} {table : Table} {outline : Scenario W}
    (hexamples : d.examples = some (label, tags)) (htable : d.table = some table)
    (houtline : d.outline = some outline) (h : (d.closeExamples config r).result = .ok next) :
    (outline.expand (.ofTable label tags table) r).result = .ok (d.ended r .finishExamples) := by
  unfold closeExamples at h
  rw [hexamples, htable, houtline] at h
  dsimp only at h
  rw [Logged.bind_result_eq_ok] at h
  obtain ⟨scenarios, hscenarios, -⟩ := h
  rw [Logged.mapError_result_eq_ok] at hscenarios
  unfold ended
  rw [hexamples, htable, houtline]
  dsimp only
  rw [hscenarios]
  rfl

/-- An examples block that ends adds its scenarios, and leaves nothing behind. -/
theorem closeExamples_result (h : (d.closeExamples config r).result = .ok next) :
    next =
      { d with
        examples := none
        table := none
        feature := d.feature.map fun f => f.addAll (nameOf config) (d.ended r .finishExamples) } := by
  have hnothing : d.feature.map (fun f => f.addAll (nameOf config) []) = d.feature :=
    Option.map_id'
  have hended := h
  unfold closeExamples at h
  match hexamples : d.examples, htable : d.table, houtline : d.outline with
  | some (label, tags), some table, some outline =>
    have hexpand := expand_of_closeExamples hexamples htable houtline hended
    rw [hexamples, htable, houtline] at h
    dsimp only at h
    rw [Logged.bind_result_eq_ok] at h
    obtain ⟨scenarios, hscenarios, h⟩ := h
    rw [Logged.mapError_result_eq_ok, hexpand] at hscenarios
    cases hscenarios
    rw [addScenarios_result] at h
    cases h
    rfl
  | none, _, _ | some _, none, _ | some _, some _, none =>
    unfold ended
    rw [hexamples, htable, houtline] at h ⊢
    cases h
    rw [hnothing]

/-- A row that is taken stands behind the rows of the table. -/
theorem tableData_result {cells : List String}
    (h : (d.handle config r (.tableData cells)).result = .ok next) :
    next = { d with table := d.table.map fun t => ⟨t.keys, t.rows ++ [cells]⟩ } := by
  unfold handle at h
  dsimp only at h
  cases htable : d.table with
  | none =>
    rw [htable] at h
    cases h
    obtain ⟨⟩ := d
    cases htable
    rfl
  | some table =>
    rw [htable] at h
    dsimp only at h
    cases hrow : table.addRow cells with
    | error row =>
      rw [hrow] at h
      cases h
    | ok added =>
      rw [hrow] at h
      cases h
      obtain ⟨-, rfl⟩ := Table.addRow_eq_ok.mp hrow
      rfl

/-- Why a draft refuses an event: a step that ends is ambiguous, or something is in the way of a row of an
examples block, or the cells of a row do not fit the keys of the table. -/
inductive Refuses (r : Registry W) (d : Draft W) : Event → LoadFault → Prop where
  | ambiguous {keyword : Keyword} {text : String} {a : Ambiguity} : d.step = some (keyword, text) →
      r.ambiguity? (keyword, text) = some a → Refuses r d .finishStep (.ambiguous a)
  | expansion {label : String} {tags : TagSet} {table : Table} {outline : Scenario W} {cells : List String}
      {obstacle : Scenario.Obstacle} {fault : ExpansionFault} : d.examples = some (label, tags) →
      d.table = some table → d.outline = some outline → cells ∈ table.rows →
      obstacle ∈ outline.obstacles (table.pairs cells) → obstacle.fault? r = some fault →
      Refuses r d .finishExamples (.expansion fault)
  | uneven {table : Table} {cells : List String} {row : UnevenRow} : d.table = some table →
      table.addRow cells = .error row → Refuses r d (.tableData cells) (.uneven row)

/-- **A draft refuses** nothing else. -/
theorem refuses_of_handle {fault : LoadFault} (h : (d.handle config r event).result = .error fault) :
    d.Refuses r event fault := by
  cases event with
  | finishFeature =>
    unfold handle closeFeature at h
    dsimp only at h
    split at h <;> cases h
  | finishScenario =>
    unfold handle at h
    dsimp only at h
    split at h
    · rw [addScenario_result] at h
      cases h
    · cases h
  | finishExamples =>
    unfold handle closeExamples at h
    dsimp only at h
    split at h
    · next label tags table outline hexamples htable houtline =>
      rcases Logged.bind_result_eq_error.mp h with h | ⟨scenarios, -, h⟩
      · obtain ⟨fault, hfault, rfl⟩ := Logged.mapError_result_eq_error.mp h
        have hfirst := (outline.expand_passes label tags table).of_error hfault
        obtain ⟨obstacle, hobstacle, hfault⟩ := List.exists_of_findSome?_eq_some hfirst
        obtain ⟨cells, hcells, hobstacle⟩ := List.mem_flatMap.mp hobstacle
        exact .expansion hexamples htable houtline hcells hobstacle hfault
      · rw [addScenarios_result] at h
        cases h
    · cases h
  | finishStep =>
    unfold handle closeStep at h
    dsimp only at h
    split at h
    · cases h
    · next keyword text hstep =>
      rcases Logged.bind_result_eq_error.mp h with h | ⟨step, -, h⟩
      · obtain ⟨a, ha, rfl⟩ := Logged.mapError_result_eq_error.mp h
        have hfirst := (Step.make_binds keyword text).of_error ha
        rw [List.findSome?_singleton] at hfirst
        exact .ambiguous hstep hfirst
      · cases h
  | tableData cells =>
    unfold handle at h
    dsimp only at h
    split at h
    · cases h
    · next table htable =>
      split at h
      · cases h
      · next row hrow =>
        cases h
        exact .uneven htable hrow
  | _ => cases h

end Draft

/-! ## Texts -/

namespace Session

/-- The events of a text: what a handler is shown that refuses nothing. -/
def eventsOf (text : String) : List Event :=
  (parseText recorder { state := [] } text).1.state

/-- A handler that records has all events in their order. -/
theorem foldl_recorder (seen events : List Event) :
    events.foldl (fun seen event => (recorder.handle seen event).state) seen = seen ++ events := by
  induction events generalizing seen with
  | nil => rw [List.append_nil]; rfl
  | cons event events ih =>
    rw [List.foldl_cons, ih]
    exact List.append_cons seen event events ▸ rfl

/-- The events of a text are those of its transcript. -/
theorem eventsOf_eq (text : String) :
    eventsOf text = (Transcript.ofLines textSource (linesOf text) none).events := by
  have accepting : recorder.Accepting := fun _ _ => rfl
  have hfollows := parse_follows (h := recorder) textSource (linesOf text) none { state := [] }
  obtain ⟨-, hstate, -⟩ := hfollows.of_ok (accepting.answerAll_eq_ok _ _)
  rw [foldl_recorder] at hstate
  exact hstate

end Session

namespace Loader

variable {l : Loader W} {text : String} {suite : Suite W}

/-- A loader that gives a suite has read the text to its end. -/
theorem exists_session_of_loadText (h : (l.loadText text).result = .ok suite) :
    ∃ s : Session (Draft W),
      Session.parse (Draft.builder l.config l.registry) { state := {} } Session.textSource (linesOf text)
        none = (s, .ok ()) ∧
      s.log = (l.loadText text).log ∧ s.state.suite = suite := by
  unfold loadText Session.parseText Session.parseLines at h ⊢
  generalize Session.parse _ _ _ _ _ = ended at h ⊢
  unfold result at h ⊢
  split at h
  · next s => exact ⟨s, rfl, rfl, Except.ok.inj h⟩
  all_goals cases h

/-- A text that is loaded has no fault. -/
theorem fault_of_loadText (h : (l.loadText text).result = .ok suite) :
    (Transcript.ofLines Session.textSource (linesOf text) none).fault = none := by
  obtain ⟨s, hparse, -, -⟩ := exists_session_of_loadText h
  have hfollows := Session.parse_follows (h := Draft.builder l.config l.registry) Session.textSource
    (linesOf text) none { state := {} }
  rw [hparse] at hfollows
  exact (hfollows.of_outcome rfl).2.2

/-- **What a loader says about a text** is what its draft has become after the events of the text, and these
have taken their course. -/
theorem exists_answerAll_of_loadText (h : (l.loadText text).result = .ok suite) :
    (∃ d : Draft W, (Draft.builder l.config l.registry).answerAll {} (Session.eventsOf text) = .ok d ∧
        d.suite = suite) ∧
      ∃ m, Course .outside (Session.eventsOf text) m ∧ (m = .outside ∨ m = .closed) := by
  obtain ⟨s, hparse, -, hsuite⟩ := exists_session_of_loadText h
  have hfollows := Session.parse_follows (h := Draft.builder l.config l.registry) Session.textSource
    (linesOf text) none { state := {} }
  rw [hparse] at hfollows
  rw [Session.eventsOf_eq]
  exact ⟨⟨s.state, (hfollows.of_outcome rfl).1, hsuite⟩, Transcript.exists_course (fault_of_loadText h)⟩

end Loader

/-! ## Invariants -/

/-- **What each of some events preserves**, all of them preserve. -/
theorem Draft.answerAll_invariant {config : NamingConfig} {r : Registry W} {I : Draft W → Prop}
    {events : List Event} (step : ∀ event ∈ events, ∀ {d next : Draft W}, I d →
      (d.handle config r event).result = .ok next → I next)
    {d final : Draft W} (hanswers : (builder config r).answerAll d events = .ok final) (h : I d) : I final := by
  induction events generalizing d with
  | nil =>
    cases hanswers
    exact h
  | cons event events ih =>
    obtain ⟨next, hanswer, hrest⟩ := Handler.answerAll_cons_eq_ok.mp hanswers
    obtain ⟨hfirst, hothers⟩ := List.forall_mem_cons.mp step
    exact ih hothers hrest (hfirst h (answer_builder.mp hanswer))

/-- What has been reported at a place in a document, the latest event first. -/
abbrev History : Type := List Event

/-- **What every event preserves** holds after any course of events. -/
theorem Course.invariant {config : NamingConfig} {r : Registry W} {I : Stage → History → Draft W → Prop}
    (step : ∀ {m n : Stage} {event : Event} {past : History} {d next : Draft W}, Moves m event n →
      I m past d → (d.handle config r event).result = .ok next → I n (event :: past) next)
    {m last : Stage} {events : List Event} {past : History} {d final : Draft W}
    (course : Course m events last) (hanswers : (Draft.builder config r).answerAll d events = .ok final)
    (h : I m past d) : I last (events.reverse ++ past) final := by
  induction course generalizing past d with
  | nil m =>
    cases hanswers
    exact h
  | cons hmoves _ ih =>
    obtain ⟨next, hanswer, hrest⟩ := Handler.answerAll_cons_eq_ok.mp hanswers
    rw [List.reverse_cons, List.append_assoc, List.singleton_append]
    exact ih hrest (step hmoves h (Draft.answer_builder.mp hanswer))

end Acceptance
