import Acceptance.Proofs.Load.Backgrounds
import Acceptance.Proofs.Step.Resolution

/-!
# Steps and their definitions

Every step of a loaded suite is bound by its own text, the filled text where a row has filled it: to the one
definition that this text matches, with what that captures, and to none where it matches none. A text that
matches several definitions is not loaded, wherever in the document it stands, and whether or not a test
case comes of it (`Loader.bindings_of_loadText`).
-/

set_option autoImplicit false

namespace Acceptance

variable {W : Type}

/-! ## Bound alone -/

/-- A step that is bound to the only definition that its text matches, with what that captures, and to none
where there is no such definition. -/
structure Step.BoundAlone (r : Registry W) (step : Step W) : Prop where
  isDefined_iff : step.isDefined = true ↔ (r.matching step.keyword step.text).length = 1
  binding : ∀ b, step.binding = some b → r.matching step.keyword step.text = [b.definition] ∧
    b.definition.pattern.search (Registry.subject step.keyword step.text) = some b.args
  undefined_iff : step.isDefined = false ↔ r.matching step.keyword step.text = []

/-- A step that has been resolved is bound to the only definition that it matches. -/
theorem Step.IsBound.boundAlone {r : Registry W} {step : Step W} (h : step.IsBound r) :
    step.BoundAlone r := by
  have hhits := Registry.resolve_eq_ok_iff.mp h
  have hmatching := r.map_definition_hits step.keyword step.text
  rw [hhits] at hmatching
  cases hbinding : step.binding with
  | none =>
    rw [hbinding] at hmatching
    have hnone : r.matching step.keyword step.text = [] := hmatching.symm
    exact ⟨by simp [isDefined, hbinding, hnone], by simp [hbinding], by simp [isDefined, hbinding, hnone]⟩
  | some b =>
    rw [hbinding] at hmatching hhits
    have hone : r.matching step.keyword step.text = [b.definition] := hmatching.symm
    have hsearch := Registry.search_of_mem_hits (b := b) (by rw [hhits]; exact List.mem_singleton_self b)
    refine ⟨by simp [isDefined, hbinding, hone], ?_, by simp [isDefined, hbinding, hone]⟩
    rw [hbinding]
    rintro _ ⟨⟩
    exact ⟨hone, hsearch⟩

/-- A step that has been resolved is not ambiguous. -/
theorem Step.IsBound.not_isAmbiguous {r : Registry W} {step : Step W} (h : step.IsBound r) :
    ¬ r.IsAmbiguous step.keyword step.text := by
  rcases r.resolve_cases step.keyword step.text with ⟨-, hresolve⟩ | ⟨hone, -⟩
  · rw [IsBound, hresolve] at h
    cases h
  · exact hone

/-! ## Loaded steps -/

/-- The steps of a scenario are those of its backgrounds and its own. -/
theorem Scenario.mem_allSteps {s : Scenario W} {step : Step W} :
    step ∈ s.allSteps ↔ (∃ b ∈ s.backgrounds, step ∈ b.steps) ∨ step ∈ s.steps := by
  simp [allSteps]

/-- A filled step is resolved by its own text. -/
theorem Step.IsFill.isBound {values : Substitution} {r : Registry W} {template filled : Step W}
    (h : IsFill values r template filled) : filled.IsBound r := by
  rw [IsBound, h.keyword, h.text]
  exact h.binding

/-- The steps that a passage makes are resolved by their own texts. -/
theorem Passage.Makes.isBound {r : Registry W} {p : Passage} {b : Block W} (h : p.Makes r b) :
    ∀ step ∈ b.steps, step.IsBound r := by
  intro step hstep
  obtain ⟨span, -, hmakes⟩ := exists_left_of_mem h.steps hstep
  exact hmakes.bound

/-- **What a place yields is bound**, the steps of the scenario and those of its backgrounds, whether it is
taken as it is or filled by a row. -/
theorem History.Yields.isBound {r : Registry W} {past : History} {event : Event} {index : Nat}
    {s : Scenario W} (h : past.Yields r event index s) : ∀ step ∈ s.allSteps, step.IsBound r := by
  intro step hstep
  rw [Scenario.mem_allSteps] at hstep
  cases h with
  | scenario _ hmakes =>
    rcases hstep with ⟨b, hb, hstep⟩ | hstep
    · obtain ⟨p, -, hp⟩ := exists_left_of_mem hmakes.backgrounds hb
      exact hp.isBound step hstep
    · exact hmakes.block.isBound step hstep
  | row _ _ _ _ hbackgrounds hsteps =>
    rcases hstep with ⟨b, hb, hstep⟩ | hstep
    · obtain ⟨template, -, hfill⟩ := exists_left_of_mem hbackgrounds hb
      obtain ⟨_, -, hstep⟩ := exists_left_of_mem hfill.steps hstep
      exact hstep.isBound
    · obtain ⟨_, -, hstep⟩ := exists_left_of_mem hsteps hstep
      exact hstep.isBound

/-! ## Steps of a document -/

/-- A step in the events of a document: one that is written there, or one of an outline or of its background
as a row of an examples block fills it. -/
inductive StepIn (events : List Event) : Keyword → String → Prop where
  | written {keyword : Keyword} {text : String} : .startStep keyword text ∈ events →
      StepIn events keyword text
  | filled {past : History} {after : List Event} {x : Scoped} {table : Table} {cells : List String}
      {span : Span} : events = past.reverse ++ .finishExamples :: after → past.outline? = some x →
      past.table? = some table → cells ∈ table.rows →
      span ∈ x.block.steps ++ x.background.toList.flatMap Passage.steps →
      StepIn events span.keyword ((table.values cells).apply span.text)

/-- Every step that begins has a span of its own. -/
theorem Span.exists_of_startStep_mem {keyword : Keyword} {text : String} {events : List Event}
    (h : .startStep keyword text ∈ events) :
    ∃ span ∈ ofEvents events, span.keyword = keyword ∧ span.text = text := by
  induction events with
  | nil => cases h
  | cons event events ih =>
    rcases List.mem_cons.mp h with rfl | h
    · exact ⟨_, List.mem_cons_self, rfl, rfl⟩
    · obtain ⟨span, hspan, hkey⟩ := ih h
      refine ⟨span, ?_, hkey⟩
      cases event with
      | startStep => exact List.mem_cons_of_mem _ hspan
      | _ => exact hspan

namespace Draft

variable {config : NamingConfig} {r : Registry W} {keyword : Keyword} {text : String}
  {earlier rest events : List Event} {past : History} {m : Stage} {final : Draft W}

/-- The steps of the open block are those of its events. -/
theorem exists_forall₂_makes {k : BlockKind} (course : Course .outside events (.block k))
    (hanswers : (builder config r).answerAll {} events = .ok final) :
    ∃ b : Scenario W, List.Forall₂ (Span.Makes r) (Span.ofEvents (History.sinceBound events.reverse)) b.steps := by
  obtain ⟨added, hrecalls⟩ := (recalls_nil config).course course hanswers
  rw [List.append_nil] at hrecalls
  obtain ⟨b, x, -, hscoped, -, hmakes⟩ :=
    (Scopes.course course hanswers).exists_scoped hrecalls (Fills.course course hanswers)
  obtain ⟨p, hp, rfl⟩ := Option.map_eq_some_iff.mp hscoped
  obtain ⟨o, -, rfl⟩ := Option.map_eq_some_iff.mp hp
  exact ⟨b, hmakes.block.steps⟩

/-- **A step that is written is bound** by the end of its block. -/
theorem not_isAmbiguous_of_startStep (course : Course .outside (earlier ++ .startStep keyword text :: rest) m)
    (hm : m = .outside ∨ m = .closed)
    (hanswers : (builder config r).answerAll {} (earlier ++ .startStep keyword text :: rest) = .ok final) :
    ¬ r.IsAmbiguous keyword text := by
  obtain ⟨middle, hearlier, hfrom⟩ := course.exists_of_append
  cases hfrom with
  | cons hmoves hrest =>
    obtain ⟨k, rfl, rfl⟩ := hmoves.of_startStep
    have hpart : m.part ≠ .block k := by
      rcases hm with rfl | rfl <;> nofun
    obtain ⟨body, later, rfl, hbody, -, hbounds⟩ := hrest.exists_finish rfl hpart
    have hblock : Course .outside (earlier ++ .startStep keyword text :: body) (.block k) :=
      hearlier.append (.cons hmoves hbody)
    have hsplit : earlier ++ .startStep keyword text :: (body ++ k.finish :: later) =
        (earlier ++ .startStep keyword text :: body) ++ k.finish :: later := by simp
    rw [hsplit, Handler.answerAll_append_eq_ok] at hanswers
    obtain ⟨d, hd, -⟩ := hanswers
    obtain ⟨b, hmakes⟩ := exists_forall₂_makes hblock hd
    -- at the end of the block the step is one of those that the block has been given
    have hmem : .startStep keyword text ∈
        History.sinceBound (earlier ++ .startStep keyword text :: body).reverse := by
      have hinner : ∀ event ∈ .startStep keyword text :: body, event.boundsBlock = false :=
        List.forall_mem_cons.mpr ⟨rfl, hbounds⟩
      rw [List.reverse_append, History.sinceBound_append hinner]
      simp
    obtain ⟨span, hspan, rfl, rfl⟩ := Span.exists_of_startStep_mem hmem
    obtain ⟨step, -, hstep⟩ := exists_right_of_mem hmakes hspan
    have hbound := hstep.bound.not_isAmbiguous
    have hkeyword : step.keyword = span.keyword := congrArg StepText.keyword hstep.text
    have htext : step.text = span.text := congrArg StepText.text hstep.text
    rwa [hkeyword, htext] at hbound

/-- The templates of an outline are what its steps, and those of its background, ask for. -/
theorem exists_template {x : Scoped} {outline : Scenario W} (h : x.Makes r outline) {span : Span}
    (hspan : span ∈ x.block.steps ++ x.background.toList.flatMap Passage.steps) :
    ∃ template ∈ outline.templates, template.keyword = span.keyword ∧ template.text = span.text := by
  have hmade : ∃ template ∈ outline.templates, span.Makes r template := by
    unfold Scenario.templates
    rcases List.mem_append.mp hspan with hspan | hspan
    · obtain ⟨template, htemplate, hmakes⟩ := exists_right_of_mem h.block.steps hspan
      exact ⟨template, List.mem_append_left _ htemplate, hmakes⟩
    · obtain ⟨p, hp, hspan⟩ := List.mem_flatMap.mp hspan
      obtain ⟨b, hb, hmakes⟩ := exists_right_of_mem h.backgrounds hp
      obtain ⟨template, htemplate, hmakes⟩ := exists_right_of_mem hmakes.steps hspan
      have hnearest : b ∈ outline.backgrounds.head?.toList := by
        match hbackgrounds : outline.backgrounds, h.length_backgrounds_le with
        | [nearest], _ =>
          rw [hbackgrounds] at hb
          exact hb
        | [], _ =>
          rw [hbackgrounds] at hb
          cases hb
      exact ⟨template, List.mem_append_right _ (List.mem_flatMap.mpr ⟨b, hnearest, htemplate⟩), hmakes⟩
  obtain ⟨template, htemplate, hmakes⟩ := hmade
  exact ⟨template, htemplate, congrArg StepText.keyword hmakes.text, congrArg StepText.text hmakes.text⟩

/-- **A step that a row fills is bound** when its examples block ends. -/
theorem not_isAmbiguous_of_finishExamples {after : List Event} {x : Scoped} {table : Table}
    {cells : List String} {span : Span}
    (course : Course .outside (past.reverse ++ .finishExamples :: after) m)
    (hanswers : (builder config r).answerAll {} (past.reverse ++ .finishExamples :: after) = .ok final)
    (hx : past.outline? = some x) (htable : past.table? = some table) (hcells : cells ∈ table.rows)
    (hspan : span ∈ x.block.steps ++ x.background.toList.flatMap Passage.steps) :
    ¬ r.IsAmbiguous span.keyword ((table.values cells).apply span.text) := by
  obtain ⟨d, hd, hafter⟩ := Handler.answerAll_append_eq_ok.mp hanswers
  obtain ⟨next, hnext, -⟩ := Handler.answerAll_cons_eq_ok.mp hafter
  have hnext := answer_builder.mp hnext
  obtain ⟨m, hpast, hrest⟩ := course.exists_of_append
  cases hrest with
  | cons hmoves _ =>
    obtain rfl := hmoves.of_finishExamples
    obtain ⟨added, hrecalls⟩ := (recalls_nil config).course hpast hd
    rw [List.append_nil, List.reverse_reverse] at hrecalls
    have hscopes := Scopes.course hpast hd
    rw [List.reverse_reverse] at hscopes
    obtain ⟨label, before, -, hexamples⟩ := hrecalls.examples rfl
    have hheld : d.table = some table := by rw [(hrecalls.table rfl).1, htable]
    have houtline := hscopes.outline
    rw [hx] at houtline
    obtain ⟨outline, hlatest, hmakes⟩ : ∃ outline, d.outline = some outline ∧ x.Makes r outline := by
      generalize d.outline = latest at houtline
      cases houtline with
      | some hmakes => exact ⟨_, rfl, hmakes⟩
    have hexpand := expand_of_closeExamples hexamples hheld hlatest hnext
    obtain ⟨template, htemplate, hkeyword, htext⟩ := exists_template hmakes hspan
    rw [← hkeyword, ← htext]
    exact Scenario.not_isAmbiguous_of_expand hexpand hcells htemplate

end Draft

/-! ## Texts -/

namespace Loader

variable {l : Loader W} {text : String} {suite : Suite W}

/-- The scenario of a test case is what some place in the text yields. -/
theorem exists_yields_of_loadText (h : (l.loadText text).result = .ok suite) {c : TestCase W} (hc : c ∈ suite)
    {s : Scenario W} (hs : c.scenario = some s) :
    ∃ past event index, History.Yields l.registry past event index s := by
  obtain ⟨⟨final, hanswers, -⟩, last, hcourse, -⟩ := exists_answerAll_of_loadText h
  rcases feature_of_loadText h with ⟨-, f, group, rfl, hkeeps⟩ | ⟨-, rfl, -⟩
  · rcases Feature.mem_cases.mp hc with ⟨-, rfl⟩ | ⟨name, _, hkept, rfl⟩
    · cases hs
    · cases hs
      obtain ⟨earlier, later, hcandidates, -, -⟩ := hkeeps.mem_iff.mp hkept
      obtain ⟨place, -, -, hyields⟩ := Draft.exists_place hcourse hanswers hcandidates
      exact ⟨_, _, _, hyields⟩
  · cases hc

/-- No step of a text that is loaded is ambiguous, as it is written or as a row fills it. -/
theorem not_isAmbiguous_of_loadText (h : (l.loadText text).result = .ok suite) {keyword : Keyword}
    {stepText : String} (hstep : StepIn (Session.eventsOf text) keyword stepText) :
    ¬ l.registry.IsAmbiguous keyword stepText := by
  obtain ⟨⟨final, hanswers, -⟩, last, hcourse, hlast⟩ := exists_answerAll_of_loadText h
  generalize Session.eventsOf text = events at *
  cases hstep with
  | written hmem =>
    obtain ⟨earlier, rest, rfl⟩ := List.append_of_mem hmem
    exact Draft.not_isAmbiguous_of_startStep hcourse hlast hanswers
  | filled hevents hx htable hcells hspan =>
    subst hevents
    exact Draft.not_isAmbiguous_of_finishExamples hcourse hanswers hx htable hcells hspan

/-- **Steps are bound by their own text.** Every step of a loaded suite, one of a background included, is bound
to the only definition that its text matches, and to none where it matches none. A text in which a step
matches several definitions, as it is written or as a row fills it, is not loaded. -/
theorem bindings_of_loadText (l : Loader W) (text : String) :
    (∀ suite, (l.loadText text).result = .ok suite → ∀ c ∈ suite, ∀ s, c.scenario = some s →
      ∀ step ∈ s.allSteps, step.BoundAlone l.registry) ∧
    ∀ keyword stepText, StepIn (Session.eventsOf text) keyword stepText →
      l.registry.IsAmbiguous keyword stepText → ∀ suite, (l.loadText text).result ≠ .ok suite := by
  constructor
  · intro suite h c hc s hs step hstep
    obtain ⟨past, event, index, hyields⟩ := exists_yields_of_loadText h hc hs
    exact (hyields.isBound step hstep).boundAlone
  · intro keyword stepText hstep hambiguous suite h
    exact not_isAmbiguous_of_loadText h hstep hambiguous

/-- A row that binds a step, and one that makes the same step ambiguous. -/
theorem bindings_rows :
    let r : Registry Unit := ⟨.standard, ["own (\\d)", "1"].filterMap fun source =>
      (Engine.standard.compile source).toOption.map fun p => ⟨p, fun _ world => (world, .passed)⟩⟩
    let l : Loader Unit := ⟨r, {}⟩
    let text (value : String) := "Feature: f\nBackground:\nGiven x\nScenario Outline: o\nGiven own <k>\n" ++
      "Examples:\n| k |\n| " ++ value ++ " |\n"
    (∃ suite c s, (l.loadText (text "2")).result = .ok suite ∧ c ∈ suite ∧ c.scenario = some s ∧
      s.allSteps.map (fun step => (step.text, step.binding.map (·.args))) =
        [("x", none), ("own 2", some ["2"])] ∧
      ∀ step ∈ s.allSteps, step.BoundAlone r) ∧
    StepIn (Session.eventsOf (text "1")) .given "own 1" ∧ r.IsAmbiguous .given "own 1" ∧
      ∀ suite, (l.loadText (text "1")).result ≠ .ok suite := by
  intro r l text
  have hsteps : (l.loadText (text "2")).result.toOption.map (List.map fun c => c.scenario.map fun s =>
      s.allSteps.map fun step => (step.text, step.binding.map (·.args))) =
        some [some [("x", none), ("own 2", some ["2"])]] := by decide +kernel
  obtain ⟨suite, hsuite, hsteps⟩ := Logged.exists_ok_of_map hsteps
  obtain ⟨c, rest, hsplit, hc, -⟩ := List.map_eq_cons_iff.mp hsteps
  obtain ⟨s, hs, hsteps⟩ := Option.map_eq_some_iff.mp hc
  have hmem : c ∈ suite := by
    rw [hsplit]
    exact List.mem_cons_self
  have hambiguous : r.IsAmbiguous .given "own 1" := by
    have htwo : 2 ≤ (r.matching .given "own 1").length := by decide +kernel
    exact htwo
  let before : List Event := [.startParse "<string>", .startFeature "f", .startBackground "", .startStep .given "x",
    .finishStep, .finishBackground, .startOutline "o", .startStep .given "own <k>", .finishStep, .finishOutline,
    .startExamples "", .startTable ["k"], .tableData ["1"], .finishTable]
  have hevents : Session.eventsOf (text "1") =
      before.reverse.reverse ++ .finishExamples :: [.finishFeature, .finishParse] := by decide +kernel
  let past : History := before.reverse
  have houtline : past.outline?.map (fun x => x.block.steps.map fun span => (span.keyword, span.text)) =
      some [(.given, "own <k>")] := by decide
  have htable : past.table? = some ⟨["k"], [["1"]]⟩ := by decide
  have hfill : (Table.values ⟨["k"], [["1"]]⟩ ["1"]).apply "own <k>" = "own 1" := by decide +kernel
  obtain ⟨x, hx, hspans⟩ := Option.map_eq_some_iff.mp houtline
  obtain ⟨span, _, hspan, hkey, -⟩ := List.map_eq_cons_iff.mp hspans
  obtain ⟨hkeyword, htext⟩ := Prod.mk.inj hkey
  have hstep : StepIn (Session.eventsOf (text "1")) .given "own 1" := by
    rw [← hfill, ← hkeyword, ← htext]
    refine .filled hevents hx htable (List.mem_singleton_self _) (List.mem_append_left _ ?_)
    rw [hspan]
    exact List.mem_cons_self
  refine ⟨⟨suite, c, s, hsuite, hmem, hs, hsteps, ?_⟩, hstep, hambiguous, ?_⟩
  · exact (bindings_of_loadText l (text "2")).1 suite hsuite c hmem s hs
  · exact (bindings_of_loadText l (text "1")).2 .given "own 1" hstep hambiguous

end Loader

end Acceptance
