import Mathlib.Data.List.Perm.Subperm
import Acceptance.Proofs.Document.Nesting
import Acceptance.Proofs.Load.Cases

/-!
# How many test cases a text has

Every scenario of a text and every row of an examples block asks for a test case (`Counted`). The row of an
examples block never comes to nothing, because the block stands behind an outline. Whether as many test cases
are left in the suite is a matter of names alone: the number is that of the distinct names, and nothing is
displaced just where all names are distinct (`Loader.length_of_loadText`).
-/

set_option autoImplicit false

namespace Acceptance

variable {W : Type}

/-! ## Counting in a history -/

namespace History

/-- Whether an examples block is open. -/
def inExamples : History → Bool
  | [] => false
  | .startExamples _ :: _ => true
  | .finishExamples :: _ => false
  | _ :: past => inExamples past

/-- The number of rows below the keys of the tables of examples blocks. -/
def examplesRows : History → Nat
  | [] => 0
  | .tableData _ :: past => examplesRows past + (inExamples past).toNat
  | _ :: past => examplesRows past

/-- The number of scenario headers. -/
def scenarioHeaders (past : History) : Nat :=
  past.countP fun event => (BlockKind.scenario.title? event).isSome

/-- Whether an outline has ended before the header of every examples block. -/
def Outlined (past : History) : Prop :=
  ∀ label before, .startExamples label :: before <:+ past → .finishOutline ∈ before

/-- Where outlines come before examples blocks, they do so at any time before. -/
theorem Outlined.of_cons {event : Event} {past : History} (h : Outlined (event :: past)) : Outlined past :=
  fun label before hbefore => h label before (hbefore.trans (List.suffix_cons event past))

/-- A block that has been open is found at any later time. -/
theorem isSome_block?_cons {k : BlockKind} {past : History} (h : (past.block? k).isSome = true)
    (event : Event) : (History.block? k (event :: past)).isSome = true := by
  unfold block? at h ⊢
  rw [Option.isSome_map] at h ⊢
  unfold latest
  split
  · rfl
  · exact h

end History

/-- The scenarios and rows that have been counted in a history, and have not been asked for at a stage. -/
def Stage.unfinished (m : Stage) (past : History) : Nat :=
  match m with
  | block .scenario | step .scenario | multiline .scenario | table .scenario | attached .scenario => 1
  | examplesTable | examplesRead => (past.table?.map fun t => t.rows.length).getD 0
  | _ => 0

/-- A history in which every scenario and every row has been asked for, but for what is unfinished. -/
structure Counted (config : NamingConfig) (m : Stage) (past : History) : Prop where
  inExamples : past.inExamples = true ↔ m.part = .examples
  outline : .finishOutline ∈ past → (past.block? .outline).isSome = true
  examples : m.part = .examples → (past.block? .outline).isSome = true
  count : (past.origins config).length + m.unfinished past = past.scenarioHeaders + past.examplesRows

namespace Counted

variable {config : NamingConfig} {m n : Stage} {event : Event} {past : History}

/-- An event that asks for as much as it finishes. -/
theorem advance (h : Counted config m past)
    (hin : History.inExamples (event :: past) = true ↔ n.part = .examples)
    (houtline : event = .finishOutline → (past.block? .outline).isSome = true)
    (hexamples : n.part = .examples → (past.block? .outline).isSome = true)
    (hcount : (History.ended config past event).length + n.unfinished (event :: past) +
        past.scenarioHeaders + past.examplesRows =
      m.unfinished past + History.scenarioHeaders (event :: past) + History.examplesRows (event :: past)) :
    Counted config n (event :: past) where
  inExamples := hin
  outline hmem := by
    rcases List.mem_cons.mp hmem with hevent | hpast
    · exact History.isSome_block?_cons (houtline hevent.symm) event
    · exact History.isSome_block?_cons (h.outline hpast) event
  examples hn := History.isSome_block?_cons (hexamples hn) event
  count := by
    have hsame := h.count
    rw [History.origins, List.length_append]
    omega

/-- An event that asks for nothing, and neither opens nor closes an examples block. -/
theorem keep (h : Counted config m past) (hpart : n.part = .examples ↔ m.part = .examples)
    (hended : History.ended config past event = [])
    (hin : History.inExamples (event :: past) = past.inExamples)
    (houtline : event = .finishOutline → (past.block? .outline).isSome = true)
    (hcount : n.unfinished (event :: past) + past.scenarioHeaders + past.examplesRows =
      m.unfinished past + History.scenarioHeaders (event :: past) + History.examplesRows (event :: past)) :
    Counted config n (event :: past) := by
  refine h.advance ?_ houtline (fun hn => h.examples (hpart.mp hn)) ?_
  · rw [hin, hpart, h.inExamples]
  · rwa [hended, List.length_nil, Nat.zero_add]

/-- An examples block begins with nothing asked for, behind an outline. -/
theorem startExamples (h : Counted config .body past) (label : String)
    (houtlined : History.Outlined (.startExamples label :: past)) :
    Counted config .examples (.startExamples label :: past) := by
  have hended := houtlined label past (List.suffix_refl _)
  exact h.advance (iff_of_true rfl rfl) Event.noConfusion (fun _ => h.outline hended) rfl

/-- A scenario that ends asks for a test case. -/
theorem finishScenario (h : Counted config (.block .scenario) past)
    (hheader : (past.block? .scenario).isSome = true) :
    Counted config .body (.finishScenario :: past) := by
  obtain ⟨o, ho⟩ := Option.isSome_iff_exists.mp hheader
  have hended : History.ended config past .finishScenario = [o] := by
    rw [History.ended, ho]
    rfl
  have hblock : past.inExamples ≠ true := mt h.inExamples.mp (by decide)
  have hbody : Stage.body.part ≠ .examples := by decide
  refine h.advance (iff_of_false hblock hbody) Event.noConfusion (fun hn => absurd hn hbody) ?_
  rw [hended]
  rfl

/-- An examples block asks for a test case for each of its rows. -/
theorem finishExamples (h : Counted config .examplesRead past)
    (hlabel : (past.latest Event.examplesLabel?).isSome = true) (htable : past.table?.isSome = true) :
    Counted config .body (.finishExamples :: past) := by
  obtain ⟨o, ho⟩ := Option.isSome_iff_exists.mp (h.examples rfl)
  obtain ⟨⟨label, before⟩, hlabel⟩ := Option.isSome_iff_exists.mp hlabel
  obtain ⟨t, ht⟩ := Option.isSome_iff_exists.mp htable
  have hended : (History.ended config past .finishExamples).length = t.rows.length := by
    rw [History.ended, ho, hlabel, ht]
    dsimp only
    rw [Table.zipIdx_views, List.length_map, List.length_map, List.length_zipIdx]
  have hunfinished : Stage.examplesRead.unfinished past = t.rows.length := by
    unfold Stage.unfinished
    rw [ht]
    rfl
  have hbody : Stage.body.part ≠ .examples := by decide
  refine h.advance (iff_of_false Bool.false_ne_true hbody) Event.noConfusion (fun hn => absurd hn hbody) ?_
  rw [hended, hunfinished]
  rfl

/-- A row below the keys of an examples block. -/
theorem examplesData (h : Counted config .examplesTable past) (htable : past.table?.isSome = true)
    (cells : List String) : Counted config .examplesTable (.tableData cells :: past) := by
  obtain ⟨t, ht⟩ := Option.isSome_iff_exists.mp htable
  refine h.keep Iff.rfl rfl rfl nofun ?_
  have hbefore : Stage.examplesTable.unfinished past = t.rows.length := by
    unfold Stage.unfinished
    rw [ht]
    rfl
  have hafter : Stage.examplesTable.unfinished (.tableData cells :: past) = t.rows.length + 1 := by
    unfold Stage.unfinished History.table?
    rw [ht]
    exact List.length_append
  have hrows : History.examplesRows (.tableData cells :: past) = past.examplesRows + 1 := by
    rw [History.examplesRows, h.inExamples.mpr rfl]
    rfl
  have hheaders : History.scenarioHeaders (.tableData cells :: past) = past.scenarioHeaders := rfl
  omega

/-- **Every event preserves** the count. -/
theorem step {added : List (Scenario W)} {d : Draft W} (hmoves : Moves m event n)
    (h : Counted config m past) (hrecalls : Draft.Recalls config m past added d)
    (houtlined : History.Outlined (event :: past)) : Counted config n (event :: past) := by
  -- headers and rows raise what is unfinished, the ends of scenarios and of examples blocks ask for it
  cases hmoves with
  | startParse source => exact h.keep Iff.rfl rfl rfl nofun rfl
  | comment text => exact h.keep Iff.rfl rfl rfl nofun rfl
  | whitespace line => exact h.keep Iff.rfl rfl rfl nofun rfl
  | tags tags => exact h.keep Iff.rfl rfl rfl nofun rfl
  | startFeature title => exact h.keep (iff_of_false nofun nofun) rfl rfl nofun rfl
  | startDescription => exact h.keep (iff_of_false nofun nofun) rfl rfl nofun rfl
  | description text => exact h.keep Iff.rfl rfl rfl nofun rfl
  | finishDescription => exact h.keep (iff_of_false nofun nofun) rfl rfl nofun rfl
  | startBlock k title =>
    cases k with
    | scenario =>
      refine h.keep (iff_of_false nofun nofun) rfl rfl nofun ?_
      have hheaders : History.scenarioHeaders (.startScenario title :: past) = past.scenarioHeaders + 1 :=
        List.countP_cons_of_pos rfl
      have hrows : History.examplesRows (.startScenario title :: past) = past.examplesRows := rfl
      have hbefore : Stage.body.unfinished past = 0 := rfl
      have hafter : (Stage.block .scenario).unfinished (.startScenario title :: past) = 1 := rfl
      rw [BlockKind.start]
      omega
    | _ => exact h.keep (iff_of_false nofun nofun) rfl rfl nofun rfl
  | finishBlock k =>
    cases k with
    | background => exact h.keep (iff_of_false nofun nofun) rfl rfl nofun rfl
    | scenario =>
      obtain ⟨b, o, -, ho, -⟩ := hrecalls.exists_current
      exact h.finishScenario (Option.isSome_of_eq_some ho)
    | outline =>
      obtain ⟨b, o, -, ho, -⟩ := hrecalls.exists_current
      exact h.keep (iff_of_false nofun nofun) rfl rfl (fun _ => Option.isSome_of_eq_some ho) rfl
  | startStep k keyword text => cases k <;> exact h.keep Iff.rfl rfl rfl nofun rfl
  | finishStep k => cases k <;> exact h.keep Iff.rfl rfl rfl nofun rfl
  | startMultiline k indent => cases k <;> exact h.keep Iff.rfl rfl rfl nofun rfl
  | content k text => cases k <;> exact h.keep Iff.rfl rfl rfl nofun rfl
  | finishMultiline k => cases k <;> exact h.keep Iff.rfl rfl rfl nofun rfl
  | startTable k keys => cases k <;> exact h.keep Iff.rfl rfl rfl nofun rfl
  | tableData k cells =>
    refine h.keep Iff.rfl rfl rfl nofun ?_
    have hout : past.inExamples = false := Bool.eq_false_iff.mpr (mt h.inExamples.mp nofun)
    have hrows : History.examplesRows (.tableData cells :: past) = past.examplesRows := by
      rw [History.examplesRows, hout]
      rfl
    rw [hrows]
    cases k <;> rfl
  | finishTable k => cases k <;> exact h.keep Iff.rfl rfl rfl nofun rfl
  | finishAttached k => cases k <;> exact h.keep Iff.rfl rfl rfl nofun rfl
  | startExamples label => exact h.startExamples label houtlined
  | startExamplesTable keys => exact h.keep Iff.rfl rfl rfl nofun rfl
  | examplesData cells =>
    obtain ⟨htable, hsome⟩ := hrecalls.table rfl
    exact h.examplesData (htable ▸ hsome) cells
  | finishExamplesTable => exact h.keep Iff.rfl rfl rfl nofun rfl
  | finishExamples =>
    obtain ⟨label, before, hlabel, -⟩ := hrecalls.examples rfl
    obtain ⟨htable, hsome⟩ := hrecalls.table rfl
    exact h.finishExamples (Option.isSome_of_eq_some hlabel) (htable ▸ hsome)
  | finishFeature => exact h.keep (iff_of_false nofun nofun) rfl rfl nofun rfl
  | finishParse => exact h.keep Iff.rfl rfl rfl nofun rfl

/-- Before a document nothing has been counted and nothing asked for. -/
theorem nil (config : NamingConfig) : Counted config .outside [] where
  inExamples := iff_of_false Bool.false_ne_true nofun
  outline hmem := by cases hmem
  examples := nofun
  count := rfl

end Counted

/-! ## Texts -/

/-- The header of every examples block of a document has the end of an outline before it. -/
theorem Transcript.outlined_ofLines (source : String) (lines : List String) (unreadable : Option String) :
    History.Outlined (ofLines source lines unreadable).events.reverse := by
  obtain ⟨next, hnext, hstands⟩ := Situation.tracks.ofLines (Situation.stands_startParse source)
    (fun sit h => ⟨sit, rfl, h⟩) lines unreadable
  intro label before hbefore
  obtain ⟨behind, hbehind⟩ := hbefore
  have hevents : (ofLines source lines unreadable).events =
      before.reverse ++ .startExamples label :: behind.reverse := by
    rw [← List.reverse_reverse (ofLines source lines unreadable).events, ← hbehind]
    simp
  obtain ⟨first, second, hsplit, -⟩ := (Situation.bracketed hnext hstands).examples _ _ _ hevents
  rw [← List.mem_reverse, hsplit]
  exact List.mem_append_right first List.mem_cons_self

namespace Loader

variable {l : Loader W} {text : String} {suite : Suite W}

/-- **Every scenario and every row asks for a test case.** -/
theorem length_origins_of_loadText (h : (l.loadText text).result = .ok suite) :
    let past : History := (Session.eventsOf text).reverse
    (past.origins l.config).length = past.scenarioHeaders + past.examplesRows := by
  intro past
  obtain ⟨⟨d, hanswers, -⟩, m, hcourse, hm⟩ := exists_answerAll_of_loadText h
  -- that outlines come before examples is known of the whole document only, so it is a premise on the way
  have hcounted := hcourse.invariant (r := l.registry)
    (I := fun m past d => ∃ added, Draft.Recalls l.config m past added d ∧
      (History.Outlined past → Counted l.config m past))
    (fun hmoves hrun hnext => by
      obtain ⟨added, hrecalls, hcounted⟩ := hrun
      exact ⟨_, hrecalls.step hmoves hnext, fun houtlined =>
        (hcounted houtlined.of_cons).step hmoves hrecalls houtlined⟩)
    hanswers ⟨[], Draft.recalls_nil l.config, fun _ => Counted.nil l.config⟩
  rw [List.append_nil] at hcounted
  obtain ⟨-, -, hcounted⟩ := hcounted
  have houtlined : History.Outlined past := by
    unfold past
    rw [Session.eventsOf_eq]
    exact Transcript.outlined_ofLines _ _ _
  have hfinished : m.unfinished past = 0 := by
    rcases hm with rfl | rfl <;> rfl
  have hcount := (hcounted houtlined).count
  rwa [hfinished, Nat.add_zero] at hcount

/-- A text that asks for test cases has one for each of their names. -/
theorem names_of_loadText (h : (l.loadText text).result = .ok suite)
    (hsome : History.origins l.config (Session.eventsOf text).reverse ≠ []) :
    suite.map (fun c => c.info.name) =
        ((History.origins l.config (Session.eventsOf text).reverse).map (Origin.name l.config)).eraseDups ∧
      (suite.map fun c => c.info.name).Nodup := by
  obtain ⟨_, _, -, -, -, hrecalls⟩ := exists_recalls_of_loadText h
  have horigins := hrecalls.origins
  have hfeature := feature_of_loadText h
  generalize ({} : Draft W).candidates l.config l.registry (Session.eventsOf text) = candidates at *
  have hadded : candidates ≠ [] := by
    rintro rfl
    exact hsome (List.forall₂_nil_right_iff.mp horigins)
  rcases hfeature with ⟨-, f, group, rfl, hkeeps⟩ | ⟨-, -, hnil⟩
  · rw [Feature.map_name_cases (mt hkeeps.scenarios_eq_nil_iff.mp hadded), Origin.map_name horigins]
    exact ⟨hkeeps.names_eq, hkeeps.nodup_names⟩
  · exact absurd hnil hadded

/-- **Nothing is displaced where names are distinct**, and only there: a text with scenarios or rows has one
test case for each of the names that these have. -/
theorem length_of_loadText (h : (l.loadText text).result = .ok suite) :
    let past : History := (Session.eventsOf text).reverse
    let names := (past.origins l.config).map (Origin.name l.config)
    let total := past.scenarioHeaders + past.examplesRows
    0 < total → names.length = total ∧ suite.map (fun c => c.info.name) = names.eraseDups ∧
      (suite.length = total ↔ names.Nodup) := by
  intro past names total htotal
  have horigins : (past.origins l.config).length = total := length_origins_of_loadText h
  have hlength : names.length = total := (List.length_map _).trans horigins
  have hsome : past.origins l.config ≠ [] := by
    rw [← List.length_pos_iff, horigins]
    exact htotal
  obtain ⟨hcases, hdistinct⟩ := names_of_loadText h hsome
  have hmem (name : String) : name ∈ suite.map (fun c => c.info.name) ↔ name ∈ names := by
    rw [hcases]
    exact List.mem_eraseDups
  have hsuite : (suite.map fun c => c.info.name).length = suite.length := List.length_map _
  refine ⟨hlength, hcases, ?_⟩
  rw [← hlength, ← hsuite]
  constructor
  · intro hsame
    have hsubperm : List.Subperm (suite.map fun c => c.info.name) names :=
      List.subperm_of_subset hdistinct fun name hname => (hmem name).mp hname
    exact (hsubperm.perm_of_length_le (Nat.le_of_eq hsame.symm)).nodup hdistinct
  · intro hnodup
    exact ((List.perm_ext_iff_of_nodup hdistinct hnodup).mpr hmem).length_eq

/-- A scenario and two rows of an examples block, all of different names. -/
theorem length_scenario_and_rows :
    let l : Loader Unit := ⟨.empty, {}⟩
    let text := "Feature: f\nScenario: s\nGiven x\nScenario Outline: o\nGiven x\nExamples:\n| k |\n| 1 |\n| 2 |\n"
    let past : History := (Session.eventsOf text).reverse
    past.scenarioHeaders + past.examplesRows = 3 ∧
      ∃ suite, (l.loadText text).result = .ok suite ∧
        suite.map (fun c => c.info.name) =
          ["test_Scenario_s", "test_Scenario_o_1_Example_", "test_Scenario_o_2_Example_"] ∧
        suite.length = past.scenarioHeaders + past.examplesRows := by
  intro l text past
  have htotal : past.scenarioHeaders + past.examplesRows = 3 := by decide +kernel
  have hdistinct : ((past.origins l.config).map (Origin.name l.config)).Nodup := by decide +kernel
  have hnames : (l.loadText text).result.toOption.map (List.map fun c => c.info.name) =
      some ["test_Scenario_s", "test_Scenario_o_1_Example_", "test_Scenario_o_2_Example_"] := by
    decide +kernel
  have hpositive : 0 < past.scenarioHeaders + past.examplesRows := by
    rw [htotal]
    decide
  obtain ⟨suite, hsuite, hnames⟩ := Logged.exists_ok_of_map hnames
  exact ⟨htotal, suite, hsuite, hnames, (length_of_loadText hsuite hpositive).2.2.mpr hdistinct⟩

/-- The first rows of two examples blocks of one outline have the same name. -/
theorem length_ne_of_two_examples :
    let l : Loader Unit := ⟨.empty, {}⟩
    let text :=
      "Feature: f\nScenario Outline: o\nGiven x\nExamples:\n| k |\n| 1 |\nExamples:\n| k |\n| 2 |\n"
    let past : History := (Session.eventsOf text).reverse
    let titles := past.filterMap fun event =>
      BlockKind.scenario.title? event <|> BlockKind.outline.title? event
    titles.Nodup ∧ past.scenarioHeaders + past.examplesRows = 2 ∧
      ∃ suite, (l.loadText text).result = .ok suite ∧ suite.length = 1 := by
  intro l text past titles
  have htitles : titles.Nodup := by decide +kernel
  have htotal : past.scenarioHeaders + past.examplesRows = 2 := by decide +kernel
  have horigins : (past.origins l.config).map (Origin.name l.config) =
      ["test_Scenario_o_1_Example_", "test_Scenario_o_1_Example_"] := by decide +kernel
  have hok : (l.loadText text).result.toOption.map (fun _ => ()) = some () := by decide +kernel
  obtain ⟨suite, hsuite, -⟩ := Logged.exists_ok_of_map hok
  have hsome : past.origins l.config ≠ [] := by
    intro hnone
    rw [hnone] at horigins
    cases horigins
  have hlength := congrArg List.length (names_of_loadText hsuite hsome).1
  rw [List.length_map, horigins] at hlength
  exact ⟨htitles, htotal, suite, hsuite, hlength.trans (by decide)⟩

end Loader

end Acceptance
