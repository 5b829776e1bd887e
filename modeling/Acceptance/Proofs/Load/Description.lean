import Acceptance.Proofs.Document.Description
import Acceptance.Proofs.Load.Cases
import Acceptance.Proofs.Load.Remarks

/-!
# The description of a feature

While a description is read, a draft has the lines open that the parser has collected, and without any it has
begun no description (`Draft.Collects`). What ends the description gives it to the feature without the empty
lines at its end, and no event changes it from there on (`Draft.Describes`). So all test cases of a text have the
description that stands behind the header of the feature (`Loader.description_of_loadText`).
-/

set_option autoImplicit false

namespace Acceptance

open Acceptance.Grammar

variable {W : Type}

namespace Draft

variable {config : NamingConfig} {r : Registry W} {event : Event} {d next : Draft W}
  {description : Option String} {opened : Option (List String)}

/-! ## Behind a description -/

/-- A draft in which the feature and all test cases have the description. -/
structure Describes (description : Option String) (d : Draft W) : Prop where
  feature : ∀ f, d.feature = some f → f.description = description
  suite : ∀ c ∈ d.suite, c.info.description = description

/-- Adding scenarios leaves the description of a feature as it is. -/
theorem Describes.map_addAll (h : d.Describes description) (nameOf : Scenario W → String)
    (scenarios : List (Scenario W)) :
    ∀ f, d.feature.map (fun f => f.addAll nameOf scenarios) = some f → f.description = description := by
  intro f hf
  obtain ⟨g, hg, rfl⟩ := Option.map_eq_some_iff.mp hf
  rw [Feature.addAll_eq]
  exact h.feature g hg

/-- **Every other event** leaves descriptions as they are. -/
theorem Describes.handle (h : d.Describes description) (hevent : event.keepsDescription = true)
    (hnext : (d.handle config r event).result = .ok next) : next.Describes description := by
  cases event with
  | startFeature | finishDescription => cases hevent
  | finishFeature =>
    rw [closeFeature_result hnext]
    refine ⟨nofun, List.forall_mem_append.mpr ⟨h.suite, fun c hc => ?_⟩⟩
    obtain ⟨f, hfeature, hc⟩ := exists_of_mem_finished hc
    rcases Feature.mem_cases.mp hc with ⟨-, rfl⟩ | ⟨name, s, -, rfl⟩ <;> exact h.feature f hfeature
  | finishScenario =>
    rw [finishScenario_result hnext]
    exact ⟨h.map_addAll (nameOf config) _, h.suite⟩
  | finishExamples =>
    rw [closeExamples_result hnext]
    exact ⟨h.map_addAll (nameOf config) _, h.suite⟩
  | finishStep =>
    obtain ⟨_, _, _, rfl⟩ := exists_closeStep_result hnext
    exact ⟨h.feature, h.suite⟩
  | tableData cells =>
    rw [tableData_result hnext]
    exact ⟨h.feature, h.suite⟩
  | _ =>
    cases hnext
    exact ⟨h.feature, h.suite⟩

/-- Events that keep the description leave it as it is. -/
theorem Describes.answerAll {events : List Event} (h : d.Describes description)
    (hevents : ∀ event ∈ events, event.keepsDescription = true)
    (hanswers : (builder config r).answerAll d events = .ok next) : next.Describes description :=
  answerAll_invariant (fun event hevent _ _ h hnext => h.handle (hevents event hevent) hnext) hanswers h

/-! ## In a description -/

/-- A draft that has the lines of a description open, if one has begun, and none before. -/
structure Collects (opened : Option (List String)) (d : Draft W) : Prop where
  lines : d.lines = opened
  feature : ∀ f, d.feature = some f → f.description = none
  suite : d.suite = []

/-- The description that the open lines give. -/
def joined (opened : Option (List String)) : Option String :=
  opened.map fun lines => "\n".intercalate (dropTrailingEmpty lines)

/-- Lines that do not end with an empty one stay as they are. -/
theorem dropTrailingEmpty_concat (lines : List String) {line : String} (h : line ≠ "") :
    dropTrailingEmpty (lines ++ [line]) = lines ++ [line] := by
  unfold dropTrailingEmpty
  rw [List.reverse_append, List.reverse_singleton, List.singleton_append,
    List.dropWhile_cons_of_neg (by simpa using h), List.reverse_cons, List.reverse_reverse]

/-- **What has been collected** gives the description, without the blank lines behind it. -/
theorem joined_of_cut {lines leading body trailing : List String}
    (h : Description.Cut lines leading body trailing) :
    joined (lines.foldl Description.collect none) = Description.ofBody body := by
  obtain ⟨k, hcollected⟩ := h.foldl_collect
  rw [hcollected]
  cases body using List.reverseRecOn with
  | nil => rfl
  | append_singleton before line =>
    have hline : Description.isRemark line = false := by simpa using h.last
    have hne : Text.trimmed line ≠ "" := fun hempty =>
      Description.trim_ne_nil_of_text hline (String.ofList_eq_empty_iff.mp hempty)
    have hlines : (before ++ [line]).filterMap Description.line? =
        before.filterMap Description.line? ++ [Text.trimmed line] := by
      rw [List.filterMap_append, List.filterMap_cons_some (Description.line?_of_text hline), List.filterMap_nil]
    rw [Description.ofBody, if_neg (by simp), if_neg (by simp), joined, Option.map_some,
      dropTrailingEmpty_append_replicate, hlines, dropTrailingEmpty_concat _ hne]

/-- **Before the feature** there is nothing to collect. -/
theorem Collects.outside (h : d.Collects none) (hevent : Moves .outside event .outside)
    (hnext : (d.handle config r event).result = .ok next) : next.Collects none := by
  cases hevent with
  | whitespace line =>
    -- no lines are open to which an empty one could be added
    cases hnext
    exact ⟨congrArg (Option.map (· ++ [""])) h.lines, h.feature, h.suite⟩
  | _ =>
    cases hnext
    exact ⟨h.lines, h.feature, h.suite⟩

/-- **A feature** begins without a description. -/
theorem Collects.startFeature (h : d.Collects none) {title : String}
    (hnext : (d.handle config r (.startFeature title)).result = .ok next) : next.Collects none := by
  cases hnext
  refine ⟨h.lines, fun f hf => ?_, h.suite⟩
  cases hf
  rfl

/-- **The end of a description** gives it to the feature. -/
theorem Collects.closing (h : d.Collects opened)
    (hanswers : (builder config r).answerAll d (Description.closing opened) = .ok next) :
    next.Describes (joined opened) := by
  have hsuite (description : Option String) : ∀ c ∈ d.suite, c.info.description = description := by
    rw [h.suite]
    exact List.forall_mem_nil _
  cases opened with
  | none =>
    cases hanswers
    exact ⟨h.feature, hsuite _⟩
  | some lines =>
    -- the draft has no test case yet that would be left without the description
    have hnext : next = d.closeDescription := by
      cases hanswers
      rfl
    subst hnext
    refine ⟨fun f hf => ?_, hsuite _⟩
    obtain ⟨g, -, rfl⟩ := Option.map_eq_some_iff.mp hf
    dsimp only
    rw [h.lines]
    rfl

end Draft

namespace Loader

variable {l : Loader W} {p : Parser} {d : Draft W} {opened : Option (List String)} {lines : List String}
  {suite : Suite W} {description : Option String}

/-! ## Line by line -/

/-- **Behind a description** the rest of a document makes test cases that have it. -/
theorem describes_of_loadRest (hpast : p.state.pastDescription = true) (hd : d.Describes description)
    (h : l.loadRest p d lines = .ok suite) : ∀ c ∈ suite, c.info.description = description := by
  obtain ⟨q, built, hbuild, rfl⟩ := loadRest_eq_ok h
  exact (hd.answerAll (Parser.keepsDescription_of_rest hpast lines) (build_eq_ok.mp hbuild).1).suite

/-- What ends a description, or comes in its place. -/
theorem describes_of_ending {t : Transcript} {rest : List Event} {q : Parser} {next : Draft W}
    (hcollects : d.Collects opened) (hevents : t.events = Description.closing opened ++ rest)
    (hrest : ∀ event ∈ rest, event.keepsDescription = true) (h : l.build d t = .ok (q, next)) :
    next.Describes (Draft.joined opened) := by
  obtain ⟨hanswers, -, -⟩ := build_eq_ok.mp h
  rw [hevents] at hanswers
  obtain ⟨closed, hclosed, hanswers⟩ := Handler.answerAll_append_eq_ok.mp hanswers
  exact (hcollects.closing hclosed).answerAll hrest hanswers

/-- **A line of the area** of a description is collected. -/
theorem collects_of_build {line : String} {next : Draft W} (hstate : p.state = Description.state opened)
    (hcollects : d.Collects opened) (hline : '\n' ∉ line.toList)
    (hends : (LineClass.ofLine line).endsDescription = false)
    (h : l.build d (p.report (some line)) = .ok ((p.report (some line)).parser, next)) :
    (p.report (some line)).parser.state = Description.state (Description.collect opened line) ∧
        next.Collects (Description.collect opened line) := by
  have houtside : p.state.afterBlock? = none := Parser.afterBlock?_eq_none hstate
  have hended : p.state ≠ .ended := by
    rw [hstate]
    cases opened <;> exact State.noConfusion
  obtain ⟨hanswers, -, -⟩ := build_eq_ok.mp h
  by_cases hremark : Description.isRemark line = true
  · unfold Description.collect
    rcases Description.isRemark_iff.mp hremark with hclass | hclass
    · obtain ⟨⟨text, hevents⟩, -, hplace, -⟩ := Parser.report_comment houtside hended hclass
      rw [hevents] at hanswers
      cases hanswers
      rw [hclass]
      exact ⟨hplace.trans hstate, hcollects⟩
    · obtain ⟨hevents, -, hplace, -⟩ := Parser.report_blank houtside hline hclass
      rw [hevents] at hanswers
      cases hanswers
      rw [hclass]
      refine ⟨?_, congrArg (Option.map (· ++ [""])) hcollects.lines, hcollects.feature, hcollects.suite⟩
      rw [hplace, hstate, Description.state, Description.state, Option.isSome_map]
  · have htext : Description.isRemark line = false := by simpa using hremark
    obtain ⟨hevents, -, hdescription⟩ := Parser.report_text hstate hline htext hends
    rw [Description.collect_of_text htext]
    refine ⟨hdescription, ?_⟩
    rw [hevents] at hanswers
    cases opened with
    | none =>
      cases hanswers
      exact ⟨rfl, hcollects.feature, hcollects.suite⟩
    | some opened =>
      cases hanswers
      exact ⟨congrArg (Option.map (· ++ [Text.trimmed line])) hcollects.lines, hcollects.feature,
        hcollects.suite⟩

/-- **The rest of a document** makes test cases that have what is collected of their description, by induction
on its lines. -/
theorem description_of_loadRest (hstate : p.state = Description.state opened) (hcollects : d.Collects opened)
    (hlines : ∀ line ∈ lines, '\n' ∉ line.toList) (h : l.loadRest p d lines = .ok suite) :
    ∀ c ∈ suite,
      c.info.description = Draft.joined ((Description.area lines).foldl Description.collect opened) := by
  induction lines generalizing p d opened with
  | nil =>
    obtain ⟨rest, hevents, hrest, -⟩ := Parser.exists_report_of_ending hstate none nofun
    obtain ⟨q, built, hbuild, rfl⟩ := loadRest_eq_ok h
    exact (describes_of_ending hcollects hevents hrest hbuild).suite
  | cons line lines ih =>
    obtain ⟨hline, hothers⟩ := List.forall_mem_cons.mp hlines
    obtain ⟨next, hbuild, h⟩ := loadRest_cons_eq_ok h
    cases hends : (LineClass.ofLine line).endsDescription with
    | true =>
      -- the line and all that comes behind it leave what has been collected as it is
      obtain ⟨rest, hevents, hrest, hpast⟩ := Parser.exists_report_of_ending hstate (some line)
        fun text htext => Option.some.inj htext ▸ ⟨hline, hends⟩
      have hnext := describes_of_ending hcollects hevents hrest hbuild
      rw [Description.area, List.takeWhile_cons_of_neg (by simp [hends])]
      exact describes_of_loadRest hpast hnext h
    | false =>
      obtain ⟨hnextState, hnext⟩ := collects_of_build hstate hcollects hline hends hbuild
      rw [Description.area, List.takeWhile_cons_of_pos (by simp [hends])]
      exact ih hnextState hnext hothers h

/-- **Up to the header** of the feature no description is collected. -/
theorem exists_collects_of_header {before : List String} {header : String} (hstate : p.state = .start)
    (hcollects : d.Collects none) (hbefore : ∀ line ∈ before, LineClass.ofLine line ≠ .feature)
    (hheader : LineClass.ofLine header = .feature) (h : l.loadRest p d (before ++ header :: lines) = .ok suite) :
    ∃ (q : Parser) (next : Draft W), q.state = .feature ∧ next.Collects none ∧
      l.loadRest q next lines = .ok suite := by
  induction before generalizing p d with
  | nil =>
    obtain ⟨next, hbuild, hrest⟩ := loadRest_cons_eq_ok h
    obtain ⟨hanswers, hfault, -⟩ := build_eq_ok.mp hbuild
    rcases Parser.report_of_start hstate hfault with ⟨-, ⟨title, hevents⟩, hfeature⟩ | ⟨hother, -⟩
    · rw [hevents] at hanswers
      obtain ⟨_, hanswer, ⟨⟩⟩ := Handler.answerAll_cons_eq_ok.mp hanswers
      exact ⟨_, next, hfeature, hcollects.startFeature (Draft.answer_builder.mp hanswer), hrest⟩
    · exact absurd hheader hother
  | cons line before ih =>
    obtain ⟨hline, hothers⟩ := List.forall_mem_cons.mp hbefore
    obtain ⟨next, hbuild, hrest⟩ := loadRest_cons_eq_ok h
    obtain ⟨hanswers, hfault, -⟩ := build_eq_ok.mp hbuild
    rcases Parser.report_of_start hstate hfault with ⟨hfeature, -⟩ |
      ⟨-, ⟨event, hevents, hmoves⟩, hstart⟩
    · exact absurd hfeature hline
    · rw [hevents] at hanswers
      obtain ⟨_, hanswer, ⟨⟩⟩ := Handler.answerAll_cons_eq_ok.mp hanswers
      exact ih hstart (hcollects.outside hmoves (Draft.answer_builder.mp hanswer)) hothers hrest

/-! ## Texts -/

/-- **The description of a feature** is what stands behind its header, and nothing else: the lines from the first
line of text to the last one before a line of tags or the header of a block, trimmed and without comments. All
test cases have it. -/
theorem description_of_loadText {text header : String} {before rest : List String}
    (h : (l.loadText text).result = .ok suite) (hlines : linesOf text = before ++ header :: rest)
    (hbefore : ∀ line ∈ before, LineClass.ofLine line ≠ .feature)
    (hheader : LineClass.ofLine header = .feature) :
    suite ≠ [] ∧ ∃ description, Description.Describes rest description ∧
      ∀ c ∈ suite, c.info.description = description := by
  constructor
  · rcases feature_of_loadText h with ⟨-, f, group, rfl, -⟩ | ⟨hnone, -⟩
    · exact f.cases_ne_nil group
    · exact absurd ⟨header, by simp [hlines], hheader⟩ hnone
  · have hfeeds : ∀ line ∈ rest, '\n' ∉ line.toList := by
      intro line hline
      have hmem : line ∈ linesOf text := by simp [hlines, hline]
      exact notMem_of_mem_linesOf hmem
    have hempty : ({ source := Session.textSource } : Draft W).Collects none := ⟨rfl, nofun, rfl⟩
    rw [result_loadText, hlines] at h
    obtain ⟨q, next, hstate, hcollects, h⟩ := exists_collects_of_header rfl hempty hbefore hheader h
    refine ⟨_, Description.describes_of_cut fun _ _ _ hcut => Draft.joined_of_cut hcut, ?_⟩
    exact description_of_loadRest hstate hcollects hfeeds h

/-- Comments and blank lines around and within a description, and a block that has text in it. -/
theorem description_between_remarks :
    let l : Loader Unit := ⟨.empty, {}⟩
    let text := "# c\n@a\nFeature: f\n\n  one\n\n # d\n two \n\nScenario: s\nGiven x\n\"\"\"\nthree\n\n\"\"\"\n"
    ∃ suite, (l.loadText text).result = .ok suite ∧ suite ≠ [] ∧
      ∀ c ∈ suite, c.info.description = some "one\n\ntwo" := by
  intro l text
  have hnames : (l.loadText text).result.toOption.map (List.map fun c => c.info.name) =
      some ["test_Scenario_s"] := by decide +kernel
  obtain ⟨suite, hsuite, -⟩ := Logged.exists_ok_of_map hnames
  have hlines : linesOf text = ["# c", "@a"] ++ "Feature: f" ::
      ["", "  one", "", " # d", " two ", "", "Scenario: s", "Given x", "\"\"\"", "three", "", "\"\"\""] := by
    decide +kernel
  have hbefore : ∀ line ∈ ["# c", "@a"], LineClass.ofLine line ≠ .feature := by decide
  obtain ⟨hne, description, hdescribes, hcases⟩ := description_of_loadText hsuite hlines hbefore rfl
  refine ⟨suite, hsuite, hne, fun c hc => ?_⟩
  rw [hcases c hc, hdescribes.eq_of_cut [""] ["  one", "", " # d", " two "] [""]
    ⟨by rfl, by decide, by decide, by rfl, by rfl⟩]
  rfl

end Loader

end Acceptance
