import Mathlib.Data.List.Nodup
import Acceptance.Proofs.Load.Columns
import Acceptance.Proofs.Load.Tags
import Acceptance.Proofs.Load.Warnings

/-!
# The test cases of a text

The candidates of a text are the scenarios that it adds to its feature: each scenario, and each row of an
examples block. The suite keeps for each name the last candidate that has it, in the place of the first one,
and a candidate that is not kept is warned of (`Loader.accounts_of_loadText`).
-/

set_option autoImplicit false

namespace Acceptance

open Acceptance.Grammar

variable {W : Type}

namespace Suite

variable {suite : Suite W} {c : TestCase W} {group : String}

/-- Within one group, identities are distinct where names are. -/
theorem nodup_ids (hgroup : ∀ c ∈ suite, c.info.group = group)
    (hnames : (suite.map fun c => c.info.name).Nodup) : (suite.map fun c => c.info.id).Nodup := by
  have hids : suite.map (fun c => c.info.id) =
      (suite.map fun c => c.info.name).map fun name => group ++ "." ++ name := by
    rw [List.map_map]
    refine List.map_congr_left fun c hc => ?_
    rw [← hgroup c hc]
    rfl
  rw [hids]
  exact hnames.map fun first second hsame => (String.append_right_inj _).mp hsame

/-- Where identities are distinct, a test case is found by its own. -/
theorem find?_of_mem (hids : (suite.map fun c => c.info.id).Nodup) (hc : c ∈ suite) :
    suite.find? c.info.id = some c := by
  unfold find?
  cases hfind : List.find? (fun other => other.info.id == c.info.id) suite with
  | none =>
    have hnone := List.find?_eq_none.mp hfind c hc
    exact absurd (beq_self_eq_true c.info.id) hnone
  | some other =>
    have hid : other.info.id = c.info.id := by simpa using List.find?_some hfind
    have hother : other ∈ suite := List.mem_of_find?_eq_some hfind
    rw [List.inj_on_of_nodup_map hids hother hc hid]

/-- A suite that has one test case for each name of the candidates, in the order in which the names come
first, and each of them holds the last candidate of its name. -/
structure KeepsLast (config : NamingConfig) (candidates : List (Scenario W)) (suite : Suite W) : Prop where
  names : suite.map (fun c => c.info.name) = (candidates.map (Draft.nameOf config)).eraseDups
  last : ∀ c ∈ suite, ∃ earlier s later, candidates = earlier ++ s :: later ∧
    Draft.nameOf config s = c.info.name ∧ (∀ other ∈ later, Draft.nameOf config other ≠ c.info.name) ∧
    c.scenario = some s ∧ c.info.scenarioTitle = some s.title ∧ c.info.tags = s.tags

section KeepsLast

variable {config : NamingConfig} {candidates : List (Scenario W)}

/-- There are as many test cases as names. -/
theorem KeepsLast.length_eq (h : KeepsLast config candidates suite) :
    suite.length = Draft.nameCount config candidates := by
  have hnames := congrArg List.length h.names
  rwa [List.length_map] at hnames

end KeepsLast

end Suite

/-! ## Features that keep their candidates -/

namespace Draft

variable {config : NamingConfig} {added : List (Scenario W)} {f : Feature W} {group : String}

/-- The test cases of a feature that keeps candidates are those of its last ones of each name. -/
theorem Keeps.keepsLast (h : Keeps config added f) (hadded : added ≠ []) :
    Suite.KeepsLast config added (f.cases group) := by
  have hscenarios : f.scenarios ≠ [] := mt h.scenarios_eq_nil_iff.mp hadded
  constructor
  · rw [Feature.map_name_cases hscenarios, h.names_eq]
  · intro c hc
    rcases Feature.mem_cases.mp hc with ⟨hnone, -⟩ | ⟨name, s, hs, rfl⟩
    · exact absurd hnone hscenarios
    · obtain ⟨earlier, later, hsplit, hname, hlater⟩ := h.mem_iff.mp hs
      exact ⟨earlier, s, later, hsplit, hname, hlater, rfl, rfl, rfl⟩

/-- The test cases are what the columns hold, index by index. -/
theorem Keeps.columns_cases (h : Keeps config added f) (hadded : added ≠ []) :
    let kept := ({} : Columns W).addAll (nameOf config) added
    (f.cases group).map (fun c => c.info.name) = kept.names ∧
      (f.cases group).map (·.scenario) = kept.scenarios.map some := by
  have hscenarios : f.scenarios ≠ [] := mt h.scenarios_eq_nil_iff.mp hadded
  dsimp only
  rw [← h.columns_eq]
  exact ⟨Feature.map_name_cases hscenarios, Feature.map_scenario_cases hscenarios⟩

/-- A feature that keeps nothing has one test case, which stands for it. -/
theorem Keeps.cases_of_nil (h : Keeps config [] f) :
    f.cases group = [⟨f.info group Feature.emptyName none f.tags, none⟩] := by
  unfold Feature.cases
  rw [h.scenarios_eq_nil_iff.mpr rfl]

/-- The test cases of a feature have different identities. -/
theorem Keeps.nodup_ids (h : Keeps config added f) : ((f.cases group).map fun c => c.info.id).Nodup := by
  have hgroup : ∀ c ∈ f.cases group, c.info.group = group := by
    intro c hc
    rcases Feature.mem_cases.mp hc with ⟨-, rfl⟩ | ⟨name, s, -, rfl⟩ <;> rfl
  refine Suite.nodup_ids hgroup ?_
  by_cases hadded : added = []
  · subst hadded
    rw [h.cases_of_nil]
    exact List.nodup_singleton _
  · rw [Feature.map_name_cases (mt h.scenarios_eq_nil_iff.mp hadded)]
    exact h.nodup_names

end Draft

/-! ## Texts -/

namespace Loader

variable {l : Loader W} {text : String} {suite : Suite W}

/-- A text has a feature that keeps the candidates, and the test cases of that make the suite; or it has no
feature line, and there is nothing. -/
theorem feature_of_loadText (h : (l.loadText text).result = .ok suite) :
    let candidates := ({} : Draft W).candidates l.config l.registry (Session.eventsOf text)
    ((∃ line ∈ linesOf text, LineClass.ofLine line = .feature) ∧
        ∃ (f : Feature W) (group : String), suite = f.cases group ∧ Draft.Keeps l.config candidates f) ∨
      (¬ ∃ line ∈ linesOf text, LineClass.ofLine line = .feature) ∧ suite = [] ∧ candidates = [] := by
  intro candidates
  have hfeature := Transcript.exists_startFeature_iff (fault_of_loadText h)
  rw [← Session.eventsOf_eq] at hfeature
  obtain ⟨m, d, hcourse, hm, rfl, hrecalls⟩ := exists_recalls_of_loadText h
  rcases hm with rfl | rfl
  · refine .inr ⟨?_, hrecalls.suite nofun, (hrecalls.outside rfl).2.2.2⟩
    rw [← hfeature]
    rintro ⟨title, htitle⟩
    exact hcourse.of_outside.2 _ htitle title rfl
  · obtain ⟨f, group, hsuite, -, hkeeps⟩ := hrecalls.closed rfl
    exact .inl ⟨hfeature.mp (hcourse.exists_startFeature nofun), f, group, hsuite, hkeeps⟩

/-- A suite that accounts for the candidates of a text. -/
structure Accounts (l : Loader W) (text : String) (suite : Suite W) (candidates : List (Scenario W)) :
    Prop where
  /-- The candidates are the scenarios and the rows of examples blocks, in the order of the document. -/
  origins : List.Forall₂ (fun o s => Scenario.key s = Origin.key o)
    (History.origins l.config (Session.eventsOf text).reverse) candidates
  withoutFeature : (∀ line ∈ linesOf text, LineClass.ofLine line ≠ .feature) → suite = [] ∧ candidates = []
  /-- One test case stands for a feature without candidates. -/
  withoutCandidate : (∃ line ∈ linesOf text, LineClass.ofLine line = .feature) → candidates = [] →
    ∃ c, suite = [c] ∧ c.info.name = "run_test" ∧ c.info.scenarioTitle = none ∧ c.scenario = none
  keepsLast : candidates ≠ [] → suite.KeepsLast l.config candidates
  /-- Names and scenarios that are kept in two columns stay together. -/
  columns : candidates ≠ [] →
    let kept := ({} : Columns W).addAll (Draft.nameOf l.config) candidates
    suite.map (fun c => c.info.name) = kept.names ∧ suite.map (·.scenario) = kept.scenarios.map some
  /-- A candidate is a test case or is warned of. The exception is a feature without candidates: what stands for
  it is a test case and no candidate, and there is no warning. -/
  count :
    let warnings := (l.loadText text).log.replacements Session.textSource
    if (∃ line ∈ linesOf text, LineClass.ofLine line = .feature) ∧ candidates = [] then
      suite.length = 1 ∧ warnings = 0
    else candidates.length = suite.length + warnings
  nodup : (suite.map fun c => c.info.id).Nodup
  find : ∀ c ∈ suite, suite.find? c.info.id = some c

/-- **The suite accounts for every candidate**: the last one of each name is kept in the place of the first
one, and each of the others is warned of. A feature without candidates has a test case that is none of them. -/
theorem accounts_of_loadText (h : (l.loadText text).result = .ok suite) :
    l.Accounts text suite (({} : Draft W).candidates l.config l.registry (Session.eventsOf text)) := by
  have hcount := replacements_of_loadText h
  have hfeature := feature_of_loadText h
  obtain ⟨_, _, -, -, -, hrecalls⟩ := exists_recalls_of_loadText h
  have horigins := hrecalls.origins
  generalize ({} : Draft W).candidates l.config l.registry (Session.eventsOf text) = candidates at *
  -- the case without candidates: the warnings are counted for a placeholder too, and there are none
  have hnothing (hnil : candidates = []) : (l.loadText text).log.replacements Session.textSource = 0 := by
    rw [hnil] at hcount
    exact (Nat.add_eq_zero_iff.mp hcount).1
  rcases hfeature with ⟨⟨line, hmem, hclass⟩, f, group, rfl, hkeeps⟩ | ⟨hline, rfl, hnil⟩
  · have hkept (hne : candidates ≠ []) : (f.cases group).KeepsLast l.config candidates :=
      hkeeps.keepsLast hne
    have hplaceholder (hnil : candidates = []) :
        f.cases group = [⟨f.info group Feature.emptyName none f.tags, none⟩] :=
      (hnil ▸ hkeeps).cases_of_nil
    have hsome : ∃ line ∈ linesOf text, LineClass.ofLine line = .feature := ⟨line, hmem, hclass⟩
    exact {
      origins := horigins
      withoutFeature := fun hnone => absurd hclass (hnone line hmem)
      withoutCandidate := fun _ hnil => ⟨_, hplaceholder hnil, rfl, rfl, rfl⟩
      keepsLast := hkept
      columns := hkeeps.columns_cases
      count := by
        dsimp only
        split
        · next hbare => exact ⟨by rw [hplaceholder hbare.2]; rfl, hnothing hbare.2⟩
        · next hne =>
          have hlength := (hkept fun hnil => hne ⟨hsome, hnil⟩).length_eq
          omega
      nodup := hkeeps.nodup_ids
      find := fun c hc => Suite.find?_of_mem hkeeps.nodup_ids hc }
  · exact {
      origins := horigins
      withoutFeature := fun _ => ⟨rfl, hnil⟩
      withoutCandidate := fun hsome => absurd hsome hline
      keepsLast := fun hne => absurd hnil hne
      columns := fun hne => absurd hnil hne
      count := by
        dsimp only
        rw [if_neg fun hsome => hline hsome.1, hnothing hnil, hnil]
        rfl
      nodup := List.nodup_nil
      find := List.forall_mem_nil _ }

/-- A scenario, one of another name, and one that takes the place of the first. -/
theorem accounts_replaced_scenario :
    let l : Loader Unit := ⟨.empty, {}⟩
    let text := "Feature: f\nScenario: s\nGiven x\nScenario: t\nScenario: s!\n"
    let candidates := ({} : Draft Unit).candidates l.config l.registry (Session.eventsOf text)
    candidates.map (·.title) = ["s", "t", "s!"] ∧
      (l.loadText text).log.replacements Session.textSource = 1 ∧
      ∃ suite, (l.loadText text).result = .ok suite ∧
        suite.map (fun c => (c.info.name, c.info.scenarioTitle)) =
          [("test_Scenario_s", some "s!"), ("test_Scenario_t", some "t")] ∧
        l.Accounts text suite candidates := by
  intro l text candidates
  have htitles : candidates.map (·.title) = ["s", "t", "s!"] := by decide +kernel
  have hwarnings : (l.loadText text).log.replacements Session.textSource = 1 := by decide +kernel
  have hnames : (l.loadText text).result.toOption.map
      (List.map fun c => (c.info.name, c.info.scenarioTitle)) =
        some [("test_Scenario_s", some "s!"), ("test_Scenario_t", some "t")] := by decide +kernel
  obtain ⟨suite, hsuite, hnames⟩ := Logged.exists_ok_of_map hnames
  exact ⟨htitles, hwarnings, suite, hsuite, hnames, accounts_of_loadText hsuite⟩

/-- A feature without candidates: its test case is not one of them. -/
theorem length_ne_of_bare_feature :
    let l : Loader Unit := ⟨.empty, {}⟩
    let text := "Feature: f\n"
    let candidates := ({} : Draft Unit).candidates l.config l.registry (Session.eventsOf text)
    let warnings := (l.loadText text).log.replacements Session.textSource
    candidates.length = 0 ∧ warnings = 0 ∧ ∃ suite, (l.loadText text).result = .ok suite ∧
      suite.length = 1 ∧ candidates.length ≠ suite.length + warnings := by
  intro l text candidates warnings
  have hcandidates : candidates.length = 0 := by decide +kernel
  have hwarnings : warnings = 0 := by decide +kernel
  have hlength : (l.loadText text).result.toOption.map List.length = some 1 := by decide +kernel
  obtain ⟨suite, hsuite, hlength⟩ := Logged.exists_ok_of_map hlength
  refine ⟨hcandidates, hwarnings, suite, hsuite, hlength, ?_⟩
  rw [hcandidates, hwarnings, hlength]
  decide

end Loader

end Acceptance
