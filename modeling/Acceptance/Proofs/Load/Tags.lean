import Acceptance.Proofs.Load.Recall

/-!
# Inherited tags

At the end of a document the scenarios of the feature are those that have been added, the last one for each
name, and each of them has the tags of its origin. So every test case has just the tags that the headers
above it give it (`Loader.tags_of_loadText`).
-/

set_option autoImplicit false

namespace Acceptance

variable {W : Type}

namespace Origin

variable {config : NamingConfig} {origins : List Origin} {scenarios : List (Scenario W)}

/-- A scenario has the name of its origin. -/
theorem nameOf_eq {o : Origin} {s : Scenario W} (hkey : s.key = o.key) :
    Draft.nameOf config s = o.name config := by
  obtain ⟨htitle, -⟩ := Prod.mk.inj hkey
  exact congrArg (fun title => config.scenarioPrefix ++ slugify title) htitle

/-- Scenarios have the names of their origins, in order. -/
theorem map_name (h : List.Forall₂ (fun o s => Scenario.key s = Origin.key o) origins scenarios) :
    origins.map (name config) = scenarios.map (Draft.nameOf config) := by
  induction h with
  | nil => rfl
  | cons hkey _ ih => rw [List.map_cons, List.map_cons, ih, nameOf_eq hkey]

/-- The origin of one of the scenarios stands between those of the earlier and of the later ones. -/
theorem exists_of_forall₂ {earlier later : List (Scenario W)} {s : Scenario W}
    (h : List.Forall₂ (fun o s => Scenario.key s = Origin.key o) origins (earlier ++ s :: later)) :
    ∃ before o behind, origins = before ++ o :: behind ∧ s.key = o.key ∧
      List.Forall₂ (fun o s => Scenario.key s = Origin.key o) behind later := by
  have hbehind := List.forall₂_drop_append origins earlier (s :: later) h
  obtain ⟨o, behind, hkey, hlater, hdrop⟩ := List.forall₂_cons_right_iff.mp hbehind
  refine ⟨origins.take earlier.length, o, behind, ?_, hkey, hlater⟩
  rw [← hdrop, List.take_append_drop]

/-- Behind origins and scenarios that belong together, the others belong together. -/
theorem forall₂_of_append {others : List Origin} {more : List (Scenario W)}
    (h : List.Forall₂ (fun o s => Scenario.key s = Origin.key o) origins scenarios)
    (hall : List.Forall₂ (fun o s => Scenario.key s = Origin.key o) (origins ++ others)
      (scenarios ++ more)) :
    List.Forall₂ (fun o s => Scenario.key s = Origin.key o) others more := by
  have hdrop := List.forall₂_drop_append _ _ _ hall
  rwa [← h.length_eq, List.drop_left] at hdrop

/-- A name that no origin has is one that no scenario has. -/
theorem forall_name_ne_iff {name : String}
    (h : List.Forall₂ (fun o s => Scenario.key s = Origin.key o) origins scenarios) :
    (∀ o ∈ origins, o.name config ≠ name) ↔ ∀ s ∈ scenarios, Draft.nameOf config s ≠ name := by
  have hnames : name ∉ origins.map (Origin.name config) ↔ name ∉ scenarios.map (Draft.nameOf config) := by
    rw [map_name h]
  simpa using hnames

end Origin

namespace Loader

variable {l : Loader W} {text : String} {suite : Suite W}

/-- **Exact inheritance of tags.** Every test case of a text stands for a feature without scenarios and has
the own tags of the feature, or comes of the last one of the origins that have its name and has just the tags
of that origin. -/
theorem tags_of_loadText (h : (l.loadText text).result = .ok suite) :
    let past : History := (Session.eventsOf text).reverse
    ∀ c ∈ suite,
      (c.scenario = none ∧ past.origins l.config = [] ∧ c.info.tags = .ofList past.featureTags) ∨
      ∃ s earlier o later, c.scenario = some s ∧ past.origins l.config = earlier ++ o :: later ∧
        c.info.name = o.name l.config ∧ (∀ other ∈ later, other.name l.config ≠ o.name l.config) ∧
        c.info.scenarioTitle = some o.title ∧ c.info.tags = .ofList o.tags := by
  intro past c hc
  obtain ⟨⟨d, hanswers, rfl⟩, m, hcourse, hm⟩ := exists_answerAll_of_loadText h
  obtain ⟨added, hrecalls⟩ := (Draft.recalls_nil l.config).course hcourse hanswers
  rw [List.nil_append, List.append_nil] at hrecalls
  rcases hm with rfl | rfl
  · rw [hrecalls.suite nofun] at hc
    cases hc
  obtain ⟨f, group, hsuite, htags, empty, hempty, hscenarios⟩ := hrecalls.closed rfl
  rw [hsuite] at hc
  rcases Feature.mem_cases.mp hc with ⟨hnone, rfl⟩ | ⟨name, s, hs, rfl⟩
  · refine .inl ⟨rfl, ?_, htags⟩
    -- a scenario that is added last would be kept
    rcases List.eq_nil_or_concat added with rfl | ⟨others, s, rfl⟩
    · exact List.forall₂_nil_right_iff.mp hrecalls.origins
    · have hkept : (Draft.nameOf l.config s, s) ∈ (empty.addAll (Draft.nameOf l.config)
          (others.concat s)).scenarios := by
        rw [Feature.mem_addAll hempty]
        exact ⟨others, [], by rw [List.concat_eq_append], rfl, by simp⟩
      rw [← hscenarios, hnone] at hkept
      cases hkept
  · rw [hscenarios, Feature.mem_addAll hempty] at hs
    obtain ⟨earlier, later, rfl, rfl, hlater⟩ := hs
    obtain ⟨before, o, behind, horigins, hkey, hbehind⟩ :=
      Origin.exists_of_forall₂ hrecalls.origins
    obtain ⟨htitle, hsTags⟩ := Prod.mk.inj hkey
    have hname : Draft.nameOf l.config s = o.name l.config :=
      congrArg (fun title => l.config.scenarioPrefix ++ slugify title) htitle
    refine .inr ⟨s, before, o, behind, rfl, horigins, hname, ?_, congrArg some htitle, hsTags⟩
    intro other hother hsame
    have hother : other.name l.config ∈ later.map (Draft.nameOf l.config) := by
      rw [← Origin.map_name hbehind]
      exact List.mem_map_of_mem hother
    obtain ⟨s', hs', hs'Name⟩ := List.mem_map.mp hother
    exact hlater s' hs' (hs'Name.trans (hsame.trans hname.symm))

/-- A scenario behind a background, both with tags of their own, and one of the same name behind it. -/
theorem tags_replaced_scenario :
    let l : Loader Unit := ⟨.empty, {}⟩
    let text := "@a\nFeature: f\n@b\nBackground:\n@c\nScenario: s\nGiven x\n@d\nScenario: s\n"
    let origins := History.origins l.config (Session.eventsOf text).reverse
    origins.map (·.tags) = [["a", "c", "b"], ["a", "d", "b"]] ∧
      ∃ suite, (l.loadText text).result = .ok suite ∧
        suite.map (·.info.tags.names) = [["a", "b", "d"]] ∧
        ∀ c ∈ suite, ∃ o ∈ origins, c.info.name = o.name l.config ∧ c.info.tags = .ofList o.tags := by
  intro l text origins
  have horigins : origins.map (·.tags) = [["a", "c", "b"], ["a", "d", "b"]] := by decide +kernel
  have htags : (l.loadText text).result.toOption.map (List.map (·.info.tags.names)) =
      some [["a", "b", "d"]] := by decide +kernel
  refine ⟨horigins, ?_⟩
  cases hresult : (l.loadText text).result with
  | error fault =>
    rw [hresult] at htags
    cases htags
  | ok suite =>
    rw [hresult] at htags
    refine ⟨suite, rfl, Option.some.inj htags, ?_⟩
    intro c hc
    rcases tags_of_loadText hresult c hc with ⟨-, hnone, -⟩ |
      ⟨s, earlier, o, later, -, hsplit, hname, -, -, hc⟩
    · have hnone : origins = [] := hnone
      rw [hnone] at horigins
      cases horigins
    · have hsplit : origins = earlier ++ o :: later := hsplit
      exact ⟨o, by rw [hsplit]; exact List.mem_append_right earlier List.mem_cons_self, hname, hc⟩

end Loader

end Acceptance
