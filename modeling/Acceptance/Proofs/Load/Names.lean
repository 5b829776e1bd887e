import Mathlib.Data.List.Induction
import Acceptance.Feature

/-!
# The names of a feature's scenarios

A feature keeps one scenario for a name. Of the scenarios that are added under a name, that is the one that
is added last (`Feature.mem_addAll`), and it stands where the first one of that name was added
(`Feature.names_addAll`).
-/

set_option autoImplicit false

namespace Acceptance.Feature

variable {W : Type} {f : Feature W} {name taken : String} {scenario s : Scenario W}

/-- The names of the scenarios, in order. -/
def names (f : Feature W) : List String :=
  f.scenarios.map Prod.fst

/-- A name is taken if it is one of the names. -/
theorem hasName_iff : f.hasName name = true ↔ name ∈ f.names := by
  unfold hasName names
  rw [List.any_eq_true, List.mem_map]
  simp only [beq_iff_eq]

/-- Replacing a scenario leaves all names in their places. -/
theorem map_fst_replaceNamed (l : List (String × Scenario W)) :
    (replaceNamed name scenario l).map Prod.fst = l.map Prod.fst := by
  induction l with
  | nil => rfl
  | cons entry l ih =>
    obtain ⟨taken, earlier⟩ := entry
    unfold replaceNamed
    split
    · next htaken => rw [List.map_cons, List.map_cons, htaken]
    · rw [List.map_cons, List.map_cons, ih]

/-- Where names are different, replacing a scenario changes the entry of its name only. -/
theorem mem_replaceNamed {l : List (String × Scenario W)} (hnodup : (l.map Prod.fst).Nodup)
    (hname : name ∈ l.map Prod.fst) :
    (taken, s) ∈ replaceNamed name scenario l ↔
      (taken = name ∧ s = scenario) ∨ (taken ≠ name ∧ (taken, s) ∈ l) := by
  induction l with
  | nil => cases hname
  | cons entry l ih =>
    obtain ⟨first, earlier⟩ := entry
    rw [List.map_cons, List.nodup_cons] at hnodup
    unfold replaceNamed
    by_cases hfirst : first = name
    · -- behind the scenario that is replaced the name does not come again
      have hother (hmem : (taken, s) ∈ l) : taken ≠ name := by
        intro htaken
        have hkey : taken ∈ l.map Prod.fst := List.mem_map.mpr ⟨(taken, s), hmem, rfl⟩
        rw [htaken, ← hfirst] at hkey
        exact hnodup.1 hkey
      rw [if_pos hfirst, List.mem_cons, List.mem_cons, Prod.mk.injEq, Prod.mk.injEq, hfirst]
      constructor
      · rintro (h | hmem)
        · exact .inl h
        · exact .inr ⟨hother hmem, .inr hmem⟩
      · rintro (h | ⟨hne, h | hmem⟩)
        · exact .inl h
        · exact absurd h.1 hne
        · exact .inr hmem
    · have hrest : name ∈ l.map Prod.fst := by
        rw [List.map_cons, List.mem_cons] at hname
        exact hname.resolve_left fun h => hfirst h.symm
      rw [if_neg hfirst, List.mem_cons, List.mem_cons, ih hnodup.2 hrest, Prod.mk.injEq]
      constructor
      · rintro (⟨rfl, rfl⟩ | h | ⟨hne, hmem⟩)
        · exact .inr ⟨hfirst, .inl ⟨rfl, rfl⟩⟩
        · exact .inl h
        · exact .inr ⟨hne, .inr hmem⟩
      · rintro (h | ⟨hne, h | hmem⟩)
        · exact .inr (.inl h)
        · exact .inl h
        · exact .inr (.inr ⟨hne, hmem⟩)

/-- A scenario whose name is taken leaves the names as they are. -/
theorem names_addScenario_of_mem (h : name ∈ f.names) : (f.addScenario name scenario).names = f.names := by
  unfold addScenario
  rw [if_pos (hasName_iff.mpr h)]
  exact map_fst_replaceNamed _

/-- A scenario under a new name stands behind the others. -/
theorem names_addScenario_of_notMem (h : name ∉ f.names) :
    (f.addScenario name scenario).names = f.names ++ [name] := by
  unfold addScenario
  rw [if_neg fun hname => h (hasName_iff.mp hname)]
  exact List.map_append

/-- Adding a scenario takes no name twice. -/
theorem nodup_names_addScenario (hnodup : f.names.Nodup) : (f.addScenario name scenario).names.Nodup := by
  by_cases hname : name ∈ f.names
  · rwa [names_addScenario_of_mem hname]
  · rw [names_addScenario_of_notMem hname, List.nodup_append]
    refine ⟨hnodup, by simp, ?_⟩
    intro a ha b hb hab
    rw [hab, List.mem_singleton.mp hb] at ha
    exact hname ha

/-- A scenario that is added stands for its name, and leaves those of other names as they are. -/
theorem mem_addScenario (hnodup : f.names.Nodup) :
    (taken, s) ∈ (f.addScenario name scenario).scenarios ↔
      (taken = name ∧ s = scenario) ∨ (taken ≠ name ∧ (taken, s) ∈ f.scenarios) := by
  unfold addScenario
  split
  · next hname => exact mem_replaceNamed hnodup (hasName_iff.mp hname)
  · next hname =>
    have hother (hmem : (taken, s) ∈ f.scenarios) : taken ≠ name := by
      rintro rfl
      exact hname (hasName_iff.mpr (List.mem_map.mpr ⟨(taken, s), hmem, rfl⟩))
    rw [List.mem_append, List.mem_singleton, Prod.mk.injEq]
    constructor
    · rintro (hmem | h)
      · exact .inr ⟨hother hmem, hmem⟩
      · exact .inl h
    · rintro (h | ⟨-, hmem⟩)
      · exact .inr h
      · exact .inl hmem

/-- The feature with scenarios added in order, each under its name. -/
def addAll (nameOf : Scenario W → String) (f : Feature W) (scenarios : List (Scenario W)) : Feature W :=
  scenarios.foldl (fun f scenario => f.addScenario (nameOf scenario) scenario) f

variable {nameOf : Scenario W → String} {scenarios : List (Scenario W)}

/-- Scenarios are added in their order, in any groups. -/
theorem addAll_append (first second : List (Scenario W)) :
    f.addAll nameOf (first ++ second) = (f.addAll nameOf first).addAll nameOf second :=
  List.foldl_append

/-- Nothing but the scenarios of a feature changes. -/
theorem addAll_eq : f.addAll nameOf scenarios = { f with scenarios := (f.addAll nameOf scenarios).scenarios } := by
  induction scenarios generalizing f with
  | nil => rfl
  | cons scenario scenarios ih =>
    have hfirst : f.addScenario (nameOf scenario) scenario =
        { f with scenarios := (f.addScenario (nameOf scenario) scenario).scenarios } := by
      unfold addScenario
      split <;> rfl
    have hcons : f.addAll nameOf (scenario :: scenarios) =
        (f.addScenario (nameOf scenario) scenario).addAll nameOf scenarios := rfl
    rw [hcons, ih]
    generalize (addAll nameOf _ scenarios).scenarios = all
    rw [hfirst]

/-- Adding scenarios leaves the tags of a feature. -/
@[simp] theorem tags_addAll : (f.addAll nameOf scenarios).tags = f.tags := by
  rw [addAll_eq]

/-- What becomes of the scenarios depends on the scenarios before only. -/
theorem scenarios_addAll_congr {g : Feature W} (h : f.scenarios = g.scenarios) :
    (f.addAll nameOf scenarios).scenarios = (g.addAll nameOf scenarios).scenarios := by
  induction scenarios generalizing f g with
  | nil => exact h
  | cons scenario scenarios ih =>
    have hfirst : (f.addScenario (nameOf scenario) scenario).scenarios =
        (g.addScenario (nameOf scenario) scenario).scenarios := by
      unfold addScenario hasName
      rw [h]
      split <;> rfl
    exact ih hfirst

/-- Adding scenarios takes no name twice. -/
theorem nodup_names_addAll (hnodup : f.names.Nodup) : (f.addAll nameOf scenarios).names.Nodup := by
  induction scenarios generalizing f with
  | nil => exact hnodup
  | cons scenario scenarios ih => exact ih (nodup_names_addScenario hnodup)

/-- **A name keeps its place**: the names of a feature are those of the scenarios that have been added, each
in the place where it came first. -/
theorem names_addAll (hempty : f.scenarios = []) :
    (f.addAll nameOf scenarios).names = (scenarios.map nameOf).eraseDups := by
  induction scenarios using List.reverseRecOn with
  | nil =>
    unfold names addAll
    rw [List.foldl_nil, hempty]
    rfl
  | append_singleton scenarios last ih =>
    have hlast : f.addAll nameOf (scenarios ++ [last]) =
        (f.addAll nameOf scenarios).addScenario (nameOf last) last := addAll_append scenarios [last]
    have hmem : nameOf last ∈ (f.addAll nameOf scenarios).names ↔ nameOf last ∈ scenarios.map nameOf := by
      rw [ih, List.mem_eraseDups]
    rw [hlast, List.map_append, List.map_singleton, List.eraseDups_append]
    by_cases hname : nameOf last ∈ scenarios.map nameOf
    · have hnone : [nameOf last].removeAll (scenarios.map nameOf) = [] :=
        List.filter_cons_of_neg (by simpa using hname)
      rw [names_addScenario_of_mem (hmem.mpr hname), ih, hnone]
      exact (List.append_nil _).symm
    · have hnew : [nameOf last].removeAll (scenarios.map nameOf) = [nameOf last] :=
        List.filter_cons_of_pos (by simpa using hname)
      rw [names_addScenario_of_notMem (mt hmem.mp hname), ih, hnew]
      rfl

/-- **The last one counts**: of the scenarios that are added to a feature without scenarios, the feature keeps
for each name the last one. -/
theorem mem_addAll (hempty : f.scenarios = []) :
    (name, s) ∈ (f.addAll nameOf scenarios).scenarios ↔
      ∃ earlier later, scenarios = earlier ++ s :: later ∧ nameOf s = name ∧
        ∀ other ∈ later, nameOf other ≠ name := by
  have hnodup : f.names.Nodup := by
    unfold names
    rw [hempty]
    exact List.nodup_nil
  induction scenarios using List.reverseRecOn with
  | nil =>
    have hnone : (f.addAll nameOf []).scenarios = [] := hempty
    rw [hnone]
    simp
  | append_singleton scenarios last ih =>
    have hlast : f.addAll nameOf (scenarios ++ [last]) =
        (f.addAll nameOf scenarios).addScenario (nameOf last) last := addAll_append scenarios [last]
    rw [hlast, mem_addScenario (nodup_names_addAll hnodup)]
    constructor
    · rintro (⟨rfl, rfl⟩ | ⟨hne, hmem⟩)
      · exact ⟨scenarios, [], rfl, rfl, by simp⟩
      · obtain ⟨earlier, later, rfl, rfl, hlater⟩ := ih.mp hmem
        refine ⟨earlier, later ++ [last], by simp, rfl, ?_⟩
        intro other hother
        rcases List.mem_append.mp hother with hmem | hmem
        · exact hlater other hmem
        · rw [List.mem_singleton.mp hmem]
          exact hne.symm
    · rintro ⟨earlier, later, hscenarios, rfl, hlater⟩
      rcases List.eq_nil_or_concat later with rfl | ⟨later, other, rfl⟩
      · obtain ⟨-, h⟩ := List.append_inj' hscenarios rfl
        cases h
        exact .inl ⟨rfl, rfl⟩
      · rw [List.concat_eq_append, ← List.cons_append, ← List.append_assoc] at hscenarios
        obtain ⟨rfl, h⟩ := List.append_inj' hscenarios rfl
        cases h
        refine .inr ⟨(hlater last (by simp)).symm, ih.mpr ⟨earlier, later, rfl, rfl, ?_⟩⟩
        intro other hother
        exact hlater other (by simp [hother])

/-! ## Scenarios of different names -/

/-- Where names are different, replacing a scenario goes entry by entry. -/
theorem replaceNamed_eq_map {l : List (String × Scenario W)} (hnodup : (l.map Prod.fst).Nodup) :
    replaceNamed name scenario l =
      l.map fun entry => if entry.1 = name then (name, scenario) else entry := by
  induction l with
  | nil => rfl
  | cons entry l ih =>
    obtain ⟨taken, earlier⟩ := entry
    rw [List.map_cons, List.nodup_cons] at hnodup
    rw [replaceNamed, List.map_cons]
    by_cases htaken : taken = name
    · -- behind the scenario that is replaced the name does not come again
      have hother : ∀ entry ∈ l, (if entry.1 = name then (name, scenario) else entry) = id entry := by
        intro entry hentry
        have hkey : entry.1 ∈ l.map Prod.fst := List.mem_map_of_mem hentry
        refine if_neg fun hname => hnodup.1 ?_
        rwa [htaken, ← hname]
      rw [if_pos htaken, if_pos htaken, List.map_congr_left hother, List.map_id]
    · rw [if_neg htaken, if_neg htaken, ih hnodup.2]

/-- The entry of a feature under its name, with the one of the given scenarios that has the name, if there is
one. -/
def withReplacement (nameOf : Scenario W → String) (scenarios : List (Scenario W))
    (entry : String × Scenario W) : String × Scenario W :=
  (entry.1, (scenarios.find? fun s => nameOf s == entry.1).getD entry.2)

/-- Adding a scenario of another name leaves a name as it is, taken or not. -/
theorem hasName_addScenario (hne : taken ≠ name) :
    (f.addScenario name scenario).hasName taken = f.hasName taken := by
  rw [Bool.eq_iff_iff, hasName_iff, hasName_iff]
  by_cases hname : name ∈ f.names
  · rw [names_addScenario_of_mem hname]
  · rw [names_addScenario_of_notMem hname]
    simp [hne]

/-- A scenario whose name is taken stands in the place of the earlier one. -/
theorem scenarios_addScenario_of_hasName (hnodup : f.names.Nodup) (hname : f.hasName name = true) :
    (f.addScenario name scenario).scenarios =
      f.scenarios.map fun entry => if entry.1 = name then (name, scenario) else entry := by
  rw [addScenario, if_pos hname]
  exact replaceNamed_eq_map hnodup

/-- An entry whose name no scenario has stays. -/
theorem withReplacement_of_forall_ne {entry : String × Scenario W} (h : ∀ s ∈ scenarios, nameOf s ≠ entry.1) :
    withReplacement nameOf scenarios entry = entry := by
  have hnone : (scenarios.find? fun s => nameOf s == entry.1) = none := by simpa using h
  rw [withReplacement, hnone]
  rfl

/-- A scenario of another name does not count for an entry. -/
theorem withReplacement_cons_of_ne {entry : String × Scenario W} (h : entry.1 ≠ nameOf scenario) :
    withReplacement nameOf (scenario :: scenarios) entry = withReplacement nameOf scenarios entry := by
  rw [withReplacement, withReplacement, List.find?_cons_of_neg (by simpa using h.symm)]

/-- A scenario replaces the entry of its own name. -/
theorem withReplacement_cons_self (earlier : Scenario W) :
    withReplacement nameOf (scenario :: scenarios) (nameOf scenario, earlier) = (nameOf scenario, scenario) := by
  rw [withReplacement, List.find?_cons_of_pos (by simp)]
  rfl

/-- **Scenarios of different names** do not get in each other's way: those with a name that is taken stand in the
places of the earlier ones, and the others stand behind them in their order. -/
theorem scenarios_addAll_of_nodup (hnodup : f.names.Nodup) (hdifferent : (scenarios.map nameOf).Nodup) :
    (f.addAll nameOf scenarios).scenarios =
      f.scenarios.map (withReplacement nameOf scenarios) ++
        (scenarios.filter fun s => !f.hasName (nameOf s)).map fun s => (nameOf s, s) := by
  induction scenarios generalizing f with
  | nil => exact (List.append_nil _).symm ▸ (List.map_id f.scenarios).symm
  | cons s rest ih =>
    rw [List.map_cons, List.nodup_cons] at hdifferent
    have hother : ∀ t ∈ rest, nameOf t ≠ nameOf s := fun t ht h =>
      hdifferent.1 (h ▸ List.mem_map_of_mem ht)
    have hkeeps : withReplacement nameOf rest (nameOf s, s) = (nameOf s, s) :=
      withReplacement_of_forall_ne hother
    have hfilter : (rest.filter fun t => !(f.addScenario (nameOf s) s).hasName (nameOf t)) =
        rest.filter fun t => !f.hasName (nameOf t) := by
      refine List.filter_congr fun t ht => ?_
      rw [hasName_addScenario (hother t ht)]
    have hcons : f.addAll nameOf (s :: rest) = (f.addScenario (nameOf s) s).addAll nameOf rest := rfl
    rw [hcons, ih (nodup_names_addScenario hnodup) hdifferent.2, hfilter]
    by_cases hname : f.hasName (nameOf s) = true
    · rw [List.filter_cons_of_neg (by simp [hname]), scenarios_addScenario_of_hasName hnodup hname, List.map_map]
      congr 1
      refine List.map_congr_left fun ⟨taken, earlier⟩ _ => ?_
      rw [Function.comp_apply]
      by_cases htaken : taken = nameOf s
      · subst htaken
        rw [if_pos rfl, hkeeps, withReplacement_cons_self]
      · rw [if_neg htaken, withReplacement_cons_of_ne htaken]
    · have hscenarios : (f.addScenario (nameOf s) s).scenarios = f.scenarios ++ [(nameOf s, s)] := by
        rw [addScenario, if_neg hname]
      have hrest : ∀ entry ∈ f.scenarios,
          withReplacement nameOf rest entry = withReplacement nameOf (s :: rest) entry := by
        intro entry hentry
        refine (withReplacement_cons_of_ne fun h => hname (hasName_iff.mpr ?_)).symm
        exact h ▸ List.mem_map_of_mem hentry
      rw [List.filter_cons_of_pos (by simp [hname]), hscenarios, List.map_append, List.map_congr_left hrest,
        List.map_singleton, hkeeps, List.append_assoc, List.map_cons, List.singleton_append]

/-! ## Test cases -/

/-- The test cases of a feature are those of its scenarios, or the one that stands for a feature that has
none. -/
theorem mem_cases {group : String} {c : TestCase W} : c ∈ f.cases group ↔
    (f.scenarios = [] ∧ c = ⟨f.info group emptyName none f.tags, none⟩) ∨
      ∃ name s, (name, s) ∈ f.scenarios ∧ c = ⟨f.info group name (some s.title) s.tags, some s⟩ := by
  unfold cases
  cases f.scenarios with
  | nil => simp
  | cons first rest =>
    rw [List.mem_map]
    constructor
    · rintro ⟨⟨name, s⟩, hs, rfl⟩
      exact .inr ⟨name, s, hs, rfl⟩
    · rintro (⟨hnone, -⟩ | ⟨name, s, hs, rfl⟩)
      · cases hnone
      · exact ⟨(name, s), hs, rfl⟩

/-- A feature has a test case at least. -/
theorem cases_ne_nil (f : Feature W) (group : String) : f.cases group ≠ [] := by
  unfold cases
  split
  · exact List.cons_ne_nil _ _
  · next hscenarios => exact mt List.map_eq_nil_iff.mp hscenarios

/-- The test cases of a feature with scenarios have the names of these, in order. -/
theorem map_name_cases {group : String} (h : f.scenarios ≠ []) :
    (f.cases group).map (fun c => c.info.name) = f.names := by
  unfold cases names
  cases hscenarios : f.scenarios with
  | nil => exact absurd hscenarios h
  | cons first rest =>
    dsimp only
    rw [List.map_map]
    rfl

end Acceptance.Feature
