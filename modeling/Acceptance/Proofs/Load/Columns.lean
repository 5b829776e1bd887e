import Acceptance.Proofs.Load.Recall

/-!
# Names and scenarios in two columns

The scenarios of a feature can be kept in a column of names and a column of scenarios: a scenario whose name
is taken goes to the index of that name, and any other goes to the end of both columns. Index by index these
are the named scenarios of the feature (`Feature.columns_addAll`), so neither column runs ahead of the other,
and no scenario comes to stand beside a name that is not its own.
-/

set_option autoImplicit false

namespace Acceptance

variable {W : Type}

/-- A column of names and a column of scenarios. -/
structure Columns (W : Type) where
  names : List String := []
  scenarios : List (Scenario W) := []

namespace Columns

/-- Put a scenario at the index of its name, or at the end of both columns. -/
def add (columns : Columns W) (name : String) (scenario : Scenario W) : Columns W :=
  match columns.names.idxOf? name with
  | some index => { columns with scenarios := columns.scenarios.set index scenario }
  | none => ⟨columns.names ++ [name], columns.scenarios ++ [scenario]⟩

/-- Put scenarios in order, each under its name. -/
def addAll (nameOf : Scenario W → String) (columns : Columns W) (scenarios : List (Scenario W)) : Columns W :=
  scenarios.foldl (fun columns scenario => columns.add (nameOf scenario) scenario) columns

end Columns

namespace Feature

variable {f : Feature W} {name : String} {scenario : Scenario W}

/-- The names and the scenarios of a feature. -/
def columns (f : Feature W) : Columns W :=
  ⟨f.names, f.scenarios.map Prod.snd⟩

/-- To replace the scenario of a name is to write at the index of that name. -/
theorem map_snd_replaceNamed {l : List (String × Scenario W)} {index : Nat}
    (hindex : (l.map Prod.fst).idxOf? name = some index) :
    (replaceNamed name scenario l).map Prod.snd = (l.map Prod.snd).set index scenario := by
  induction l generalizing index with
  | nil => cases hindex
  | cons entry l ih =>
    obtain ⟨taken, earlier⟩ := entry
    rw [List.map_cons, List.idxOf?_cons] at hindex
    unfold replaceNamed
    by_cases htaken : taken = name
    · rw [if_pos (beq_iff_eq.mpr htaken)] at hindex
      cases hindex
      rw [if_pos htaken]
      rfl
    · rw [if_neg fun h => htaken (beq_iff_eq.mp h)] at hindex
      obtain ⟨rest, hrest, rfl⟩ := Option.map_eq_some_iff.mp hindex
      rw [if_neg htaken, List.map_cons, List.map_cons, List.set_cons_succ, ih hrest]

/-- Adding a scenario to a feature adds it to the columns. -/
theorem columns_addScenario : (f.addScenario name scenario).columns = f.columns.add name scenario := by
  unfold Columns.add
  -- an index is found just where the feature has the name, so both sides take the same branch
  cases hindex : f.columns.names.idxOf? name with
  | none =>
    have hname : name ∉ f.names := List.idxOf?_eq_none_iff.mp hindex
    unfold columns
    rw [names_addScenario_of_notMem hname]
    unfold addScenario
    rw [if_neg fun h => hname (hasName_iff.mp h), List.map_append]
    rfl
  | some index =>
    have hname : name ∈ f.names := List.isSome_idxOf?.mp (Option.isSome_of_eq_some hindex)
    unfold columns
    rw [names_addScenario_of_mem hname]
    unfold addScenario
    rw [if_pos (hasName_iff.mpr hname), map_snd_replaceNamed hindex]

/-- **The columns of a feature** with scenarios added are its columns with the scenarios put in order. -/
theorem columns_addAll {nameOf : Scenario W → String} {scenarios : List (Scenario W)} :
    (f.addAll nameOf scenarios).columns = f.columns.addAll nameOf scenarios := by
  induction scenarios generalizing f with
  | nil => rfl
  | cons scenario scenarios ih =>
    have hfirst : (f.addScenario (nameOf scenario) scenario).columns =
        f.columns.add (nameOf scenario) scenario := columns_addScenario
    exact ih.trans (congrArg (fun columns => columns.addAll nameOf scenarios) hfirst)

/-- The scenarios of the test cases are those of the feature, in order. -/
theorem map_scenario_cases {group : String} (h : f.scenarios ≠ []) :
    (f.cases group).map (·.scenario) = f.columns.scenarios.map some := by
  unfold cases columns
  split
  · next hnil => exact absurd hnil h
  · rw [List.map_map, List.map_map]
    rfl

end Feature

/-- What a feature keeps of the scenarios added, in columns. -/
theorem Draft.Keeps.columns_eq {config : NamingConfig} {added : List (Scenario W)} {f : Feature W}
    (h : Keeps config added f) : f.columns = ({} : Columns W).addAll (nameOf config) added := by
  obtain ⟨empty, hempty, hscenarios⟩ := h
  have hnothing : empty.columns = {} := by
    unfold Feature.columns Feature.names
    rw [hempty]
    rfl
  calc f.columns
    _ = (empty.addAll (nameOf config) added).columns := by
      unfold Feature.columns Feature.names
      rw [hscenarios]
    _ = ({} : Columns W).addAll (nameOf config) added := by rw [Feature.columns_addAll, hnothing]

end Acceptance
