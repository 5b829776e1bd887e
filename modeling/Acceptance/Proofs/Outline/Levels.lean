import Acceptance.Proofs.Outline.Expansion

/-!
# How deep an outline is filled

A scenario runs the steps of its backgrounds, level by level, before its own. A row fills two levels of an
outline: its own steps, and those of the background that it refers to. The levels behind these are taken from
the outline as they are, so everything that a scenario runs is filled with its row just where the steps of
those levels are their own fills (`Scenario.filledThroughout_of_expand`).
-/

set_option autoImplicit false

namespace Acceptance

variable {W : Type}

namespace Scenario

/-- The levels of a scenario: its own steps, and then its backgrounds, the nearest one first. -/
def levels (s : Scenario W) : List (Block W) :=
  s.toBlock :: s.backgrounds

/-- Whether every step of every level is filled from the template in its place. -/
def FilledThroughout (values : Substitution) (r : Registry W) (outline s : Scenario W) : Prop :=
  List.Forall₂
    (fun template level : Block W =>
      List.Forall₂ (Step.IsFill values r) template.steps level.steps)
    outline.levels s.levels

/-- **What is not filled** is all that stands in the way: a level behind the nearest background is as it
should be just where its steps are their own fills. -/
theorem MadeOf.filledThroughout_iff {outline s : Scenario W} {label : String} {tags : TagSet}
    {r : Registry W} {values : Substitution} {number : Nat}
    (h : MadeOf outline label tags r values number s) :
    FilledThroughout values r outline s ↔
      ∀ b ∈ outline.backgrounds.tail, ∀ step ∈ b.steps, step.IsFill values r step := by
  have hsame (backgrounds : List (Block W)) :
      List.Forall₂ (fun template level : Block W =>
          List.Forall₂ (Step.IsFill values r) template.steps level.steps) backgrounds backgrounds ↔
        ∀ b ∈ backgrounds, ∀ step ∈ b.steps, step.IsFill values r step := by
    simp only [List.forall₂_same]
  unfold FilledThroughout levels
  rw [List.forall₂_cons]
  refine (and_iff_right h.steps).trans ?_
  -- the nearest background is there on both sides or on neither, and what is behind it is the same
  match outline.backgrounds, s.backgrounds, h.background, h.others with
  | [], [], .none, _ => simp
  | template :: behind, level :: _, .some hfill, rfl =>
    rw [List.forall₂_cons, hsame]
    exact and_iff_right hfill.steps

/-- **Two levels of every scenario are filled** with its row, at whatever depth its backgrounds nest, and the
levels behind these are those of the outline. So all that the scenario runs is filled just where the steps of
the levels behind are their own fills. -/
theorem filledThroughout_of_expand {outline : Scenario W} {label : String} {tags : TagSet} {table : Table}
    {r : Registry W} {scenarios : List (Scenario W)}
    (h : (outline.expand (.ofTable label tags table) r).result = .ok scenarios) :
    List.Forall₂
      (fun cells s =>
        let values := table.values cells
        List.Forall₂ (Step.IsFill values r) outline.steps s.steps ∧
          Option.Rel (Block.IsFill values r) outline.backgrounds.head? s.backgrounds.head? ∧
          s.backgrounds.tail = outline.backgrounds.tail ∧
          (FilledThroughout values r outline s ↔
            ∀ b ∈ outline.backgrounds.tail, ∀ step ∈ b.steps, step.IsFill values r step))
      table.rows scenarios := by
  have hmade := (outline.expand_passes label tags table).of_ok h
  have hrows := hmade.imp fun (row : List String × Nat) s (hrow : MadeOf _ _ _ _ _ _ s) =>
    And.intro hrow.steps (And.intro hrow.background (And.intro hrow.others hrow.filledThroughout_iff))
  rw [← List.zipIdx_map_fst 0 table.rows, List.forall₂_map_left_iff]
  exact hrows

/-- A scenario whose background has none of its own is filled throughout. -/
theorem filledThroughout_near_background :
    let step (text : String) : Step Unit := { keyword := .given, text := text, binding := none }
    let near : Block Unit := { title := "near", steps := [step "near <k>"] }
    let outline : Scenario Unit := { title := "o", steps := [step "own <k>"], backgrounds := [near] }
    let table : Table := ⟨["k"], [["1"]]⟩
    ∃ scenarios, (outline.expand (.ofTable "e" ∅ table) .empty).result = .ok scenarios ∧
      scenarios.map (fun s => s.allSteps.map (·.text)) = [["near 1", "own 1"]] ∧
      ∀ s ∈ scenarios, FilledThroughout (table.values ["1"]) .empty outline s := by
  intro step near outline table
  have htexts : (outline.expand (.ofTable "e" ∅ table) .empty).result.toOption.map
      (List.map fun s => s.allSteps.map (·.text)) = some [["near 1", "own 1"]] := by decide +kernel
  obtain ⟨scenarios, hresult, htexts⟩ := Logged.exists_ok_of_map htexts
  refine ⟨scenarios, hresult, htexts, ?_⟩
  cases filledThroughout_of_expand hresult with
  | cons hrow hrest =>
    cases hrest
    refine List.forall_mem_singleton.mpr (hrow.2.2.2.mpr ?_)
    exact List.forall_mem_nil _

/-- A scenario whose background has a background of its own runs a step with a placeholder in it. -/
theorem not_filledThroughout_far_background :
    let step (text : String) : Step Unit := { keyword := .given, text := text, binding := none }
    let near : Block Unit := { title := "near", steps := [step "near <k>"] }
    let far : Block Unit := { title := "far", steps := [step "far <k>"] }
    let outline : Scenario Unit := { title := "o", steps := [step "own <k>"], backgrounds := [near, far] }
    let table : Table := ⟨["k"], [["1"]]⟩
    ∃ s, (outline.expand (.ofTable "e" ∅ table) .empty).result = .ok [s] ∧
      s.allSteps.map (·.text) = ["far <k>", "near 1", "own 1"] ∧
      ¬ FilledThroughout (table.values ["1"]) .empty outline s := by
  intro step near far outline table
  have htexts : (outline.expand (.ofTable "e" ∅ table) .empty).result.toOption.map
      (List.map fun s => s.allSteps.map (·.text)) = some [["far <k>", "near 1", "own 1"]] := by
    decide +kernel
  have hfill : (table.values ["1"]).apply "far <k>" = "far 1" := by decide +kernel
  obtain ⟨scenarios, hresult, htexts⟩ := Logged.exists_ok_of_map htexts
  cases (outline.expand_passes "e" ∅ table).of_ok hresult with
  | @cons _ s _ _ hmade hrest =>
    cases hrest
    refine ⟨s, hresult, (List.cons.inj htexts).1, fun hfilled => ?_⟩
    have hfar := hmade.filledThroughout_iff.mp hfilled far List.mem_cons_self (step "far <k>")
      List.mem_cons_self
    exact absurd (hfar.text.trans hfill) (by decide)

end Scenario

end Acceptance
