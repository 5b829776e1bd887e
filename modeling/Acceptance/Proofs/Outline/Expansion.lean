import Acceptance.Outline
import Acceptance.Proofs.Outline.Binding
import Acceptance.Proofs.Outline.Substitution

/-!
# What an outline makes of a table

Every row of an examples table makes one scenario of an outline, and everything that the row fills is filled
with its own values. It ends early just where the engine has no room for the keys of a row or where a filled step
is ambiguous, with the first of these in the order of the rows, and within a row with the keys before the steps
of the outline and with these before the steps of its background (`Scenario.expand_ofTable`).
-/

set_option autoImplicit false

namespace Acceptance

open Pattern

variable {W : Type}

/-- The placeholders of a table, each with the cell of a row that stands under it. -/
def Table.pairs (t : Table) (cells : List String) : List (String × String) :=
  (t.keys.map outlineKey).zip cells

/-- The values that a row of cells gives to the placeholders of its table. -/
def Table.values (t : Table) (cells : List String) : Substitution :=
  .ofPairs (t.pairs cells)

/-- The rows of a table with its keys as placeholders, counted from zero. -/
theorem Table.zipIdx_views (t : Table) :
    t.withOutlineKeys.views.zipIdx =
      t.rows.zipIdx.map fun row => (⟨t.keys.map outlineKey, row.1⟩, row.2) :=
  List.zipIdx_map

/-- A placeholder is no shorter than its key. -/
theorem utf8ByteSize_le_outlineKey (key : String) : key.utf8ByteSize ≤ (outlineKey key).utf8ByteSize := by
  unfold outlineKey
  split
  · exact Nat.le_refl _
  · rw [String.utf8ByteSize_append, String.utf8ByteSize_append]
    omega

namespace Block

/-- What a background becomes when its steps are filled. -/
structure IsFill (values : Substitution) (r : Registry W) (template filled : Block W) : Prop where
  title : filled.title = template.title
  tags : filled.tags = template.tags
  steps : List.Forall₂ (Step.IsFill values r) template.steps filled.steps

/-- **A block is filled** unless one of its filled steps is ambiguous. -/
theorem fill_binds {r : Registry W} (b : Block W) (title : String) (values : Substitution) :
    r.Binds (b.steps.map (Step.filledText values)) (b.fill title values r) fun filled =>
      filled.title = title ∧ filled.tags = b.tags ∧
        List.Forall₂ (Step.IsFill values r) b.steps filled.steps := by
  have hsteps := Logged.Passes.traverse (Step.fill_binds (r := r) values) b.steps
  rw [← List.map_eq_flatMap] at hsteps
  exact hsteps.map fun steps hsteps => ⟨rfl, rfl, hsteps⟩

end Block

namespace Scenario

variable {r : Registry W}

/-- The steps that a row fills: those of the outline, and then those of the background that it refers to. -/
def templates (outline : Scenario W) : List (Step W) :=
  outline.steps ++ outline.backgrounds.head?.toList.flatMap Block.steps

/-- What the row with the given number makes of an outline. -/
structure MadeOf (outline : Scenario W) (label : String) (tags : TagSet) (r : Registry W)
    (values : Substitution) (number : Nat) (s : Scenario W) : Prop where
  title : s.title = values.apply outline.title ++ " " ++ toString number ++ " " ++ label
  tags : s.tags = outline.tags.union tags
  steps : List.Forall₂ (Step.IsFill values r) outline.steps s.steps
  /-- There is a background where the outline has one, and that is filled with the same values. -/
  background : Option.Rel (Block.IsFill values r) outline.backgrounds.head? s.backgrounds.head?
  /-- The backgrounds behind that one are taken as they are. -/
  others : s.backgrounds.tail = outline.backgrounds.tail

/-- **The nearest background is filled** unless one of its filled steps is ambiguous. -/
theorem fillBackgrounds_binds (values : Substitution) (backgrounds : List (Block W)) :
    r.Binds ((backgrounds.head?.toList.flatMap Block.steps).map (Step.filledText values))
      (fillBackgrounds values r backgrounds) fun filled =>
        Option.Rel (Block.IsFill values r) backgrounds.head? filled.head? ∧
          filled.tail = backgrounds.tail := by
  cases backgrounds with
  | nil => exact .pure ⟨.none, rfl⟩
  | cons nearest others =>
    have hnearest := nearest.fill_binds (r := r) nearest.title values
    rw [List.head?_cons, Option.toList_some, List.flatMap_singleton]
    refine hnearest.map ?_
    rintro filled ⟨htitle, htags, hsteps⟩
    exact ⟨.some ⟨htitle, htags, hsteps⟩, rfl⟩

/-- **One row**: the outline and its background are filled with the values of the row. -/
theorem fillRow_binds (outline : Scenario W) (examples : Examples) (number : Nat) (values : Substitution) :
    r.Binds (outline.templates.map (Step.filledText values)) (outline.fillRow examples r number values)
      (MadeOf outline examples.label examples.tags r values number) := by
  unfold fillRow templates
  rw [List.map_append]
  refine (outline.toBlock.fill_binds _ _).bind fun block hblock => ?_
  obtain ⟨htitle, htags, hsteps⟩ := hblock
  refine (fillBackgrounds_binds _ outline.backgrounds).map fun backgrounds hbackgrounds => ?_
  obtain ⟨hnearest, hothers⟩ := hbackgrounds
  have hunion : block.tags.union examples.tags = outline.tags.union examples.tags := by rw [htags]
  exact ⟨htitle, hunion, hsteps, hnearest, hothers⟩

/-- What can be in the way of a row: the search for its keys, and the steps that it fills. -/
inductive Obstacle where
  | keys (pairs : List (String × String))
  | step (keyword : Keyword) (text : String)

/-- What is wrong with an obstacle: the engine has no room for the keys, or the step is ambiguous. -/
def Obstacle.fault? (r : Registry W) : Obstacle → Option ExpansionFault
  | keys pairs => (Substitution.refusal? r.engine pairs).map fun reason => .substitution ⟨.refused reason⟩
  | step keyword text => (r.ambiguity? (keyword, text)).map .ambiguous

/-- What a row meets in order: its keys, and then the steps of the outline and those of its background, filled
with its values. -/
def obstacles (outline : Scenario W) (pairs : List (String × String)) : List Obstacle :=
  .keys pairs ::
    (outline.templates.map (Step.filledText (.ofPairs pairs))).map fun step => .step step.1 step.2

/-- Without definitions nothing is wrong with a row but its keys. -/
theorem refusal?_of_fault? {outline : Scenario W} {pairs : List (String × String)} {obstacle : Obstacle}
    {fault : ExpansionFault} (hempty : r.definitions = []) (hmem : obstacle ∈ outline.obstacles pairs)
    (h : obstacle.fault? r = some fault) :
    ∃ reason, Substitution.refusal? r.engine pairs = some reason ∧ fault = .substitution ⟨.refused reason⟩ := by
  have hnone (step : Keyword × String) : r.ambiguity? step = none := by
    rw [Registry.ambiguity?_eq_none, Registry.IsAmbiguous, Registry.matching, hempty]
    exact Nat.not_succ_le_zero 1
  rcases List.mem_cons.mp hmem with rfl | hmem
  · obtain ⟨reason, hreason, rfl⟩ := Option.map_eq_some_iff.mp h
    exact ⟨reason, hreason, rfl⟩
  · obtain ⟨step, -, rfl⟩ := List.mem_map.mp hmem
    rw [Obstacle.fault?, hnone, Option.map_none] at h
    cases h

/-- Where nothing is wrong with the keys of a row, its substitution is built. -/
theorem build_of_fault? {pairs : List (String × String)} (h : (Obstacle.keys pairs).fault? r = none) :
    Substitution.build r.engine pairs = .ok (.ofPairs pairs) := by
  rw [Obstacle.fault?, Option.map_eq_none_iff] at h
  rw [Substitution.build_eq, h]

/-- **One row** makes a scenario, unless something is in its way. -/
theorem ofRow_passes (outline : Scenario W) (examples : Examples) (number : Nat) (row : Table.Row) :
    (outline.ofRow examples r number row).Passes (Obstacle.fault? r) (outline.obstacles row.pairs)
      (MadeOf outline examples.label examples.tags r (.ofPairs row.pairs) number) := by
  have hfill : ((outline.fillRow examples r number (.ofPairs row.pairs)).mapError .ambiguous).Passes
      (Obstacle.fault? r)
      ((outline.templates.map (Step.filledText (.ofPairs row.pairs))).map fun step => .step step.1 step.2)
      (MadeOf outline examples.label examples.tags r (.ofPairs row.pairs) number) :=
    Logged.Passes.mapError (outline.fillRow_binds examples number _) fun _ => rfl
  unfold ofRow obstacles
  rw [Substitution.build_eq, Logged.Passes, List.findSome?_cons, Obstacle.fault?]
  cases Substitution.refusal? r.engine row.pairs with
  | some reason => exact .inl ⟨_, rfl, rfl⟩
  | none => exact hfill

/-- **All rows**, in order, each with the values of its own cells. -/
theorem expand_passes (outline : Scenario W) (label : String) (tags : TagSet) (table : Table) :
    (outline.expand (.ofTable label tags table) r).Passes (Obstacle.fault? r)
      (table.rows.flatMap fun cells => outline.obstacles (table.pairs cells))
      (List.Forall₂
        (fun (row : List String × Nat) s =>
          MadeOf outline label tags r (table.values row.1) (row.2 + 1) s)
        table.rows.zipIdx) := by
  have hrows := Logged.Passes.traverse
    (fun row : Table.Row × Nat =>
      outline.ofRow_passes (r := r) (.ofTable label tags table) (row.2 + 1) row.1)
    (Examples.ofTable label tags table).table.views.zipIdx
  -- the rows that are traversed are views with the keys as placeholders, and each has the cells of its row
  have hviews : (Examples.ofTable label tags table).table.views.zipIdx =
      table.rows.zipIdx.map fun row => (⟨table.keys.map outlineKey, row.1⟩, row.2) :=
    table.zipIdx_views
  have hobstacles : (table.rows.zipIdx.map fun row : List String × Nat =>
        ((⟨table.keys.map outlineKey, row.1⟩, row.2) : Table.Row × Nat)).flatMap (fun row =>
          outline.obstacles row.1.pairs) =
      table.rows.flatMap fun cells => outline.obstacles (table.pairs cells) := by
    rw [List.flatMap_map]
    conv_rhs => rw [← List.zipIdx_map_fst 0 table.rows, List.flatMap_map]
    rfl
  unfold expand
  rw [hviews, hobstacles] at hrows
  rw [hviews]
  exact hrows.imp fun scenarios hscenarios => List.forall₂_map_left_iff.mp hscenarios

/-- A template is in the way of a row with its filled text. -/
theorem step_mem_obstacles {outline : Scenario W} {template : Step W} (h : template ∈ outline.templates)
    (pairs : List (String × String)) :
    .step template.keyword ((Substitution.ofPairs pairs).apply template.text) ∈ outline.obstacles pairs := by
  unfold obstacles
  rw [List.map_map, List.mem_cons, List.mem_map]
  exact .inr ⟨template, h, rfl⟩

/-- A row that has its scenario fills no ambiguous step. -/
theorem not_isAmbiguous_of_expand {outline : Scenario W} {label : String} {tags : TagSet} {table : Table}
    {scenarios : List (Scenario W)} (h : (outline.expand (.ofTable label tags table) r).result = .ok scenarios)
    {cells : List String} (hcells : cells ∈ table.rows) {template : Step W}
    (htemplate : template ∈ outline.templates) :
    ¬ r.IsAmbiguous template.keyword ((table.values cells).apply template.text) := by
  have hnone := (outline.expand_passes label tags table).forall_eq_none h
    (.step template.keyword ((Substitution.ofPairs (table.pairs cells)).apply template.text))
    (List.mem_flatMap.mpr ⟨cells, hcells, step_mem_obstacles htemplate _⟩)
  rw [Obstacle.fault?, Option.map_eq_none_iff, Registry.ambiguity?_eq_none] at hnone
  rw [Table.values]
  exact hnone

/-- **Outlines are expanded pointwise.** The expansion ends with the first fault, row by row and within a row the
keys, the steps of the outline and then those of its background: the engine has no room for the keys, or a filled
step is ambiguous. Or there is no such fault, and there is one scenario for every row, in the order of the rows,
made with the number of that row and the substitution that is built of its placeholders and cells. -/
theorem expand_ofTable (outline : Scenario W) (label : String) (tags : TagSet) (table : Table)
    (r : Registry W) :
    let expansion := outline.expand (.ofTable label tags table) r
    let obstacles := table.rows.flatMap fun cells => outline.obstacles (table.pairs cells)
    (∃ earlier obstacle later fault, obstacles = earlier ++ obstacle :: later ∧
        (∀ other ∈ earlier, other.fault? r = none) ∧ obstacle.fault? r = some fault ∧
        expansion.result = .error fault) ∨
      (∀ obstacle ∈ obstacles, obstacle.fault? r = none) ∧ ∃ scenarios, expansion.result = .ok scenarios ∧
        List.Forall₂
          (fun (row : List String × Nat) s =>
            Substitution.build r.engine (table.pairs row.1) = .ok (table.values row.1) ∧
              MadeOf outline label tags r (table.values row.1) (row.2 + 1) s)
          table.rows.zipIdx scenarios := by
  intro expansion obstacles
  rcases outline.expand_passes (r := r) label tags table with ⟨fault, hfirst, herror⟩ | ⟨hnone, hok⟩
  · obtain ⟨earlier, obstacle, later, hsplit, hfault, hearlier⟩ := List.findSome?_eq_some_iff.mp hfirst
    exact .inl ⟨earlier, obstacle, later, fault, hsplit, hearlier, hfault, herror⟩
  · have hclear := List.findSome?_eq_none_iff.mp hnone
    obtain ⟨scenarios, hresult, hmade⟩ := hok
    have hbuilt : ∀ row ∈ table.rows.zipIdx,
        Substitution.build r.engine (table.pairs row.1) = .ok (table.values row.1) := by
      intro row hrow
      have hcells : row.1 ∈ table.rows := List.fst_mem_of_mem_zipIdx hrow
      exact build_of_fault? (hclear _ (List.mem_flatMap.mpr ⟨row.1, hcells, List.mem_cons_self⟩))
    exact .inr ⟨hclear, scenarios, hresult, (List.forall₂_and_left _ _).mpr ⟨hbuilt, hmade⟩⟩

/-- A key that is too long for the standard engine: without definitions no step is ambiguous, and still there is
no scenario. -/
theorem expand_long_key :
    let outline : Scenario Unit :=
      { title := "o", steps := [{ keyword := .given, text := "x", binding := none }] }
    let table : Table := ⟨[String.ofList (List.replicate 500000 'k')], [["1"]]⟩
    (∀ keyword text, ¬ (.empty : Registry Unit).IsAmbiguous keyword text) ∧
      (outline.expand (.ofTable "e" ∅ table) .empty).result =
        .error (.substitution ⟨.refused "Compiled regex exceeds size limit of 10485760 bytes."⟩) := by
  intro outline table
  refine ⟨fun keyword text => by simp [Registry.IsAmbiguous, Registry.matching, Registry.empty], ?_⟩
  have hsize := utf8ByteSize_le_outlineKey (String.ofList (List.replicate 500000 'k'))
  rw [Substitution.utf8ByteSize_replicate] at hsize
  have hrefusal : Substitution.refusal? .standard (table.pairs ["1"]) =
      some "Compiled regex exceeds size limit of 10485760 bytes." :=
    Substitution.refusal?_standard_of_lt (by rw [Engine.sizeLimit, stateBytes]; omega) "1"
  have hfault : (Obstacle.keys (table.pairs ["1"])).fault? (.empty : Registry Unit) =
      some (.substitution ⟨.refused "Compiled regex exceeds size limit of 10485760 bytes."⟩) := by
    rw [Obstacle.fault?, Registry.empty, hrefusal]
    rfl
  rcases outline.expand_passes (r := .empty) "e" ∅ table with ⟨fault, hfirst, herror⟩ | ⟨hnone, -⟩
  · rw [List.flatMap_singleton, obstacles, List.findSome?_cons, hfault] at hfirst
    cases hfirst
    exact herror
  · rw [List.flatMap_singleton, obstacles, List.findSome?_cons, hfault] at hnone
    cases hnone

end Scenario

end Acceptance
