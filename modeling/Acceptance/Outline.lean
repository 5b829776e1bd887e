import Acceptance.Scenario

/-!
# Outlines

An outline is a scenario with placeholders in it, and an examples block has a table of values for them.
Every row of the table makes a scenario of its own: its steps, and those of the background that the outline
refers to, are filled with the values of the row. The backgrounds behind that one are taken as they are. An
outline cannot be expanded where a filled step is ambiguous, or where the substitution of a row cannot be built.
-/

set_option autoImplicit false

namespace Acceptance

/-- An examples block: the name that its scenarios end with, its tags, and the values of the
placeholders. -/
structure Examples where
  label : String
  tags : TagSet
  table : Table
  deriving DecidableEq, Repr

namespace Examples

/-- The examples block with the values of a table. The keys become placeholders. -/
def ofTable (label : String) (tags : TagSet) (table : Table) : Examples :=
  ⟨label, tags, table.withOutlineKeys⟩

end Examples

/-- Why an outline cannot be expanded. -/
inductive ExpansionFault where
  /-- A step filled with a row matches several definitions. -/
  | ambiguous (a : Ambiguity)
  /-- The substitution of a row cannot be built. -/
  | substitution (fault : SubstitutionFault)
  deriving DecidableEq, Repr

/-- What is said about the fault. -/
def ExpansionFault.message : ExpansionFault → String
  | ambiguous a => a.message
  | substitution fault => fault.message

namespace Scenario

variable {W : Type}

/-- The title of the scenario that the row with the given number, from one, makes of an outline. -/
def rowTitle (outline : Scenario W) (values : Substitution) (number : Nat) (label : String) : String :=
  values.apply outline.title ++ " " ++ toString number ++ " " ++ label

/-- The backgrounds of an outline, the nearest one filled. -/
def fillBackgrounds (values : Substitution) (r : Registry W) :
    List (Block W) → Logged Ambiguity (List (Block W))
  | [] => .pure []
  | nearest :: others =>
    (nearest.fill nearest.title values r).bind fun filled => .pure (filled :: others)

/-- The scenario that the values of a row with the given number make of an outline. -/
def fillRow (outline : Scenario W) (examples : Examples) (r : Registry W) (number : Nat)
    (values : Substitution) : Logged Ambiguity (Scenario W) :=
  let title := outline.rowTitle values number examples.label
  (outline.toBlock.fill title values r).bind fun block =>
    (fillBackgrounds values r outline.backgrounds).bind fun backgrounds =>
      .pure { block with tags := block.tags.union examples.tags, backgrounds := backgrounds }

/-- The scenario that a row with the given number makes of an outline. -/
def ofRow (outline : Scenario W) (examples : Examples) (r : Registry W) (number : Nat)
    (row : Table.Row) : Logged ExpansionFault (Scenario W) :=
  match Substitution.build r.engine row.pairs with
  | .error fault => .fail (.substitution fault)
  | .ok values => (outline.fillRow examples r number values).mapError .ambiguous

/-- The scenarios of an outline, one for every row of the examples and in their order. -/
def expand (outline : Scenario W) (examples : Examples) (r : Registry W) :
    Logged ExpansionFault (List (Scenario W)) :=
  Logged.traverse (fun (row, index) => outline.ofRow examples r (index + 1) row)
    examples.table.views.zipIdx

end Scenario

end Acceptance
