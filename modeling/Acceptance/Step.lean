import Acceptance.Step.Registry

/-!
# Steps

A step is the text of a step together with the definition that it is bound to, if there is one. A step is
bound when it is made, and bound anew when its placeholders are replaced.
-/

set_option autoImplicit false

namespace Acceptance

/-- A step, bound to one definition at most. -/
structure Step (W : Type) extends StepText where
  binding : Option (Binding W)

namespace Step

variable {W : Type}

/-- Whether the step has a definition. -/
def isDefined (s : Step W) : Bool :=
  s.binding.isSome

/-- The step with the given keyword and text, bound by the registry. -/
def make (keyword : Keyword) (text : String) (r : Registry W) : Logged Ambiguity (Step W) :=
  match r.resolve keyword text with
  | .error ambiguity => .fail ambiguity
  | .ok (some binding) => .pure { keyword := keyword, text := text, binding := some binding }
  | .ok none =>
    ⟨[⟨.debug, "no definition for step `" ++ Registry.subject keyword text ++ "`"⟩],
      .ok { keyword := keyword, text := text, binding := none }⟩

/-- The step with the lines of a multiline block attached. -/
def withMultiline (s : Step W) (lines : List String) : Step W :=
  { s with multilines := some lines }

/-- The step with a table attached. -/
def withTable (s : Step W) (table : Table) : Step W :=
  { s with table := some table }

/-- The step with the placeholders replaced in its text, in every line of its block, and in every key and
cell of its table, bound by its new text. -/
def fill (s : Step W) (values : Substitution) (r : Registry W) : Logged Ambiguity (Step W) :=
  (make s.keyword (values.apply s.text) r).bind fun filled =>
    .pure { filled with
      multilines := s.multilines.map (·.map values.apply)
      table := s.table.map (Table.fill values) }

end Step

end Acceptance
