import Acceptance.Log
import Acceptance.Pattern
import Acceptance.Step.Callback

/-!
# Step definitions

A registry holds step definitions in the order in which they were made, and the engine that compiles their
patterns. A step is bound to a definition by searching every pattern in the step's keyword and text. One hit
binds the step, none leaves it without definition, and several are an ambiguity that names all of them.
-/

set_option autoImplicit false

namespace Acceptance

/-- A pattern and what steps that match it do. -/
structure Definition (W : Type) where
  pattern : Pattern
  callback : Callback W

/-- A definition that a step is bound to, with what its pattern captured. -/
structure Binding (W : Type) where
  definition : Definition W
  args : List String

/-- A step that several definitions match, with their patterns in the order of the definitions. -/
structure Ambiguity where
  step : String
  patterns : List String
  deriving DecidableEq, Repr

/-- What is said about the ambiguity. -/
def Ambiguity.message (a : Ambiguity) : String :=
  "ambiguous step `" ++ a.step ++ "` matches " ++ ", ".intercalate a.patterns

/-- Step definitions in the order in which they were made, and the engine that compiles patterns. -/
structure Registry (W : Type) where
  engine : Engine
  definitions : List (Definition W)

namespace Registry

variable {W : Type}

/-- The registry without definitions. -/
def empty (engine : Engine := .standard) : Registry W :=
  ⟨engine, []⟩

/-- The number of definitions. -/
def size (r : Registry W) : Nat :=
  r.definitions.length

/-- Whether there are no definitions. -/
def isEmpty (r : Registry W) : Bool :=
  r.definitions.isEmpty

/-- The patterns of the definitions. -/
def patterns (r : Registry W) : List String :=
  r.definitions.map fun d => d.pattern.source

/-- The registry with one more definition. -/
def define (r : Registry W) (source : String) (callback : Callback W) :
    Logged PatternFault (Registry W) :=
  match r.engine.compile source with
  | .error fault => .fail fault
  | .ok pattern =>
    ⟨[⟨.debug, "registered step pattern `" ++ source ++ "`"⟩],
      .ok { r with definitions := r.definitions ++ [⟨pattern, callback⟩] }⟩

/-- A definition that can be made stands behind the others. -/
theorem define_result {r : Registry W} {source : String} {callback : Callback W} {pattern : Pattern}
    (h : r.engine.compile source = .ok pattern) :
    (r.define source callback).result =
      .ok { r with definitions := r.definitions ++ [⟨pattern, callback⟩] } := by
  simp [define, h]

/-- The registry without any of its definitions. -/
def clear (r : Registry W) : Registry W :=
  empty r.engine

/-- What a step's keyword and text are searched as. -/
def subject (keyword : Keyword) (text : String) : String :=
  keyword.name ++ " " ++ text

/-- The bindings of a subject to each definition that matches it. -/
def hits (r : Registry W) (subject : String) : List (Binding W) :=
  r.definitions.filterMap fun d => (d.pattern.search subject).map fun args => ⟨d, args⟩

/-- The binding of a step, if there is just one. -/
def resolve (r : Registry W) (keyword : Keyword) (text : String) :
    Except Ambiguity (Option (Binding W)) :=
  let subject := subject keyword text
  match r.hits subject with
  | [] => .ok none
  | [binding] => .ok (some binding)
  | bindings => .error ⟨subject, bindings.map fun b => b.definition.pattern.source⟩

end Registry

end Acceptance
