import Acceptance.Pattern.Matcher
import Acceptance.Pattern.Reader

/-!
# Step patterns

A step pattern is a regular expression that is searched, letter case ignored, anywhere inside the text
of a step. Anchors are for the author to write. `Pattern.search` gives the texts of the groups, in the
order of their opening parentheses.

Patterns are compiled by an engine, and so is the matcher that an expression is replaced with. What an
engine takes for a pattern, what its search finds, and for which matchers it has no room is its own matter.
`Engine.standard` is the engine of this library.
-/

set_option autoImplicit false

namespace Acceptance

/-- A pattern that can be searched: its text, and its search. -/
structure Pattern where
  source : String
  /-- The texts of the groups at the leftmost match, nothing where there is no match. A group that took no
  part has the empty text. -/
  search : String → Option (List String)

/-- A text that is no pattern. -/
structure PatternFault where
  source : String
  deriving DecidableEq, Repr

namespace Pattern

/-- Whether there is a match anywhere. -/
def isMatch (p : Pattern) (text : String) : Bool :=
  (p.search text).isSome

end Pattern

/-- Why a matcher cannot be made. -/
inductive MatcherFault where
  /-- The text does not denote an expression. -/
  | invalid
  /-- The engine has no room for it. -/
  | refused (reason : String)
  deriving DecidableEq, Repr

/-- What is said about the fault. -/
def MatcherFault.message : MatcherFault → String
  | invalid => "regex parse error"
  | refused reason => reason

/-- An engine for regular expressions. -/
structure Engine where
  /-- The search of the pattern that a text is, nothing where the engine takes the text for none. -/
  search? : String → Option (String → Option (List String))
  /-- Why the engine has no room for the matcher of a text, nothing where it has. -/
  refusal? : String → Option String

namespace Engine

open Pattern

/-- The pattern written as `source`. -/
def compile (engine : Engine) (source : String) : Except PatternFault Pattern :=
  match engine.search? source with
  | some search => .ok ⟨source, search⟩
  | none => .error ⟨source⟩

/-- A pattern keeps the text that it was written as. -/
theorem source_of_compile {engine : Engine} {source : String} {p : Pattern}
    (h : engine.compile source = .ok p) : p.source = source := by
  unfold compile at h
  split at h
  · cases h
    rfl
  · cases h

/-- The matcher of the expression written as `source`, letter case minded. -/
def matcher (engine : Engine) (source : String) : Except MatcherFault Matcher :=
  match readExpression {} source with
  | none => .error .invalid
  | some e =>
    match engine.refusal? source with
    | some reason => .error (.refused reason)
    | none => .ok (.ofExpression e)

/-- The greatest size of a compiled expression in bytes. -/
def sizeLimit : Nat := 10485760

/-- Whether the standard engine has room for an expression. -/
def hasRoom (e : Expression) : Bool :=
  e.addBytes 0 ≤ sizeLimit

/-- The texts of the groups at the leftmost match of a program. -/
def searchBy (program : Array Instruction) (groups : Nat) (text : String) : Option (List String) :=
  let cs := text.toList
  (run program none 0 [] none cs).map fun marks =>
    (List.range groups).map fun i => groupText cs marks (i + 1)

/-- The engine that runs the matching machine, for expressions up to a size. -/
def standard : Engine where
  search? source :=
    match readExpression { ignoreCase := true } source with
    | some e => if hasRoom e then some (searchBy e.program e.lastGroup) else none
    | none => none
  refusal? source :=
    match readExpression {} source with
    | some e =>
      if hasRoom e then none
      else some ("Compiled regex exceeds size limit of " ++ toString sizeLimit ++ " bytes.")
    | none => none

end Engine

end Acceptance
