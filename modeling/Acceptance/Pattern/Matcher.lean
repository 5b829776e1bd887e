import Acceptance.Pattern.Program
import Acceptance.Pattern.Search

/-!
# Matchers

A matcher finds where an expression matches in a text, and replaces what it matches. The whole of a match is
marked like a group, with the number zero.
-/

set_option autoImplicit false

namespace Acceptance.Pattern

/-- An expression that is ready to be found in texts. -/
structure Matcher where
  program : Array Instruction
  deriving Repr

namespace Matcher

/-- The matcher of an expression. -/
def ofExpression (e : Expression) : Matcher :=
  ⟨(Expression.capture 0 e).program⟩

/-- Where the leftmost match begins and ends in a text that stands behind the character `before`. -/
def find? (m : Matcher) (before : Option Char) (text : List Char) : Option (Nat × Nat) := do
  let marks ← run m.program before 0 [] none text
  let first ← marks.lookup 0
  let last ← marks.lookup 1
  return (first, last)

/-- Replace the matches in a text one after the other. `behind` says that the text begins where a match has
ended: there the empty text is no match, and the search goes on one character further. Every turn reads a
character at least, or ends a match, so twice the length of the text and two is fuel enough. -/
def replaceFrom (m : Matcher) (replacement : String → String) :
    Nat → Option Char → Bool → List Char → List Char
  | 0, _, _, text => text
  | fuel + 1, before, behind, text =>
    match m.find? before text with
    | none => text
    | some (first, last) =>
      if behind && last == 0 then
        match text with
        | [] => []
        | c :: rest => c :: m.replaceFrom replacement fuel (some c) false rest
      else
        let read := text.take last
        text.take first ++ (replacement (String.ofList (read.drop first))).toList ++
          m.replaceFrom replacement fuel (read.getLast?.or before) true (text.drop last)

/-- The text with every match replaced, from left to right. What has been put in is not searched again. -/
def replaceAll (m : Matcher) (replacement : String → String) (text : String) : String :=
  let cs := text.toList
  String.ofList (m.replaceFrom replacement (2 * cs.length + 2) none false cs)

end Matcher

end Acceptance.Pattern
