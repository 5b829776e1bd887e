import Acceptance.Text.Blank
import Acceptance.Text.CaseFold

/-!
# Step keywords

The word that a step begins with. It is read in any ASCII letter case and shown with a capital.
-/

set_option autoImplicit false

namespace Acceptance

/-- The word that begins a step. -/
inductive Keyword where
  | given
  | when
  | «then»
  | and
  | but
  deriving DecidableEq, Repr, Inhabited

/-- A word that is no step keyword, without the blanks around it. -/
structure KeywordFault where
  word : String
  deriving DecidableEq, Repr

/-- What is said about the fault. -/
def KeywordFault.message (fault : KeywordFault) : String :=
  "invalid step keyword: " ++ fault.word

namespace Keyword

/-- All keywords, in the order in which scenarios use them. -/
def all : List Keyword :=
  [given, when, «then», and, but]

/-- The keyword as it is shown. -/
def name : Keyword → String
  | given => "Given"
  | when => "When"
  | «then» => "Then"
  | and => "And"
  | but => "But"

instance : ToString Keyword := ⟨name⟩

/-- The place of a keyword among all of them, from zero. -/
def index : Keyword → Nat
  | given => 0
  | when => 1
  | «then» => 2
  | and => 3
  | but => 4

/-- The keyword that a text spells, up to letter case and the blanks around it. -/
def read (text : String) : Except KeywordFault Keyword :=
  let word := Text.trim text.toList
  match all.find? (fun k => Text.sameLetters word k.name.toList) with
  | some k => .ok k
  | none => .error ⟨String.ofList word⟩

end Keyword

end Acceptance
