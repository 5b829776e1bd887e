import Acceptance.Tag.Set
import Acceptance.Text.Blank

/-!
# Tag expressions

An expression selects test cases by their tags. It is a list of clauses that must all hold; a clause is a
list of alternatives with commas between them, of which one must hold; an alternative asks for a tag,
`@name`, or for its absence, `~@name`. Several expressions combine into one by putting their clauses
together, and the expression without clauses selects everything.

A fault carries the byte at which it was found, counted in UTF-8 from the beginning of the expression.
-/

set_option autoImplicit false

namespace Acceptance

namespace Text

/-- The number of bytes of a text in UTF-8. -/
def byteLength : List Char → Nat
  | [] => 0
  | c :: cs => c.utf8Size + byteLength cs

end Text

/-- One alternative of a clause. -/
inductive TagTerm where
  | tag (name : String)
  | absent (name : String)
  deriving DecidableEq, Repr

namespace TagTerm

/-- Whether a set of tags has what the term asks for. -/
def holds (tags : TagSet) : TagTerm → Bool
  | tag name => tags.contains name
  | absent name => !tags.contains name

/-- The term as it is written. -/
def display : TagTerm → String
  | tag name => "@" ++ name
  | absent name => "~@" ++ name

end TagTerm

/-- What can be wrong with an alternative. -/
inductive TagFaultReason where
  | expectedTag
  | missingMarker
  | emptyName
  | unexpectedCharacter
  deriving DecidableEq, Repr

/-- What is said about it. -/
def TagFaultReason.message : TagFaultReason → String
  | expectedTag => "expected a tag"
  | missingMarker => "expected `@` before tag name"
  | emptyName => "empty tag name"
  | unexpectedCharacter => "unexpected character in tag name"

/-- A text that is no tag expression: the byte where that shows, and why. -/
structure TagFault where
  offset : Nat
  reason : TagFaultReason
  deriving DecidableEq, Repr

/-- What is said about the fault. -/
def TagFault.message (fault : TagFault) : String :=
  "invalid tag expression at byte " ++ toString fault.offset ++ ": " ++ fault.reason.message

/-- Whether a character can stand in the name of a tag. -/
def isTagNameChar (c : Char) : Bool :=
  !Text.isBlank c && c != '@' && c != '~'

/-- The name behind the marker, which ends at byte `offset`. -/
def readTagName (offset : Nat) (name : List Char) : Except TagFault String :=
  if name.isEmpty then .error ⟨offset, .emptyName⟩
  else if name.all isTagNameChar then .ok (String.ofList name)
  else .error ⟨offset + Text.byteLength (name.takeWhile isTagNameChar), .unexpectedCharacter⟩

/-- The alternative that stands at byte `offset`, with any blanks around it. -/
def readTagTerm (offset : Nat) (raw : List Char) : Except TagFault TagTerm :=
  let start := offset + Text.byteLength (Text.indentation raw)
  match Text.trim raw with
  | [] => .error ⟨start, .expectedTag⟩
  | '@' :: name => (readTagName (start + 1) name).map .tag
  | '~' :: '@' :: name => (readTagName (start + 2) name).map .absent
  | '~' :: _ => .error ⟨start + 1, .missingMarker⟩
  | _ => .error ⟨start, .missingMarker⟩

/-- The alternatives of a clause, the first of which stands at byte `offset`. -/
def readTagTerms (offset : Nat) : List (List Char) → Except TagFault (List TagTerm)
  | [] => .ok []
  | raw :: rest =>
    match readTagTerm offset raw with
    | .error fault => .error fault
    | .ok term =>
      match readTagTerms (offset + Text.byteLength raw + 1) rest with
      | .error fault => .error fault
      | .ok terms => .ok (term :: terms)

/-- A conjunction of clauses, each a list of alternatives. -/
structure TagExpression where
  clauses : List (List TagTerm)
  deriving DecidableEq, Repr

namespace TagExpression

/-- The expression that selects everything. -/
def everything : TagExpression :=
  ⟨[]⟩

/-- The expression written as `input`: one clause. -/
def parse (input : String) : Except TagFault TagExpression :=
  (readTagTerms 0 (Text.cutAt (· == ',') input.toList)).map fun terms => ⟨[terms]⟩

/-- Both expressions. -/
def and (e other : TagExpression) : TagExpression :=
  ⟨e.clauses ++ other.clauses⟩

/-- All of the expressions written as `inputs`, or the first fault. -/
def all : List String → Except TagFault TagExpression
  | [] => .ok everything
  | input :: inputs =>
    match parse input with
    | .error fault => .error fault
    | .ok e =>
      match all inputs with
      | .error fault => .error fault
      | .ok others => .ok (e.and others)

/-- Whether the expression selects what is tagged with `tags`. -/
def holds (e : TagExpression) (tags : TagSet) : Bool :=
  e.clauses.all (fun clause => clause.any (fun term => term.holds tags))

/-- The expression as it is written: clauses with spaces between them, alternatives with commas. -/
def display (e : TagExpression) : String :=
  " ".intercalate (e.clauses.map fun clause => ",".intercalate (clause.map TagTerm.display))

end TagExpression

end Acceptance
