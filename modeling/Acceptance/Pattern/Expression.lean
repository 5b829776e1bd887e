import Acceptance.Pattern.CharSet

/-!
# Regular expressions

The expressions that patterns denote. Alternatives are ordered, repetitions say whether they prefer to
go on or to stop, and groups that capture are numbered from one. `Expression.repeat` is the way to build
a repetition: it drops what is repeated no time at all, together with its groups, and limits what matches
the empty text only to one turn.
-/

set_option autoImplicit false

namespace Acceptance.Pattern

open Acceptance.Text

/-- A condition on the place between two characters of a text. -/
inductive Anchor where
  | textStart
  | textEnd
  | lineStart
  | lineEnd
  /-- The start of a line, where a carriage return ends lines too. -/
  | returnLineStart
  /-- The end of a line, where a carriage return ends lines too. -/
  | returnLineEnd
  /-- The conditions on words say whether only ASCII characters belong to words. -/
  | wordEdge (asciiOnly : Bool)
  | noWordEdge (asciiOnly : Bool)
  | wordStart (asciiOnly : Bool)
  | wordEnd (asciiOnly : Bool)
  | noWordBefore (asciiOnly : Bool)
  | noWordAfter (asciiOnly : Bool)
  deriving DecidableEq, Repr

/-- The neighbours of a place in a text, none at the ends. -/
structure Place where
  before : Option Char
  after : Option Char
  deriving Repr

/-- Whether a neighbour belongs to a word. -/
def inWord (asciiOnly : Bool) : Option Char → Bool
  | some c => if asciiOnly then isAsciiWord c else isWordChar c
  | none => false

/-- Whether a place meets the condition. -/
def Anchor.holds (place : Place) : Anchor → Bool
  | textStart => place.before.isNone
  | textEnd => place.after.isNone
  | lineStart => place.before.isNone || place.before == some '\n'
  | lineEnd => place.after.isNone || place.after == some '\n'
  | returnLineStart =>
    place.before.isNone || place.before == some '\n' ||
      (place.before == some '\r' && place.after != some '\n')
  | returnLineEnd =>
    place.after.isNone || place.after == some '\r' ||
      (place.after == some '\n' && place.before != some '\r')
  | wordEdge asciiOnly => inWord asciiOnly place.before != inWord asciiOnly place.after
  | noWordEdge asciiOnly => inWord asciiOnly place.before == inWord asciiOnly place.after
  | wordStart asciiOnly => !inWord asciiOnly place.before && inWord asciiOnly place.after
  | wordEnd asciiOnly => inWord asciiOnly place.before && !inWord asciiOnly place.after
  | noWordBefore asciiOnly => !inWord asciiOnly place.before
  | noWordAfter asciiOnly => !inWord asciiOnly place.after

/-- A regular expression. -/
inductive Expression where
  /-- The empty text. -/
  | nothing
  /-- One character of a set. -/
  | one (set : CharSet)
  | anchor (a : Anchor)
  /-- What `body` matches, remembered under a number. -/
  | capture (index : Nat) (body : Expression)
  | sequence (first second : Expression)
  /-- `first`, or where that leads nowhere, `second`. -/
  | choice (first second : Expression)
  /-- `body` at least `least` times and at most `most` times, as often as possible where it is greedy
  and as rarely as possible where it is not. -/
  | repeated (body : Expression) (least : Nat) (most : Option Nat) (greedy : Bool)
  deriving Repr

namespace Expression

/-- The length of the shortest texts that can match. -/
def minLength : Expression → Nat
  | nothing | anchor _ => 0
  | one _ => 1
  | capture _ body => body.minLength
  | sequence first second => first.minLength + second.minLength
  | choice first second => min first.minLength second.minLength
  | repeated body least _ _ => least * body.minLength

/-- Whether only the empty text can match. -/
def matchesOnlyEmpty : Expression → Bool
  | nothing | anchor _ => true
  | one _ => false
  | capture _ body => body.matchesOnlyEmpty
  | sequence first second => first.matchesOnlyEmpty && second.matchesOnlyEmpty
  | choice first second => first.matchesOnlyEmpty && second.matchesOnlyEmpty
  | repeated body _ most _ => most == some 0 || body.matchesOnlyEmpty

/-- The greatest number of a group in the expression, zero without groups. -/
def lastGroup : Expression → Nat
  | nothing | anchor _ | one _ => 0
  | capture index body => max index body.lastGroup
  | sequence first second => max first.lastGroup second.lastGroup
  | choice first second => max first.lastGroup second.lastGroup
  | repeated body _ _ _ => body.lastGroup

/-- About how many bytes an engine takes for the expression, on top of `bytes`. -/
def addBytes (bytes : Nat) : Expression → Nat
  | nothing => bytes
  | one set => bytes + set.bytes
  | anchor _ => bytes + stateBytes
  | capture _ body => body.addBytes (bytes + 2 * stateBytes)
  | sequence first second => second.addBytes (first.addBytes bytes)
  | choice first second => second.addBytes (first.addBytes (bytes + 2 * stateBytes))
  | repeated body least most _ =>
    bytes + (max (least + 1) (most.getD 0)) * body.addBytes (2 * stateBytes)

/-- A repetition. What can only match the empty text is tried once at most, what is repeated no time
is nothing, and what is repeated exactly once is itself. -/
def «repeat» (body : Expression) (least : Nat) (most : Option Nat) (greedy : Bool) : Expression :=
  let (least, most) :=
    if body.matchesOnlyEmpty then
      (min least 1, some (match most with | some m => min m 1 | none => 1))
    else (least, most)
  if least == 0 && most == some 0 then nothing
  else if least == 1 && most == some 1 then body
  else repeated body least most greedy

/-- The members of a list put together from the last one on, `nothing` without members. -/
def joined (combine : Expression → Expression → Expression) (es : List Expression) : Expression :=
  match es.reverse with
  | [] => nothing
  | last :: earlier => earlier.foldl (fun rest e => combine e rest) last

/-- The expressions one after the other. -/
def sequenceOf : List Expression → Expression :=
  joined sequence

/-- The first of the expressions that leads to a match. -/
def choiceOf : List Expression → Expression :=
  joined choice

end Expression

end Acceptance.Pattern
