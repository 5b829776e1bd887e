import Acceptance.Grammar.Basic
import Acceptance.Keyword

/-!
# Lines

How a line is recognised. Each line class with a pattern of its own has a function that gives the parts
of the line that matter, or nothing where the line is of another class. The end of input and the content
of multiline blocks have no pattern, because they depend on more than the line.

A line that comes from a document has no line feed in it. The functions are defined for every text all
the same: what follows a header or a delimiter stays on one line, and only blanks may reach beyond it.
-/

set_option autoImplicit false

namespace Acceptance.Grammar

open Acceptance.Text

/-- Whether a text has no line feed. -/
def onOneLine (cs : List Char) : Bool :=
  !cs.contains '\n'

/-- The text of a comment. -/
def commentParts (cs : List Char) : Option (List (List Char)) :=
  match trimStart cs with
  | '#' :: rest => if onOneLine rest then some [rest] else none
  | _ => none

/-- The text behind a header word. -/
def headerParts (word : List Char) (cs : List Char) : Option (List (List Char)) :=
  match dropStart? word (trimStart cs) with
  | some rest => if onOneLine rest then some [rest] else none
  | none => none

/-- Whether a word is written as a tag: the marker and one character at least. -/
def isTagWord : List Char → Bool
  | '@' :: _ :: _ => true
  | _ => false

/-- The tags of a line, as one part. -/
def tagsParts (cs : List Char) : Option (List (List Char)) :=
  let tags := words cs
  if !tags.isEmpty && tags.all isTagWord then some [trim cs] else none

/-- Whether a text goes on with a character that belongs to words. -/
def startsInWord : List Char → Bool
  | c :: _ => isWordChar c
  | [] => false

/-- The keyword of a step, as it is written, and the text behind it. -/
def stepParts (cs : List Char) : Option (List (List Char)) :=
  let body := trimStart cs
  Keyword.all.findSome? fun k =>
    let width := k.name.toList.length
    let word := body.take width
    let rest := body.drop width
    if sameLetters word k.name.toList && !startsInWord rest && onOneLine rest then some [word, rest]
    else none

/-- The indentation of a multiline delimiter. -/
def delimiterParts (cs : List Char) : Option (List (List Char)) :=
  match dropStart? ['"', '"', '"'] (trimStart cs) with
  | some rest => if rest.all isBlank then some [indentation cs] else none
  | none => none

/-- What stands between the first and the last bar of a table row. -/
def rowParts (cs : List Char) : Option (List (List Char)) :=
  match trim cs with
  | '|' :: rest =>
    if rest.getLast? == some '|' && onOneLine rest.dropLast then some [rest.dropLast] else none
  | _ => none

/-- A line that is not blank, as it is. -/
def textParts (cs : List Char) : Option (List (List Char)) :=
  if onOneLine cs && !cs.all isBlank then some [cs] else none

/-- The pattern of a line class, if it has one. -/
def Matcher.pattern? : Matcher → Option (List Char → Option (List (List Char)))
  | .endOfInput | .multilineContent => none
  | .comment => some commentParts
  | .tags => some tagsParts
  | .feature => some (headerParts "Feature:".toList)
  | .background => some (headerParts "Background:".toList)
  | .scenario => some (headerParts "Scenario:".toList)
  | .outline => some (headerParts "Scenario Outline:".toList)
  | .examples => some (headerParts "Examples:".toList)
  | .step => some stepParts
  | .multilineOpen | .multilineClose => some delimiterParts
  | .tableRow => some rowParts
  | .text => some textParts

/-- The parts of a line by the pattern of a class, nothing where the class has no pattern or the line
is of another class. -/
def Matcher.parts? (m : Matcher) (line : String) : Option (List String) :=
  match m.pattern? with
  | some parts => (parts line.toList).map (·.map String.ofList)
  | none => none

end Acceptance.Grammar
