import Acceptance.Text.AsciiFormTable
import Acceptance.Text.Property

/-!
# Reduction to ASCII

`asciiForm` writes a text with the characters that an identifier can be made of, ASCII letters and
digits, underscores, hyphens and spaces, by decomposing every character and dropping whatever does not
decompose into these. Accents disappear, ligatures and wide forms come apart, other scripts vanish.
-/

set_option autoImplicit false

namespace Acceptance.Text

/-- Whether a character is ASCII white space: a space, tab, line feed, form feed or carriage
return. -/
def isAsciiSpace (c : Char) : Bool :=
  c == ' ' || c == '\t' || c == '\n' || c == '\x0c' || c == '\r'

/-- Whether a character survives the reduction as it is. -/
def isAsciiForm (c : Char) : Bool :=
  isAsciiWord c || c == '-' || isAsciiSpace c

/-- The surviving characters of the compatibility decomposition of a character beyond ASCII. -/
def asciiFormBeyond (c : Char) : List Char :=
  let n := c.toNat
  let single := asciiFormRuns.findSome? fun (first, text) =>
    if first ≤ n then text.toList[n - first]? else none
  match single with
  | some a => [a]
  | none =>
    let several := asciiFormWords.findSome? fun (first, texts) =>
      if first ≤ n then texts[n - first]? else none
    match several with
    | some text => text.toList
    | none => []

/-- The surviving characters of the compatibility decomposition of a character. -/
def asciiFormChar (c : Char) : List Char :=
  if isAscii c then (if isAsciiForm c then [c] else [])
  else (asciiFormBeyond c).filter isAsciiForm

/-- A text reduced to ASCII letters, digits, underscores, hyphens and spaces. -/
def asciiForm (cs : List Char) : List Char :=
  cs.flatMap asciiFormChar

end Acceptance.Text
