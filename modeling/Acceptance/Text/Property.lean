import Acceptance.Text.CategoryTable
import Acceptance.Text.PropertyTable

/-!
# Properties of characters

The properties that patterns and messages ask about: digits, word characters, letters, and what may
be shown as it is. Each is answered at once for ASCII, and from the table of general categories
beyond it.
-/

set_option autoImplicit false

namespace Acceptance.Text

/-- Whether a character is an ASCII letter. -/
def isAsciiLetter (c : Char) : Bool :=
  ('a' ≤ c && c ≤ 'z') || ('A' ≤ c && c ≤ 'Z')

/-- Whether a character is one of the digits `0` to `9`. -/
def isAsciiDigit (c : Char) : Bool :=
  '0' ≤ c && c ≤ '9'

/-- Whether a character may stand inside an ASCII identifier. -/
def isAsciiWord (c : Char) : Bool :=
  isAsciiLetter c || isAsciiDigit c || c == '_'

/-- Whether a character is an ASCII one. -/
def isAscii (c : Char) : Bool :=
  c.toNat < 0x80

/-- Whether a character is a decimal digit of any script. -/
def isDigit (c : Char) : Bool :=
  if isAscii c then isAsciiDigit c else generalCategory c == .nd

/-- Whether a character is alphabetic: a letter, a letter number, or one that the standard adds. -/
def isAlphabetic (c : Char) : Bool :=
  if isAscii c then isAsciiLetter c
  else
    let g := generalCategory c
    g.isLetter || g == .nl || inRanges otherAlphabetic c.toNat

/-- Whether a character is alphabetic or a number of any kind. -/
def isAlphanumeric (c : Char) : Bool :=
  isAlphabetic c || (generalCategory c).isNumber

/-- Whether a character has the property `Lowercase`. -/
def isLowercase (c : Char) : Bool :=
  generalCategory c == .ll || inRanges otherLowercase c.toNat

/-- Whether a character has the property `Uppercase`. -/
def isUppercase (c : Char) : Bool :=
  generalCategory c == .lu || inRanges otherUppercase c.toNat

/-- Whether a character joins its neighbours without being seen. -/
def isJoinControl (c : Char) : Bool :=
  c.toNat == 0x200C || c.toNat == 0x200D

/-- Whether a character belongs to words: alphabetic characters, marks, decimal digits, connector
punctuation and the two join controls. -/
def isWordChar (c : Char) : Bool :=
  if isAscii c then isAsciiWord c
  else
    let g := generalCategory c
    g.isLetter || g.isMark || g == .nl || g == .nd || g == .pc || isJoinControl c ||
      inRanges otherAlphabetic c.toNat

/-- Whether a character only extends the one before it. -/
def isGraphemeExtender (c : Char) : Bool :=
  if isAscii c then false
  else
    let g := generalCategory c
    g == .mn || g == .me || inRanges otherGraphemeExtend c.toNat

/-- Whether a character can be shown as it is: it is no separator other than the space, and it stands
for a character of text. -/
def isPrintable (c : Char) : Bool :=
  if isAscii c then 0x20 ≤ c.toNat && c.toNat < 0x7F
  else
    let g := generalCategory c
    !g.isSeparator && !g.isOther

end Acceptance.Text
