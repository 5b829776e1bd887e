import Acceptance.Text.Blank
import Acceptance.Text.CaseFold
import Acceptance.Text.ScriptTable

/-!
# Sets of characters

What a pattern may ask of one character: a range, a property of the Unicode standard, and any
combination of these by the operations on sets. A set is kept as it was written, and `contains` gives
its meaning.
-/

set_option autoImplicit false

namespace Acceptance.Pattern

open Acceptance.Text

/-- A property of characters that patterns can name. -/
inductive Property where
  | digit
  | blank
  | word
  | alphabetic
  | lowercase
  | uppercase
  | joinControl
  | graphemeExtender
  | hexDigit
  | asciiHexDigit
  | emoji
  | noncharacter
  | ascii
  | assigned
  /-- Every character. -/
  | any
  /-- The general categories listed. -/
  | category (among : List Category)
  /-- The script at a place of the table of scripts. -/
  | script (index : Nat)
  deriving Repr

/-- Whether a character is a hexadecimal digit in ASCII. -/
def isAsciiHexDigit (c : Char) : Bool :=
  isAsciiDigit c || ('a' ≤ c && c ≤ 'f') || ('A' ≤ c && c ≤ 'F')

/-- Whether a character is a hexadecimal digit, of normal or full width. -/
def isHexDigit (c : Char) : Bool :=
  isAsciiHexDigit c || inRanges [(0xFF10, 0xFF19), (0xFF21, 0xFF26), (0xFF41, 0xFF46)] c.toNat

/-- Whether a code point is reserved and never a character of text. -/
def isNoncharacter (c : Char) : Bool :=
  let n := c.toNat
  (0xFDD0 ≤ n && n ≤ 0xFDEF) || n % 0x10000 == 0xFFFE || n % 0x10000 == 0xFFFF

/-- Whether a character has the property. -/
def Property.holds : Property → Char → Bool
  | digit, c => isDigit c
  | blank, c => isBlank c
  | word, c => isWordChar c
  | alphabetic, c => isAlphabetic c
  | lowercase, c => isLowercase c
  | uppercase, c => isUppercase c
  | joinControl, c => isJoinControl c
  | graphemeExtender, c => isGraphemeExtender c
  | hexDigit, c => isHexDigit c
  | asciiHexDigit, c => isAsciiHexDigit c
  | emoji, c => inRanges emojiRanges c.toNat
  | noncharacter, c => isNoncharacter c
  | ascii, c => isAscii c
  | assigned, c => generalCategory c != .cn
  | any, _ => true
  | category among, c => among.contains (generalCategory c)
  | script index, c =>
    match scripts[index]? with
    | some (_, ranges) => inRanges ranges c.toNat
    | none => false

/-- About how many bytes an engine takes for a state that reads one byte. -/
def stateBytes : Nat := 32

/-- About how many bytes an engine takes to read one character of a property. Most properties hold in many
ranges of characters, each of them a few states. -/
def Property.bytes : Property → Nat
  | any | ascii | asciiHexDigit | hexDigit | joinControl | noncharacter | blank => 20 * stateBytes
  | digit | emoji | script _ => 200 * stateBytes
  | _ => 1500 * stateBytes

/-- A set of characters, as it is written in a pattern. -/
inductive CharSet where
  | empty
  | range (first last : Char)
  | property (p : Property)
  | union (left right : CharSet)
  | inter (left right : CharSet)
  | diff (left right : CharSet)
  /-- What is in one of the two sets and not in both. -/
  | symmDiff (left right : CharSet)
  | compl (set : CharSet)
  /-- The set with everything that differs from a member in letter case only. -/
  | folded (set : CharSet)
  /-- The set with everything that differs from a member in the case of an ASCII letter only. -/
  | asciiFolded (set : CharSet)
  deriving Repr

namespace CharSet

/-- The set of one character. -/
def single (c : Char) : CharSet :=
  range c c

/-- The ASCII letter of the other case, if the character is an ASCII letter. -/
def asciiCounterpart? (c : Char) : Option Char :=
  if 'a' ≤ c && c ≤ 'z' then some (Char.ofNat (c.toNat - 32))
  else if 'A' ≤ c && c ≤ 'Z' then some (Char.ofNat (c.toNat + 32))
  else none

/-- Membership. -/
def contains : CharSet → Char → Bool
  | empty, _ => false
  | range first last, c => first ≤ c && c ≤ last
  | property p, c => p.holds c
  | union left right, c => left.contains c || right.contains c
  | inter left right, c => left.contains c && right.contains c
  | diff left right, c => left.contains c && !right.contains c
  | symmDiff left right, c => left.contains c != right.contains c
  | compl set, c => !set.contains c
  | folded set, c => set.contains c || (caseVariants c).any set.contains
  | asciiFolded set, c =>
    set.contains c || (match asciiCounterpart? c with | some d => set.contains d | none => false)

/-- About how many bytes an engine takes to read one character of a set. -/
def bytes : CharSet → Nat
  | empty => stateBytes
  | range _ last => last.utf8Size * stateBytes
  | property p => p.bytes
  | union left right | inter left right | diff left right | symmDiff left right => left.bytes + right.bytes
  | compl set => set.bytes + 8 * stateBytes
  | folded set | asciiFolded set => 2 * set.bytes

end CharSet

/-- The bracketed names of ASCII classes, with the sets that they stand for. -/
def asciiClasses : List (String × CharSet) :=
  let lower := CharSet.range 'a' 'z'
  let upper := CharSet.range 'A' 'Z'
  let digit := CharSet.range '0' '9'
  let alpha := upper.union lower
  let blanks := (CharSet.single '\t').union (CharSet.single ' ')
  let punctuation :=
    (CharSet.range '!' '/').union ((CharSet.range ':' '@').union
      ((CharSet.range '[' (Char.ofNat 0x60)).union (CharSet.range '\x7b' '~')))
  [("alnum", digit.union alpha), ("alpha", alpha), ("ascii", .range '\x00' '\x7f'),
    ("blank", blanks), ("cntrl", (CharSet.range '\x00' '\x1f').union (.single '\x7f')),
    ("digit", digit), ("graph", .range '!' '~'), ("lower", lower), ("print", .range ' ' '~'),
    ("punct", punctuation), ("space", (CharSet.range '\t' '\r').union (.single ' ')),
    ("upper", upper), ("word", (digit.union alpha).union (.single '_')),
    ("xdigit", digit.union ((CharSet.range 'A' 'F').union (.range 'a' 'f')))]

/-- The general categories, each with the names that patterns know it by. -/
def categoryNames : List (List String × List Category) :=
  [(["l", "letter"], [.lu, .ll, .lt, .lm, .lo]), (["lu", "uppercaseletter"], [.lu]),
    (["ll", "lowercaseletter"], [.ll]), (["lt", "titlecaseletter"], [.lt]),
    (["lc", "casedletter"], [.lu, .ll, .lt]), (["lm", "modifierletter"], [.lm]),
    (["lo", "otherletter"], [.lo]), (["m", "mark", "combiningmark"], [.mn, .mc, .me]),
    (["mn", "nonspacingmark"], [.mn]), (["mc", "spacingmark"], [.mc]),
    (["me", "enclosingmark"], [.me]), (["n", "number"], [.nd, .nl, .no]),
    (["nd", "decimalnumber", "digit"], [.nd]), (["nl", "letternumber"], [.nl]),
    (["no", "othernumber"], [.no]),
    (["p", "punctuation", "punct"], [.pc, .pd, .ps, .pe, .pi, .pf, .po]),
    (["pc", "connectorpunctuation"], [.pc]), (["pd", "dashpunctuation"], [.pd]),
    (["ps", "openpunctuation"], [.ps]), (["pe", "closepunctuation"], [.pe]),
    (["pi", "initialpunctuation"], [.pi]), (["pf", "finalpunctuation"], [.pf]),
    (["po", "otherpunctuation"], [.po]), (["s", "symbol"], [.sm, .sc, .sk, .so]),
    (["sm", "mathsymbol"], [.sm]), (["sc", "currencysymbol"], [.sc]),
    (["sk", "modifiersymbol"], [.sk]), (["so", "othersymbol"], [.so]),
    (["z", "separator"], [.zs, .zl, .zp]), (["zs", "spaceseparator"], [.zs]),
    (["zl", "lineseparator"], [.zl]), (["zp", "paragraphseparator"], [.zp]),
    (["c", "other"], [.cc, .cf, .co, .cn]), (["cc", "control", "cntrl"], [.cc]),
    (["cf", "format"], [.cf]), (["co", "privateuse"], [.co]), (["cn", "unassigned"], [.cn])]

/-- The properties that a character has or has not, each with the names that patterns know it by. -/
def propertyNames : List (List String × Property) :=
  [(["alphabetic", "alpha"], .alphabetic), (["lowercase", "lower"], .lowercase),
    (["uppercase", "upper"], .uppercase), (["whitespace", "wspace", "space"], .blank),
    (["joincontrol", "joinc"], .joinControl), (["graphemeextend", "grext"], .graphemeExtender),
    (["hexdigit", "hex"], .hexDigit), (["asciihexdigit", "ahex"], .asciiHexDigit),
    (["emoji"], .emoji), (["noncharactercodepoint", "nchar"], .noncharacter)]

/-- A name as properties are compared by: in small letters, without blanks, hyphens and underscores,
and without a leading `is`. Characters beyond ASCII do not count. -/
def looseName (name : List Char) : String :=
  let letters (cs : List Char) : List Char :=
    (cs.filter (fun c => isAscii c && !(c == ' ' || c == '_' || c == '-'))).map asciiLower
  match name with
  | a :: b :: rest =>
    if asciiLower a == 'i' && asciiLower b == 's' then
      -- the name `isc` is a name of its own and no `c` with `is` before it
      if letters rest == ['c'] then "isc" else String.ofList (letters rest)
    else String.ofList (letters name)
  | _ => String.ofList (letters name)

/-- The general category with the given name. -/
def categoryNamed? (name : String) : Option Property :=
  if name == "any" then some .any
  else if name == "assigned" then some .assigned
  else if name == "ascii" then some .ascii
  else (categoryNames.find? (fun e => e.1.contains name)).map (fun e => .category e.2)

/-- The script with the given name. -/
def scriptNamed? (name : String) : Option Property :=
  (scripts.findIdx? (fun e => e.1.contains name)).map .script

/-- The property with the given name: a property of its own, a general category, or a script, in this
order. -/
def propertyNamed? (name : List Char) : Option Property :=
  let loose := looseName name
  (propertyNames.find? (fun e => e.1.contains loose)).map (·.2)
    |>.or (categoryNamed? loose)
    |>.or (scriptNamed? loose)

/-- The property given by the name of a group of properties and a name within it. -/
def propertyIn? (group name : List Char) : Option Property :=
  let loose := looseName group
  if loose == "gc" || loose == "generalcategory" then categoryNamed? (looseName name)
  else if loose == "sc" || loose == "script" then scriptNamed? (looseName name)
  else none

end Acceptance.Pattern
