import Acceptance.Pattern

/-!
# Placeholders and their substitution

The column keys of an examples table name the placeholders of an outline. A key that is already
bracketed stands for itself; any other is put between angle brackets.

A `Substitution` replaces placeholders in one pass from left to right: it searches for any of its keys,
the longer ones preferred, puts the value of the key in, and does not read again what was put in. A key
given twice has the value given last; the empty key is no placeholder. The keys are searched as one
regular expression, and a substitution cannot be built where the engine has no room for that.
-/

set_option autoImplicit false

namespace Acceptance

/-- The pairs of brackets that mark a key as a placeholder. -/
def bracketPairs : List (Char × Char) :=
  [('<', '>'), ('[', ']'), ('\x7b', '\x7d'), ('(', ')')]

/-- Whether a key begins and ends with matching brackets. -/
def isBracketed (key : List Char) : Bool :=
  match key with
  | [] => false
  | first :: rest =>
    match rest.getLast? with
    | some last => bracketPairs.contains (first, last)
    | none => false

/-- The placeholder that a column key stands for. -/
def outlineKey (key : String) : String :=
  if isBracketed key.toList then key else "<" ++ key ++ ">"

/-- The characters that have a meaning of their own in a regular expression. -/
def metaCharacters : List Char :=
  ['\\', '.', '+', '*', '?', '(', ')', '|', '[', ']', '\x7b', '\x7d', '^', '$', '#', '&', '-', '~']

/-- The text of a regular expression that matches the characters and nothing else. -/
def escape (cs : List Char) : List Char :=
  cs.flatMap fun c => if metaCharacters.contains c then ['\\', c] else [c]

/-- The text of a regular expression that matches any of the keys, the first ones preferred. -/
def alternation (keys : List String) : String :=
  String.ofList (['|'].intercalate (keys.map fun key => escape key.toList))

/-- Why a substitution cannot be built. -/
structure SubstitutionFault where
  cause : MatcherFault
  deriving DecidableEq, Repr

/-- What is said about the fault. -/
def SubstitutionFault.message (fault : SubstitutionFault) : String :=
  "cannot build placeholder substitution: " ++ fault.cause.message

/-- The values of placeholders, the latest first, and the matcher of their keys, if there are any. -/
structure Substitution where
  matcher : Option Pattern.Matcher
  values : List (String × String)

namespace Substitution

/-- Whether a key stands in front of another one: if it has more bytes, or as many and comes first. -/
def precedes (key other : String) : Bool :=
  other.utf8ByteSize < key.utf8ByteSize ||
    (key.utf8ByteSize == other.utf8ByteSize && decide (key.toList < other.toList))

/-- Put a key at its place, unless it is there already. -/
def insertKey (key : String) : List String → List String
  | [] => [key]
  | other :: keys =>
    if key = other then other :: keys
    else if precedes key other then key :: other :: keys
    else other :: insertKey key keys

/-- The pairs that count, the latest first. The empty key is no placeholder. -/
def kept (pairs : List (String × String)) : List (String × String) :=
  (pairs.filter fun pair => !pair.1.isEmpty).reverse

/-- The keys of pairs, each of them once and the longest first. -/
def keys (pairs : List (String × String)) : List String :=
  pairs.foldr (fun pair keys => insertKey pair.1 keys) []

/-- The substitution of the given pairs. -/
def build (engine : Engine) (pairs : List (String × String)) : Except SubstitutionFault Substitution :=
  let values := kept pairs
  match keys values with
  | [] => .ok ⟨none, values⟩
  | keys =>
    match engine.matcher (alternation keys) with
    | .ok matcher => .ok ⟨some matcher, values⟩
    | .error fault => .error ⟨fault⟩

/-- Whether there is nothing to replace. -/
def isEmpty (s : Substitution) : Bool :=
  s.values.isEmpty

/-- The text with every placeholder replaced. -/
def apply (s : Substitution) (text : String) : String :=
  match s.matcher with
  | none => text
  | some matcher => matcher.replaceAll (fun found => (s.values.lookup found).getD found) text

end Substitution

end Acceptance
