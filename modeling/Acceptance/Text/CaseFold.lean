import Acceptance.Text.CaseFoldTable
import Acceptance.Text.Property

/-!
# Letter case

`caseVariants` gives the characters that differ from a character in case only, by the simple case
folding of the Unicode standard, and `sameLetters` compares texts up to the case of ASCII letters.
-/

set_option autoImplicit false

namespace Acceptance.Text

/-- The code points that one run of pairs joins to `n`. -/
def pairVariants (n : Nat) : Nat × Nat × Nat × Nat → List Nat
  | (first, last, stride, distance) =>
    if first ≤ n && n ≤ last && (n - first) % stride == 0 then [n + distance]
    else if first + distance ≤ n && n ≤ last + distance && (n - distance - first) % stride == 0 then
      [n - distance]
    else []

/-- The characters other than `c` itself with the same simple case folding. -/
def caseVariants (c : Char) : List Char :=
  let n := c.toNat
  let variants :=
    match foldGroups.find? (fun group => group.contains n) with
    | some group => group.filter (fun m => m != n)
    | none => foldPairs.flatMap (pairVariants n)
  variants.map Char.ofNat

/-- The small form of an ASCII letter, and any other character unchanged. -/
def asciiLower (c : Char) : Char :=
  if 'A' ≤ c && c ≤ 'Z' then Char.ofNat (c.toNat + 32) else c

/-- Whether two texts agree up to the case of ASCII letters. -/
def sameLetters (xs ys : List Char) : Bool :=
  xs.map asciiLower == ys.map asciiLower

/-- A text with its ASCII letters in small form. -/
def lowered (s : String) : String :=
  String.ofList (s.toList.map asciiLower)

end Acceptance.Text
