/-!
# Blanks, trimming and words

A blank is a character with the Unicode property `White_Space`. Everything that a document lets a
writer space freely (indentation, the ends of titles and cells, the gaps between tags) is spaced by
blanks, so the three operations here, `trim`, `words` and `indentation`, are the only places where
layout disappears.

Lists of characters carry the definitions. The functions on `String` wrap them.
-/

set_option autoImplicit false

namespace Acceptance.Text

/-- Whether a character has the Unicode property `White_Space`. -/
def isBlank (c : Char) : Bool :=
  let n := c.toNat
  (9 ≤ n && n ≤ 13) || n == 0x20 || n == 0x85 || n == 0xA0 || n == 0x1680 ||
    (0x2000 ≤ n && n ≤ 0x200A) || n == 0x2028 || n == 0x2029 || n == 0x202F || n == 0x205F ||
    n == 0x3000

/-- The characters after the leading blanks. -/
def trimStart (cs : List Char) : List Char :=
  cs.dropWhile isBlank

/-- The characters before the trailing blanks. -/
def trimEnd (cs : List Char) : List Char :=
  (cs.reverse.dropWhile isBlank).reverse

/-- The characters between the leading and the trailing blanks. -/
def trim (cs : List Char) : List Char :=
  trimEnd (trimStart cs)

/-- The leading blanks. -/
def indentation (cs : List Char) : List Char :=
  cs.takeWhile isBlank

/-- Cut a list at every element that satisfies `p`: the pieces between the cuts, of which there is
one more than there are cuts. -/
def cutAt {α : Type} (p : α → Bool) : List α → List (List α)
  | [] => [[]]
  | c :: cs =>
    if p c then [] :: cutAt p cs
    else
      match cutAt p cs with
      | [] => [[c]]
      | piece :: pieces => (c :: piece) :: pieces

/-- A text is its indentation and what is left when that is trimmed. -/
theorem indentation_append_trimStart (cs : List Char) : indentation cs ++ trimStart cs = cs :=
  List.takeWhile_append_dropWhile

/-- Cutting is the splitting of the standard library. -/
theorem cutAt_eq_splitOnP {α : Type} (p : α → Bool) (cs : List α) : cutAt p cs = cs.splitOnP p := by
  induction cs with
  | nil => rfl
  | cons c cs ih =>
    rw [cutAt, ih, List.splitOnP_cons_eq_if_modifyHead]
    split
    · rfl
    · cases hsplit : cs.splitOnP p with
      | nil => exact absurd hsplit (List.splitOnP_ne_nil p cs)
      | cons piece pieces => rfl

/-- A list that is cut has one part at least. -/
theorem cutAt_ne_nil {α : Type} (p : α → Bool) (cs : List α) : cutAt p cs ≠ [] := by
  rw [cutAt_eq_splitOnP]
  exact List.splitOnP_ne_nil p cs

/-- No piece has a place to cut at in it. -/
theorem not_of_mem_cutAt {α : Type} {p : α → Bool} {cs piece : List α} (h : piece ∈ cutAt p cs) :
    ∀ c ∈ piece, ¬ p c := by
  induction cs generalizing piece with
  | nil =>
    simp only [cutAt, List.mem_singleton] at h
    simp [h]
  | cons c cs ih =>
    simp only [cutAt] at h
    split at h
    · rcases List.mem_cons.mp h with rfl | h
      · simp
      · exact ih h
    · next hc =>
      split at h
      · simp only [List.mem_singleton] at h
        simp [h, hc]
      · next first rest hcut =>
        rcases List.mem_cons.mp h with rfl | h
        · intro d hd
          rcases List.mem_cons.mp hd with rfl | hd
          · exact hc
          · exact ih (by simp [hcut]) d hd
        · exact ih (by simp [hcut, h])

/-- What is cut is cut before and behind a cut. -/
theorem cutAt_append_of_cut {α : Type} {p : α → Bool} {a : α} (ha : p a = true) (as bs : List α) :
    cutAt p (as ++ a :: bs) = cutAt p as ++ cutAt p bs := by
  simp only [cutAt_eq_splitOnP]
  exact List.splitOnP_append_cons as bs ha

/-- Without a place to cut at there is one piece. -/
theorem cutAt_of_all_not {α : Type} {p : α → Bool} {as : List α} (h : ∀ a ∈ as, p a = false) :
    cutAt p as = [as] := by
  rw [cutAt_eq_splitOnP]
  exact List.splitOnP_eq_singleton h

/-- The maximal runs of characters that are not blank. -/
def words (cs : List Char) : List (List Char) :=
  (cutAt isBlank cs).filter (fun w => !w.isEmpty)

/-- What follows `start` in `cs`, if `cs` begins with it. -/
def dropStart? (start cs : List Char) : Option (List Char) :=
  match start, cs with
  | [], cs => some cs
  | _ :: _, [] => none
  | s :: ss, c :: cs => if s = c then dropStart? ss cs else none

/-- A text without its leading and trailing blanks. -/
def trimmed (s : String) : String :=
  String.ofList (trim s.toList)

/-- Whether a text has no character other than blanks. -/
def isBlankText (s : String) : Bool :=
  s.toList.all isBlank

end Acceptance.Text
