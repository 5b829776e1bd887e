import Acceptance.Document.Line
import Acceptance.Document.Source

/-!
# Line classes

A line is blank, or of the class of the one pattern that accepts it, or of no such class. The patterns
exclude each other because what they accept begins differently behind the indentation: every pattern has
its leads (`Matcher.leads`, in small letters), and no lead of one pattern begins a lead of another.
-/

set_option autoImplicit false

namespace Acceptance

namespace Text

/-- The first word of a text begins where the blanks end. -/
theorem words_of_trimStart {cs more : List Char} {c : Char} (h : trimStart cs = c :: more) :
    ∃ piece rest, words cs = (c :: piece) :: rest := by
  induction cs with
  | nil => cases h
  | cons d cs ih =>
    rw [trimStart, List.dropWhile_cons] at h
    unfold words cutAt
    by_cases hd : isBlank d = true
    · rw [if_pos hd] at h ⊢
      obtain ⟨piece, rest, hwords⟩ := ih h
      exact ⟨piece, rest, by rw [List.filter_cons_of_neg (by simp)]; exact hwords⟩
    · rw [if_neg hd] at h ⊢
      obtain ⟨rfl, rfl⟩ := List.cons.inj h
      cases hcut : cutAt isBlank cs with
      | nil => exact absurd hcut (cutAt_ne_nil isBlank cs)
      | cons piece pieces => exact ⟨piece, _, List.filter_cons_of_pos (by simp)⟩

/-- A text that has blanks only has no words. -/
theorem words_eq_nil_of_trimStart {cs : List Char} (h : trimStart cs = []) : words cs = [] := by
  induction cs with
  | nil => rfl
  | cons d cs ih =>
    rw [trimStart, List.dropWhile_cons] at h
    by_cases hd : isBlank d = true
    · rw [if_pos hd] at h
      unfold words cutAt
      rw [if_pos hd, List.filter_cons_of_neg (by simp)]
      exact ih h
    · rw [if_neg hd] at h
      cases h

/-- Dropping the blanks at the end leaves a beginning of the text. -/
theorem trimEnd_isPrefix (cs : List Char) : trimEnd cs <+: cs := by
  rw [trimEnd, ← List.reverse_suffix, List.reverse_reverse]
  exact List.dropWhile_suffix isBlank

/-- A text without its beginning, behind that beginning, is the text. -/
theorem eq_append_of_dropStart? {start cs rest : List Char} (h : dropStart? start cs = some rest) :
    cs = start ++ rest := by
  induction start generalizing cs with
  | nil => exact Option.some.inj h
  | cons s start ih =>
    cases cs with
    | nil => cases h
    | cons c cs =>
      unfold dropStart? at h
      split at h
      · next hs => rw [ih h, hs, List.cons_append]
      · cases h

/-- Nothing is left without the leading blanks just where there are blanks only. -/
theorem trimStart_eq_nil_iff {cs : List Char} : trimStart cs = [] ↔ cs.all isBlank = true := by
  induction cs with
  | nil => simp [trimStart]
  | cons c cs ih =>
    rw [trimStart] at ih ⊢
    by_cases hc : isBlank c = true
    · rw [List.dropWhile_cons_of_pos hc, List.all_cons, hc, Bool.true_and, ih]
    · rw [List.dropWhile_cons_of_neg hc, List.all_cons]
      simp [hc]

end Text

namespace Grammar

open Acceptance.Text

/-- What a line is, as far as the grammar is concerned. -/
inductive LineClass where
  | blank
  | comment
  | tags
  | feature
  | background
  | scenario
  | outline
  | examples
  | step
  /-- The delimiter of a multiline block. -/
  | delimiter
  | tableRow
  /-- Any other line. -/
  | other
  deriving DecidableEq, Repr

/-- The class of the lines that a pattern of its own accepts. -/
def Matcher.lineClass? : Matcher → Option LineClass
  | .comment => some .comment
  | .tags => some .tags
  | .feature => some .feature
  | .background => some .background
  | .scenario => some .scenario
  | .outline => some .outline
  | .examples => some .examples
  | .step => some .step
  | .multilineOpen => some .delimiter
  | .tableRow => some .tableRow
  | .endOfInput | .multilineClose | .multilineContent | .text => none

/-- The class of a line. -/
def LineClass.ofLine (line : String) : LineClass :=
  if isBlankText line then .blank
  else
    match Matcher.all.find? fun m => m.lineClass?.isSome && (m.parts? line).isSome with
    | some m => m.lineClass?.getD .other
    | none => .other

/-- What the lines of a class begin with behind the indentation, in small letters. -/
def Matcher.leads : Matcher → List (List Char)
  | .comment => ["#".toList]
  | .tags => ["@".toList]
  | .feature => ["feature:".toList]
  | .background => ["background:".toList]
  | .scenario => ["scenario:".toList]
  | .outline => ["scenario outline:".toList]
  | .examples => ["examples:".toList]
  | .step => ["given".toList, "when".toList, "then".toList, "and".toList, "but".toList]
  | .multilineOpen => ["\"\"\"".toList]
  | .tableRow => ["|".toList]
  | .endOfInput | .multilineClose | .multilineContent | .text => []

/-- **No lead begins another**, but itself. -/
theorem Matcher.eq_of_isPrefix : ∀ m m' : Matcher, ∀ lead ∈ m.leads, ∀ lead' ∈ m'.leads,
    lead <+: lead' → m = m' := by
  intro m m'
  cases m <;> cases m' <;> decide

/-- A header begins with its word, letter case ignored. -/
theorem lead_of_headerParts (word : List Char) {cs : List Char}
    (h : (headerParts word cs).isSome = true) :
    word.map asciiLower <+: (trimStart cs).map asciiLower := by
  unfold headerParts at h
  split at h
  · next rest hrest =>
    rw [eq_append_of_dropStart? hrest, List.map_append]
    exact List.prefix_append _ _
  · cases h

/-- A step begins with a keyword, letter case ignored. -/
theorem lead_of_stepParts {cs : List Char} (h : (stepParts cs).isSome = true) :
    ∃ lead ∈ Matcher.step.leads, lead <+: (trimStart cs).map asciiLower := by
  obtain ⟨parts, hparts⟩ := Option.isSome_iff_exists.mp h
  unfold stepParts at hparts
  obtain ⟨k, -, hk⟩ := List.exists_of_findSome?_eq_some hparts
  dsimp only at hk
  split at hk
  · next hword =>
    simp only [Bool.and_eq_true] at hword
    have hletters := hword.1.1
    unfold sameLetters at hletters
    have hmap := eq_of_beq hletters
    refine ⟨k.name.toList.map asciiLower, ?_, ?_⟩
    · cases k <;> decide
    · rw [← hmap]
      exact List.IsPrefix.map asciiLower (List.take_prefix _ _)
  · cases hk

/-- What a pattern accepts begins with what it looks for first. -/
theorem lead_of_commentParts {cs : List Char} (h : (commentParts cs).isSome = true) :
    ['#'] <+: trimStart cs := by
  unfold commentParts at h
  split at h
  · next rest hrest =>
    rw [hrest]
    exact List.prefix_append ['#'] rest
  · cases h

/-- A line of tags begins with their mark. -/
theorem lead_of_tagsParts {cs : List Char} (h : (tagsParts cs).isSome = true) :
    ['@'] <+: trimStart cs := by
  unfold tagsParts at h
  dsimp only at h
  split at h
  · next htags =>
    simp only [Bool.and_eq_true, Bool.not_eq_true', List.isEmpty_eq_false_iff, List.all_eq_true]
      at htags
    cases hstart : trimStart cs with
    | nil => exact absurd (words_eq_nil_of_trimStart hstart) htags.1
    | cons c more =>
      obtain ⟨piece, rest, hwords⟩ := words_of_trimStart hstart
      have htag : isTagWord (c :: piece) = true := htags.2 _ (by simp [hwords])
      unfold isTagWord at htag
      split at htag
      · next hword =>
        rw [(List.cons.inj hword).1]
        exact List.prefix_append ['@'] more
      · cases htag
  · cases h

/-- A delimiter begins with three quotation marks. -/
theorem lead_of_delimiterParts {cs : List Char} (h : (delimiterParts cs).isSome = true) :
    ['"', '"', '"'] <+: trimStart cs := by
  unfold delimiterParts at h
  split at h
  · next rest hrest =>
    rw [eq_append_of_dropStart? hrest]
    exact List.prefix_append _ _
  · cases h

/-- A table row begins with a bar. -/
theorem lead_of_rowParts {cs : List Char} (h : (rowParts cs).isSome = true) :
    ['|'] <+: trimStart cs := by
  unfold rowParts at h
  split at h
  · next rest hrest =>
    have htrim : '|' :: rest <+: trimStart cs := by
      rw [← hrest]
      exact trimEnd_isPrefix (trimStart cs)
    exact (List.prefix_append ['|'] rest).trans htrim
  · cases h

/-- A matcher with a pattern takes only lines that the pattern takes. -/
theorem Matcher.isSome_of_pattern? {m : Matcher} {f : List Char → Option (List (List Char))}
    {line : String} (hpattern : m.pattern? = some f) (h : (m.parts? line).isSome = true) :
    (f line.toList).isSome = true := by
  unfold parts? at h
  rw [hpattern] at h
  simpa using h

/-- **What a pattern accepts begins with one of its leads.** -/
theorem Matcher.exists_lead {m : Matcher} {line : String} (hclass : m.lineClass?.isSome = true)
    (h : (m.parts? line).isSome = true) :
    ∃ lead ∈ m.leads, lead <+: (trimStart line.toList).map asciiLower := by
  cases m with
  | endOfInput | multilineClose | multilineContent | text => cases hclass
  | comment =>
    refine ⟨_, List.mem_singleton_self _, ?_⟩
    exact (lead_of_commentParts (isSome_of_pattern? rfl h)).map asciiLower
  | tags =>
    refine ⟨_, List.mem_singleton_self _, ?_⟩
    exact (lead_of_tagsParts (isSome_of_pattern? rfl h)).map asciiLower
  | feature =>
    refine ⟨_, List.mem_singleton_self _, ?_⟩
    exact lead_of_headerParts "Feature:".toList (isSome_of_pattern? rfl h)
  | background =>
    refine ⟨_, List.mem_singleton_self _, ?_⟩
    exact lead_of_headerParts "Background:".toList (isSome_of_pattern? rfl h)
  | scenario =>
    refine ⟨_, List.mem_singleton_self _, ?_⟩
    exact lead_of_headerParts "Scenario:".toList (isSome_of_pattern? rfl h)
  | outline =>
    refine ⟨_, List.mem_singleton_self _, ?_⟩
    exact lead_of_headerParts "Scenario Outline:".toList (isSome_of_pattern? rfl h)
  | examples =>
    refine ⟨_, List.mem_singleton_self _, ?_⟩
    exact lead_of_headerParts "Examples:".toList (isSome_of_pattern? rfl h)
  | step => exact lead_of_stepParts (isSome_of_pattern? rfl h)
  | multilineOpen =>
    refine ⟨_, List.mem_singleton_self _, ?_⟩
    exact (lead_of_delimiterParts (isSome_of_pattern? rfl h)).map asciiLower
  | tableRow =>
    refine ⟨_, List.mem_singleton_self _, ?_⟩
    exact (lead_of_rowParts (isSome_of_pattern? rfl h)).map asciiLower

/-- **Patterns exclude each other**: what two of them accept, they accept as one. -/
theorem Matcher.eq_of_isSome_parts? {m m' : Matcher} {line : String}
    (hclass : m.lineClass?.isSome = true) (hclass' : m'.lineClass?.isSome = true)
    (h : (m.parts? line).isSome = true) (h' : (m'.parts? line).isSome = true) : m = m' := by
  obtain ⟨lead, hlead, hbegins⟩ := exists_lead hclass h
  obtain ⟨lead', hlead', hbegins'⟩ := exists_lead hclass' h'
  rcases List.prefix_or_prefix_of_prefix hbegins hbegins' with hle | hle
  · exact eq_of_isPrefix m m' lead hlead lead' hlead' hle
  · exact (eq_of_isPrefix m' m lead' hlead' lead hlead hle).symm

/-- Every matcher that looks for the beginning of a line looks for a character at least. -/
theorem Matcher.nil_notMem_leads : ∀ m : Matcher, [] ∉ m.leads := by
  intro m
  cases m <;> decide

/-- No matcher of a class of lines takes a blank line. -/
theorem Matcher.isBlankText_of_isSome_parts? {m : Matcher} {line : String}
    (hclass : m.lineClass?.isSome = true) (h : (m.parts? line).isSome = true) :
    isBlankText line = false := by
  obtain ⟨lead, hlead, hbegins⟩ := exists_lead hclass h
  rw [← Bool.not_eq_true]
  intro hblank
  rw [trimStart_eq_nil_iff.mpr hblank, List.map_nil, List.prefix_nil] at hbegins
  exact nil_notMem_leads m (hbegins ▸ hlead)

/-- Every class of lines has a matcher of its own. -/
theorem Matcher.eq_of_lineClass? : ∀ m m' : Matcher, m.lineClass?.isSome = true →
    m.lineClass? = m'.lineClass? → m = m' := by
  intro m m'
  cases m <;> cases m' <;> decide

/-- No matcher is that of the blank lines, and none is that of the lines of no class. -/
theorem Matcher.lineClass?_ne : ∀ m : Matcher,
    m.lineClass? ≠ some .blank ∧ m.lineClass? ≠ some .other := by
  intro m
  cases m <;> decide

/-- The list of matchers is complete. -/
theorem Matcher.mem_all (m : Matcher) : m ∈ all := by
  cases m <;> decide

namespace LineClass

/-- The blank lines are a class of their own. -/
theorem ofLine_eq_blank {line : String} : ofLine line = .blank ↔ isBlankText line = true := by
  unfold ofLine
  split
  · next hblank => simp [hblank]
  · next hblank =>
    simp only [hblank, Bool.false_eq_true, iff_false]
    split
    · next m hfind =>
      have hfound := List.find?_some hfind
      simp only [Bool.and_eq_true] at hfound
      obtain ⟨c, hc⟩ := Option.isSome_iff_exists.mp hfound.1
      rw [hc, Option.getD_some]
      rintro rfl
      exact m.lineClass?_ne.1 hc
    · simp

/-- **A line is of a class just if the pattern of the class accepts it.** -/
theorem ofLine_eq_iff {m : Matcher} {c : LineClass} (hclass : m.lineClass? = some c) (line : String) :
    ofLine line = c ↔ (m.parts? line).isSome = true := by
  have hm : m.lineClass?.isSome = true := by rw [hclass, Option.isSome_some]
  constructor
  · intro hline
    unfold ofLine at hline
    split at hline
    · exact absurd (hclass.trans (congrArg some hline.symm)) m.lineClass?_ne.1
    · split at hline
      · next m' hfind =>
        have hfound := List.find?_some hfind
        simp only [Bool.and_eq_true] at hfound
        obtain ⟨c', hc'⟩ := Option.isSome_iff_exists.mp hfound.1
        rw [hc', Option.getD_some] at hline
        have hmm : m = m' := m.eq_of_lineClass? m' hm (by rw [hclass, hc', hline])
        rw [hmm]
        exact hfound.2
      · exact absurd (hclass.trans (congrArg some hline.symm)) m.lineClass?_ne.2
  · intro hparts
    have hblank := Matcher.isBlankText_of_isSome_parts? hm hparts
    unfold ofLine
    rw [if_neg (by simp [hblank])]
    cases hfind : Matcher.all.find? fun m => m.lineClass?.isSome && (m.parts? line).isSome with
    | some m' =>
      have hfound := List.find?_some hfind
      simp only [Bool.and_eq_true] at hfound
      dsimp only
      rw [← Matcher.eq_of_isSome_parts? hm hfound.1 hparts hfound.2, hclass, Option.getD_some]
    | none =>
      have hnone := List.find?_eq_none.mp hfind m m.mem_all
      exact absurd (Bool.and_eq_true_iff.mpr ⟨hm, hparts⟩) hnone

end LineClass

/-- Whether a class with a pattern takes the lines of a class. Any line that is not blank is text. -/
def Matcher.takes (m : Matcher) (c : LineClass) : Bool :=
  match m with
  | .text => c != .blank
  | m => m.lineClass? == some c

/-- A line that ends where its text ends is text just if it is not blank. -/
theorem Matcher.isSome_parts?_text {line : String} (hline : '\n' ∉ line.toList) :
    (Matcher.text.parts? line).isSome = !isBlankText line := by
  have hone : onOneLine line.toList = true := by simpa [onOneLine] using hline
  simp only [parts?, pattern?, textParts, hone, Bool.true_and, isBlankText]
  split
  · next h => simpa using h
  · next h => simpa using h

/-- **A pattern that a row can have outside of multiline blocks** accepts a line just if it takes the
class of the line. -/
theorem Matcher.isSome_parts? {m : Matcher} (hclose : m ≠ .multilineClose) {line : String}
    (hline : '\n' ∉ line.toList) : (m.parts? line).isSome = m.takes (.ofLine line) := by
  cases hclass : m.lineClass? with
  | some c =>
    have htakes : m.takes (.ofLine line) = (some c == some (LineClass.ofLine line)) := by
      cases m <;> simp only [takes, ← hclass]
      cases hclass
    rw [htakes, Bool.eq_iff_iff, ← LineClass.ofLine_eq_iff hclass line, beq_iff_eq,
      Option.some.injEq, eq_comm]
  | none =>
    cases m with
    | multilineClose => exact absurd rfl hclose
    | text =>
      rw [isSome_parts?_text hline, takes]
      by_cases hblank : isBlankText line = true
      · simp [hblank, LineClass.ofLine_eq_blank.mpr hblank]
      · have hne : LineClass.ofLine line ≠ .blank := fun h => hblank (LineClass.ofLine_eq_blank.mp h)
        simp [hblank, hne]
    | endOfInput | multilineContent => rfl
    | _ => cases hclass

/-- The number of blanks that a line begins with. -/
def width (line : String) : Nat :=
  (indentation line.toList).length

/-- The part of an opening delimiter is as wide as the indentation of its line. -/
theorem Matcher.length_headD_of_delimiter {line : String} {parts : List String}
    (h : Matcher.multilineOpen.parts? line = some parts) : (parts.headD "").length = width line := by
  simp only [parts?, pattern?, Option.map_eq_some_iff] at h
  obtain ⟨captured, hparts, rfl⟩ := h
  unfold delimiterParts at hparts
  split at hparts
  · split at hparts
    · cases hparts
      simp [width]
    · cases hparts
  · cases hparts

end Grammar

/-- A line that is complete is a piece between two ends of lines, with or without its last element. -/
theorem exists_mem_cutAt_of_mem_completeLines {α : Type} [BEq α] {feed ret : α} {cs line : List α}
    (h : line ∈ (completeLines feed ret cs).1) : ∃ piece ∈ Text.cutAt (· == feed) cs, line ⊆ piece := by
  obtain ⟨piece, hpiece, rfl⟩ := List.mem_map.mp h
  refine ⟨piece, List.dropLast_subset _ hpiece, ?_⟩
  split
  · split
    · exact List.dropLast_subset piece
    · exact List.Subset.refl piece
  · exact List.Subset.refl piece

/-- The lines of a text have no line feed in them. -/
theorem notMem_of_mem_linesOf {text line : String} (h : line ∈ linesOf text) :
    '\n' ∉ line.toList := by
  obtain ⟨cs, hcs, rfl⟩ := List.mem_map.mp h
  rw [String.toList_ofList]
  have hpiece : ∃ piece ∈ Text.cutAt (· == '\n') text.toList, cs ⊆ piece := by
    rcases List.mem_append.mp hcs with hcomplete | hrest
    · exact exists_mem_cutAt_of_mem_completeLines hcomplete
    · refine ⟨cs, ?_, List.Subset.refl cs⟩
      split at hrest
      · cases hrest
      · obtain rfl := List.mem_singleton.mp hrest
        have hne := Text.cutAt_ne_nil (· == '\n') text.toList
        simp only [List.getLastD_eq_getLast?, List.getLast?_eq_some_getLast hne,
          Option.getD_some]
        exact List.getLast_mem hne
  obtain ⟨piece, hmem, hsub⟩ := hpiece
  intro hfeed
  exact Text.not_of_mem_cutAt hmem _ (hsub hfeed) (beq_self_eq_true _)

end Acceptance
