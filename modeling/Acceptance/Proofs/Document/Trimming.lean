import Acceptance.Proofs.Document.LineClass
import Acceptance.Proofs.Document.StepLine
import Acceptance.Document.Parser

/-!
# Blanks around lines

Apart from multiline blocks, a line is recognised by what stands between the blanks around it, and its parts
are trimmed, so the line without these blanks is of the same class and has the same parts
(`LineClass.ofLine_trimmed`, `Parser.partsOf_trimmed`). A delimiter has its width besides.
-/

set_option autoImplicit false

namespace Acceptance

open Acceptance.Grammar

namespace Text

variable {cs blanks : List Char} {c : Char}

/-! ## Trimming -/

/-- Leading blanks do not count. -/
theorem trimStart_append_of_all (h : blanks.all isBlank = true) (cs : List Char) :
    trimStart (blanks ++ cs) = trimStart cs :=
  List.dropWhile_append_of_pos (List.all_eq_true.mp h)

/-- Trailing blanks do not count. -/
theorem trimEnd_append_of_all (cs : List Char) (h : blanks.all isBlank = true) :
    trimEnd (cs ++ blanks) = trimEnd cs := by
  have hreverse : ∀ c ∈ blanks.reverse, isBlank c = true := fun c hc =>
    List.all_eq_true.mp h c (List.mem_reverse.mp hc)
  rw [trimEnd, List.reverse_append, List.dropWhile_append_of_pos hreverse, trimEnd]

/-- What is left without the leading blanks begins with no blank. -/
theorem isBlank_of_trimStart {more : List Char} (h : trimStart cs = c :: more) : isBlank c = false := by
  have hhead := List.head?_dropWhile_not isBlank cs
  rw [← trimStart, h, List.head?_cons] at hhead
  simpa using hhead

/-- Where nothing is left between the blanks, nothing is left behind the leading ones. -/
theorem trimStart_eq_nil_of_trim (h : trim cs = []) : trimStart cs = [] := by
  have hall : (trimStart cs).reverse.all isBlank = true := by
    rw [← trimStart_eq_nil_iff, ← List.reverse_eq_nil_iff]
    exact h
  cases hstart : trimStart cs with
  | nil => rfl
  | cons c more =>
    rw [List.all_reverse, hstart, List.all_cons, isBlank_of_trimStart hstart] at hall
    cases hall

/-- Nothing is left just where there are blanks only. -/
theorem trim_eq_nil_iff : trim cs = [] ↔ cs.all isBlank = true := by
  rw [← trimStart_eq_nil_iff]
  refine ⟨trimStart_eq_nil_of_trim, fun h => ?_⟩
  rw [trim, h]
  rfl

/-- What stands behind the leading blanks is the trimmed text, and blanks if there is any text. -/
theorem exists_trimStart_eq (cs : List Char) :
    ∃ blanks, blanks.all isBlank = true ∧ (trim cs = [] → blanks = []) ∧
      trimStart cs = trim cs ++ blanks := by
  have heq : trimStart cs = trim cs ++ ((trimStart cs).reverse.takeWhile isBlank).reverse := by
    rw [trim, trimEnd, ← List.reverse_append, List.takeWhile_append_dropWhile, List.reverse_reverse]
  refine ⟨_, ?_, fun hnil => ?_, heq⟩
  · rw [List.all_reverse]
    exact List.all_takeWhile
  · rw [trimStart_eq_nil_of_trim hnil]
    rfl

/-- Blanks at the end are taken off with the others. -/
theorem trim_append_of_all (cs : List Char) {blanks : List Char} (h : blanks.all isBlank = true) :
    trim (cs ++ blanks) = trim cs := by
  unfold trim trimStart
  rw [List.dropWhile_append]
  split
  · next hnil =>
    rw [List.isEmpty_iff.mp hnil, ← trimStart, trimStart_eq_nil_iff.mpr h]
  · exact trimEnd_append_of_all _ h

/-- Blanks at the beginning are taken off with the others. -/
theorem trim_append_of_all_left {blanks : List Char} (h : blanks.all isBlank = true) (cs : List Char) :
    trim (blanks ++ cs) = trim cs := by
  rw [trim, trimStart_append_of_all h, trim]

/-- What is left between the blanks begins with none. -/
theorem trimStart_trim (cs : List Char) : trimStart (trim cs) = trim cs := by
  obtain ⟨blanks, -, -, hstart⟩ := exists_trimStart_eq cs
  cases htrim : trim cs with
  | nil => rfl
  | cons c more =>
    -- the text begins where the blanks before it have been dropped
    rw [htrim, List.cons_append] at hstart
    exact List.dropWhile_cons_of_neg (by simp [isBlank_of_trimStart hstart])

/-- Taking the blanks off twice is taking them off once. -/
theorem trim_trim (cs : List Char) : trim (trim cs) = trim cs := by
  obtain ⟨blanks, hblanks, -, hstart⟩ := exists_trimStart_eq cs
  calc trim (trim cs) = trimEnd (trim cs) := by rw [trim, trimStart_trim]
    _ = trimEnd (trim cs ++ blanks) := (trimEnd_append_of_all _ hblanks).symm
    _ = trim cs := by rw [← hstart, ← trim]

/-- A text that begins and ends with other characters than blanks is trimmed. -/
theorem trim_of_ends (hfirst : cs.head?.any isBlank = false) (hlast : cs.getLast?.any isBlank = false) :
    trim cs = cs := by
  have hdrop {ds : List Char} (h : ds.head?.any isBlank = false) : ds.dropWhile isBlank = ds := by
    cases ds with
    | nil => rfl
    | cons d ds =>
      rw [List.head?_cons, Option.any_some] at h
      exact List.dropWhile_cons_of_neg (by simp [h])
  have hreverse : cs.reverse.dropWhile isBlank = cs.reverse := hdrop (by rwa [List.head?_reverse])
  rw [trim, trimStart, hdrop hfirst, trimEnd, hreverse, List.reverse_reverse]

/-- A trimmed text begins and ends with other characters than blanks. -/
theorem ends_of_trim (cs : List Char) :
    (trim cs).head?.any isBlank = false ∧ (trim cs).getLast?.any isBlank = false := by
  constructor
  · cases htrim : trim cs with
    | nil => rfl
    | cons c more => exact isBlank_of_trimStart (htrim ▸ trimStart_trim cs)
  · have hhead := List.head?_dropWhile_not isBlank (trimStart cs).reverse
    rw [trim, trimEnd, List.getLast?_reverse]
    cases hlast : ((trimStart cs).reverse.dropWhile isBlank).head? with
    | none => rfl
    | some c => simpa [hlast] using hhead

/-- What is put together with separators, around one of its pieces. -/
theorem intercalate_append_cons {α : Type} (separator piece : List α) (earlier later : List (List α)) :
    separator.intercalate (earlier ++ piece :: later) =
      earlier.flatMap (· ++ separator) ++ piece ++ later.flatMap (separator ++ ·) := by
  induction earlier with
  | nil =>
    induction later generalizing piece with
    | nil => simp
    | cons next later ih =>
      have hlater := ih next
      rw [List.nil_append] at hlater ⊢
      rw [List.intercalate_cons_cons, hlater]
      simp
  | cons first earlier ih =>
    rw [List.cons_append, List.intercalate_cons_of_ne_nil (by simp), ih]
    simp

/-- Taking blanks off adds no character. -/
theorem trim_subset (cs : List Char) : trim cs ⊆ cs := by
  intro c hc
  have hstart : trimStart cs <:+ cs := List.dropWhile_suffix isBlank
  exact hstart.subset ((trimEnd_isPrefix (trimStart cs)).subset hc)

/-! ## Words -/

/-- A blank stands between words. -/
theorem words_append_cons {b : Char} (hb : isBlank b = true) (cs ds : List Char) :
    words (cs ++ b :: ds) = words cs ++ words ds := by
  rw [words, cutAt_append_of_cut hb, List.filter_append, words, words]

/-- A text without blanks is one word. -/
theorem words_of_all_not {word : List Char} (hne : word ≠ []) (h : ∀ c ∈ word, isBlank c = false) :
    words word = [word] := by
  rw [words, cutAt_of_all_not h, List.filter_cons_of_pos (by simpa using hne)]
  rfl

/-- Blanks at the end make no word. -/
theorem words_append_of_all (cs : List Char) {blanks : List Char} (h : blanks.all isBlank = true) :
    words (cs ++ blanks) = words cs := by
  induction blanks generalizing cs with
  | nil => rw [List.append_nil]
  | cons c blanks ih =>
    obtain ⟨hc, hblanks⟩ := Bool.and_eq_true_iff.mp h
    rw [List.append_cons, ih (cs ++ [c]) hblanks, words_append_cons hc]
    exact List.append_nil _

/-- Blanks at the beginning make no word. -/
theorem words_trimStart (cs : List Char) : words (trimStart cs) = words cs := by
  induction cs with
  | nil => rfl
  | cons c cs ih =>
    rw [trimStart, List.dropWhile_cons]
    split
    · next hc =>
      rw [← trimStart, ih]
      unfold words
      rw [cutAt, if_pos hc, List.filter_cons_of_neg (by simp)]
    · rfl

/-- Blanks around a text make no word. -/
theorem words_trim (cs : List Char) : words (trim cs) = words cs := by
  obtain ⟨blanks, hblanks, -, hstart⟩ := exists_trimStart_eq cs
  rw [← words_trimStart cs, hstart, words_append_of_all _ hblanks]

/-! ## Characters of words -/

/-- All the characters that are blanks. -/
theorem mem_of_isBlank (h : isBlank c = true) :
    c.toNat ∈ [9, 10, 11, 12, 13, 0x20, 0x85, 0xA0, 0x1680, 0x2000, 0x2001, 0x2002, 0x2003, 0x2004, 0x2005,
      0x2006, 0x2007, 0x2008, 0x2009, 0x200A, 0x2028, 0x2029, 0x202F, 0x205F, 0x3000] := by
  unfold isBlank at h
  simp only [Bool.or_eq_true, Bool.and_eq_true, decide_eq_true_eq, beq_iff_eq] at h
  simp only [List.mem_cons, List.not_mem_nil, or_false]
  omega

/-- **No blank belongs to a word.** -/
theorem isWordChar_of_isBlank (h : isBlank c = true) : isWordChar c = false := by
  have hall : ∀ n ∈ [9, 10, 11, 12, 13, 0x20, 0x85, 0xA0, 0x1680, 0x2000, 0x2001, 0x2002, 0x2003, 0x2004,
      0x2005, 0x2006, 0x2007, 0x2008, 0x2009, 0x200A, 0x2028, 0x2029, 0x202F, 0x205F, 0x3000],
      isWordChar (Char.ofNat n) = false := by decide +kernel
  have hblank := hall _ (mem_of_isBlank h)
  rwa [Char.ofNat_toNat] at hblank

end Text

namespace Grammar

open Acceptance.Text

variable {cs word body blanks : List Char} {line : String}

/-! ## Patterns -/

/-- Characters of a line without line feed make no other line. -/
theorem onOneLine_of_subset {ds : List Char} (hline : '\n' ∉ cs) (hds : ds ⊆ cs) : onOneLine ds = true := by
  have hfeed : '\n' ∉ ds := fun h => hline (hds h)
  simpa [onOneLine] using hfeed

/-- Blanks behind a text do not make it begin with a word that does not end in a blank. -/
theorem dropStart?_append_of_all (hword : word.getLast?.any isBlank = false)
    (hblanks : blanks.all isBlank = true) :
    dropStart? word (body ++ blanks) = (dropStart? word body).map (· ++ blanks) := by
  induction word generalizing body with
  | nil => rfl
  | cons s word ih =>
    cases body with
    | nil =>
      rw [List.nil_append]
      cases hdrop : dropStart? (s :: word) blanks with
      | none => rfl
      | some rest =>
        obtain ⟨c, hc⟩ : ∃ c, (s :: word).getLast? = some c := ⟨_, List.getLast?_cons⟩
        rw [hc, Option.any_some] at hword
        have hmem : c ∈ blanks := by
          rw [eq_append_of_dropStart? hdrop]
          exact List.mem_append_left _ (List.mem_of_getLast? hc)
        have hblank := List.all_eq_true.mp hblanks c hmem
        rw [hword] at hblank
        cases hblank
    | cons c body =>
      rw [List.cons_append]
      unfold dropStart?
      split
      · refine ih ?_
        cases word with
        | nil => rfl
        | cons t word => rwa [List.getLast?_cons_cons] at hword
      · rfl

/-- A header is read alike without the blanks around its line. -/
theorem headerParts_trim (hword : word.getLast?.any isBlank = false) (hline : '\n' ∉ cs) :
    (headerParts word (trim cs)).map (·.map trim) = (headerParts word cs).map (·.map trim) := by
  obtain ⟨blanks, hblanks, -, hstart⟩ := exists_trimStart_eq cs
  unfold headerParts
  rw [trimStart_trim, hstart, dropStart?_append_of_all hword hblanks]
  cases hdrop : dropStart? word (trim cs) with
  | none => rfl
  | some rest =>
    have hbody : rest ++ blanks ⊆ cs := by
      have hall : trimStart cs ⊆ cs := (List.dropWhile_suffix isBlank).subset
      rw [hstart, eq_append_of_dropStart? hdrop, List.append_assoc] at hall
      exact fun c hc => hall (List.mem_append_right _ hc)
    have hrest : rest ⊆ cs := fun c hc => hbody (List.mem_append_left _ hc)
    dsimp only [Option.map_some]
    rw [if_pos (onOneLine_of_subset hline hrest), if_pos (onOneLine_of_subset hline hbody)]
    simp [trim_append_of_all rest hblanks]

/-- A comment is read like a header whose word is its mark. -/
theorem commentParts_eq (cs : List Char) : commentParts cs = headerParts ['#'] cs := by
  unfold commentParts headerParts
  cases trimStart cs with
  | nil => rfl
  | cons c rest =>
    by_cases hc : c = '#'
    · subst hc
      rfl
    · have hdrop : dropStart? ['#'] (c :: rest) = none := if_neg fun h => hc h.symm
      rw [hdrop]
      split
      · next heq => exact absurd (List.cons.inj heq).1 hc
      · rfl

/-- A word in the letters of a keyword reaches into no blanks behind a text. -/
theorem length_le_of_sameLetters {k : Keyword} (hblanks : blanks.all isBlank = true)
    (h : sameLetters ((body ++ blanks).take k.name.toList.length) k.name.toList = true) :
    k.name.toList.length ≤ body.length := by
  refine Nat.le_of_not_lt fun hshort => ?_
  have hletters := all_not_isBlank_of_sameLetters h k.isBlank_of_mem_name
  have hlength : ((body ++ blanks).take k.name.toList.length).length = k.name.toList.length := by
    have hmap := congrArg List.length (eq_of_beq h)
    rwa [List.length_map, List.length_map] at hmap
  rw [List.length_take, List.length_append] at hlength
  cases blanks with
  | nil => simp at hlength; omega
  | cons c blanks =>
    have hmem : c ∈ (body ++ c :: blanks).take k.name.toList.length := by
      rw [List.take_append]
      refine List.mem_append_right _ ?_
      obtain ⟨n, hn⟩ := Nat.exists_eq_succ_of_ne_zero (Nat.sub_ne_zero_of_lt hshort)
      rw [hn, List.take_succ_cons]
      exact List.mem_cons_self
    have hblank := List.all_eq_true.mp hblanks c List.mem_cons_self
    rw [hletters c hmem] at hblank
    cases hblank

/-- Blanks at the end do not join a word. -/
theorem startsInWord_append_of_all (rest : List Char) (hblanks : blanks.all isBlank = true) :
    startsInWord (rest ++ blanks) = startsInWord rest := by
  cases rest with
  | cons c rest => rfl
  | nil =>
    cases blanks with
    | nil => rfl
    | cons c blanks => exact isWordChar_of_isBlank (Bool.and_eq_true_iff.mp hblanks).1

/-- A step is read alike without the blanks around its line. -/
theorem stepParts_trim (hline : '\n' ∉ cs) :
    (stepParts (trim cs)).map (·.map trim) = (stepParts cs).map (·.map trim) := by
  obtain ⟨blanks, hblanks, -, hstart⟩ := exists_trimStart_eq cs
  unfold stepParts
  rw [trimStart_trim, hstart, List.map_findSome?, List.map_findSome?]
  congr 1
  funext k
  dsimp only [Function.comp_apply]
  by_cases hle : k.name.toList.length ≤ (trim cs).length
  · have hbody : (trim cs).drop k.name.toList.length ++ blanks ⊆ cs := by
      have hall : trimStart cs ⊆ cs := (List.dropWhile_suffix isBlank).subset
      rw [hstart, ← List.take_append_drop k.name.toList.length (trim cs), List.append_assoc] at hall
      exact fun c hc => hall (List.mem_append_right _ hc)
    have hrest : (trim cs).drop k.name.toList.length ⊆ cs := fun c hc => hbody (List.mem_append_left _ hc)
    rw [List.take_append_of_le_length hle, List.drop_append_of_le_length hle,
      startsInWord_append_of_all _ hblanks, onOneLine_of_subset hline hbody, onOneLine_of_subset hline hrest]
    split
    · simp [trim_append_of_all _ hblanks]
    · rfl
  · have hshort : sameLetters ((trim cs ++ blanks).take k.name.toList.length) k.name.toList = false :=
      Bool.eq_false_iff.mpr fun h => hle (length_le_of_sameLetters hblanks h)
    have hshort' : sameLetters ((trim cs).take k.name.toList.length) k.name.toList = false := by
      have hnone : ([] : List Char).all isBlank = true := rfl
      refine Bool.eq_false_iff.mpr fun h => hle (length_le_of_sameLetters hnone ?_)
      rwa [List.append_nil]
    rw [hshort, hshort']
    rfl

/-- Tags are read alike without the blanks around their line. -/
theorem tagsParts_trim (cs : List Char) : tagsParts (trim cs) = tagsParts cs := by
  unfold tagsParts
  rw [words_trim, trim_trim]

/-- A table row is read alike without the blanks around its line. -/
theorem rowParts_trim (cs : List Char) : rowParts (trim cs) = rowParts cs := by
  unfold rowParts
  rw [trim_trim]

/-- A line of blanks is one of blanks without some of them. -/
theorem all_isBlank_trim (cs : List Char) : (trim cs).all isBlank = cs.all isBlank := by
  rw [Bool.eq_iff_iff, ← trim_eq_nil_iff, ← trim_eq_nil_iff, trim_trim]

/-- Text is read alike without the blanks around its line. -/
theorem textParts_trim (hline : '\n' ∉ cs) :
    (textParts (trim cs)).map (·.map trim) = (textParts cs).map (·.map trim) := by
  unfold textParts
  rw [onOneLine_of_subset hline (trim_subset cs), onOneLine_of_subset hline (List.Subset.refl cs),
    all_isBlank_trim]
  split
  · simp [trim_trim]
  · rfl

/-- Blanks around a delimiter do not make it another line. -/
theorem isSome_delimiterParts_trim (cs : List Char) :
    (delimiterParts (trim cs)).isSome = (delimiterParts cs).isSome := by
  obtain ⟨blanks, hblanks, -, hstart⟩ := exists_trimStart_eq cs
  have hword : ['"', '"', '"'].getLast?.any isBlank = false := by decide
  unfold delimiterParts
  rw [trimStart_trim, hstart, dropStart?_append_of_all hword hblanks]
  cases dropStart? ['"', '"', '"'] (trim cs) with
  | none => rfl
  | some rest =>
    dsimp only [Option.map_some]
    rw [List.all_append, hblanks, Bool.and_true]
    split <;> rfl

/-! ## Line classes -/

/-- The parts that a pattern finds in a line and in what it is without the blanks around it, trimmed. -/
theorem Matcher.map_trimmed_parts? {m : Matcher} {f : List Char → Option (List (List Char))}
    (hpattern : m.pattern? = some f)
    (hf : (f (trim line.toList)).map (·.map trim) = (f line.toList).map (·.map trim)) :
    (m.parts? (trimmed line)).map (·.map trimmed) = (m.parts? line).map (·.map trimmed) := by
  have hparts (cs : List Char) : ((f cs).map (·.map String.ofList)).map (·.map trimmed) =
      ((f cs).map (·.map trim)).map (·.map String.ofList) := by
    rw [Option.map_map, Option.map_map]
    congr 1
    funext parts
    simp [trimmed]
  unfold parts?
  rw [hpattern]
  dsimp only
  rw [hparts, hparts, trimmed, String.toList_ofList, hf]

/-- **The patterns of trimmed parts** find the same in a line without the blanks around it. -/
theorem Matcher.map_parts?_trimmed {m : Matcher} (hopen : m ≠ .multilineOpen) (hclose : m ≠ .multilineClose)
    (hline : '\n' ∉ line.toList) :
    (m.parts? (trimmed line)).map (·.map trimmed) = (m.parts? line).map (·.map trimmed) := by
  cases m with
  | multilineOpen => exact absurd rfl hopen
  | multilineClose => exact absurd rfl hclose
  | endOfInput | multilineContent => rfl
  | comment =>
    refine map_trimmed_parts? rfl ?_
    rw [commentParts_eq, commentParts_eq]
    exact headerParts_trim (by decide) hline
  | tags => exact map_trimmed_parts? rfl (by rw [tagsParts_trim])
  | tableRow => exact map_trimmed_parts? rfl (by rw [rowParts_trim])
  | step => exact map_trimmed_parts? rfl (stepParts_trim hline)
  | text => exact map_trimmed_parts? rfl (textParts_trim hline)
  | _ => exact map_trimmed_parts? rfl (headerParts_trim (by decide) hline)

/-- Every matcher takes a line just where it takes that without the blanks around it. -/
theorem Matcher.isSome_parts?_trimmed (m : Matcher) (hline : '\n' ∉ line.toList) :
    (m.parts? (trimmed line)).isSome = (m.parts? line).isSome := by
  by_cases hdelimiter : m = .multilineOpen ∨ m = .multilineClose
  · have hpattern : m.pattern? = some delimiterParts := by
      rcases hdelimiter with rfl | rfl <;> rfl
    unfold parts?
    rw [hpattern]
    dsimp only
    rw [Option.isSome_map, Option.isSome_map, trimmed, String.toList_ofList, isSome_delimiterParts_trim]
  · have hparts := map_parts?_trimmed (fun h => hdelimiter (.inl h)) (fun h => hdelimiter (.inr h)) hline
    have hsome := congrArg Option.isSome hparts
    rwa [Option.isSome_map, Option.isSome_map] at hsome

/-- **The class of a line** does not depend on the blanks around it. -/
theorem LineClass.ofLine_trimmed (hline : '\n' ∉ line.toList) : ofLine (trimmed line) = ofLine line := by
  have hblank : isBlankText (trimmed line) = isBlankText line := by
    rw [isBlankText, trimmed, String.toList_ofList, all_isBlank_trim, isBlankText]
  unfold ofLine
  rw [hblank]
  simp only [Matcher.isSome_parts?_trimmed _ hline]

end Grammar

/-- **The parts of a line**, those of a delimiter and of content apart, do not depend on the blanks around it,
nor on the parser. -/
theorem Parser.partsOf_trimmed {p q : Parser} {m : Matcher} {line : String} (hopen : m ≠ .multilineOpen)
    (hclose : m ≠ .multilineClose) (hcontent : m ≠ .multilineContent) (hline : '\n' ∉ line.toList) :
    q.partsOf m (Text.trimmed line) = p.partsOf m line := by
  have hparts := Matcher.map_parts?_trimmed hopen hclose hline
  cases m with
  | multilineOpen => exact absurd rfl hopen
  | multilineClose => exact absurd rfl hclose
  | multilineContent => exact absurd rfl hcontent
  | endOfInput => rfl
  | tags =>
    unfold partsOf Matcher.parts? Matcher.pattern?
    dsimp only
    rw [Text.trimmed, String.toList_ofList, tagsParts_trim]
  | tableRow =>
    unfold partsOf Matcher.parts? Matcher.pattern?
    dsimp only
    rw [Text.trimmed, String.toList_ofList, rowParts_trim]
  | _ => exact congrArg Except.ok hparts

end Acceptance
