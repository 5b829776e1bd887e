import Acceptance.Slug
import Acceptance.Proofs.Document.Trimming

/-!
# Slugs

A slug is made of ASCII letters, digits and underscores, and words of these at the end of a title are kept as they
are: the slug of the title ends with the words, joined, and an underscore stands before them unless nothing of
what comes before them has been kept (`Text.slugChars_append`). So slugs are the words of these characters, each of
which is its own slug, and one word behind a title can be told from the title (`Text.slugify_normalises`).
-/

set_option autoImplicit false

namespace Acceptance

namespace Text

variable {c : Char} {cs front back : List Char}

/-! ## Reduction to ASCII -/

/-- An ASCII form has only characters of such forms. -/
theorem isAsciiForm_of_mem_asciiForm (h : c ∈ asciiForm cs) : isAsciiForm c = true := by
  obtain ⟨d, -, hc⟩ := List.mem_flatMap.mp h
  unfold asciiFormChar at hc
  split at hc
  · split at hc
    · next hform => exact List.mem_singleton.mp hc ▸ hform
    · cases hc
  · exact (List.mem_filter.mp hc).2

/-- The characters of words are the letters, the digits and the underscore, by their code points. -/
theorem toNat_of_isAsciiWord (h : isAsciiWord c = true) : (97 ≤ c.toNat ∧ c.toNat ≤ 122) ∨
    (65 ≤ c.toNat ∧ c.toNat ≤ 90) ∨ (48 ≤ c.toNat ∧ c.toNat ≤ 57) ∨ c.toNat = 95 := by
  simp only [isAsciiWord, isAsciiLetter, isAsciiDigit, Bool.or_eq_true, Bool.and_eq_true,
    decide_eq_true_eq, beq_iff_eq] at h
  rcases h with ((h | h) | h) | rfl
  · exact .inl h
  · exact .inr (.inl h)
  · exact .inr (.inr (.inl h))
  · exact .inr (.inr (.inr rfl))

/-- A character of words is no white space. -/
theorem isBlank_of_isAsciiWord (h : isAsciiWord c = true) : isBlank c = false := by
  have hcode := toNat_of_isAsciiWord h
  refine Bool.eq_false_iff.mpr fun hblank => ?_
  have hmem := mem_of_isBlank hblank
  simp only [List.mem_cons, List.not_mem_nil, or_false] at hmem
  omega

/-- A character of words is ASCII. -/
theorem isAscii_of_isAsciiWord (h : isAsciiWord c = true) : isAscii c = true := by
  have hcode := toNat_of_isAsciiWord h
  exact decide_eq_true (by omega)

/-- A character of words separates nothing. -/
theorem isSlugSeparator_of_isAsciiWord (h : isAsciiWord c = true) : isSlugSeparator c = false := by
  have hcode := toNat_of_isAsciiWord h
  refine Bool.eq_false_iff.mpr fun hseparator => ?_
  simp only [isSlugSeparator, isAsciiSpace, Bool.or_eq_true, beq_iff_eq] at hseparator
  rcases hseparator with rfl | (((rfl | rfl) | rfl) | rfl) | rfl <;> revert hcode <;> decide

/-- The ASCII form of two texts is that of both, one after another. -/
theorem asciiForm_append (front back : List Char) :
    asciiForm (front ++ back) = asciiForm front ++ asciiForm back :=
  List.flatMap_append

/-- **Words of ASCII characters** and the spaces between them survive the reduction as they are. -/
theorem asciiForm_of_all (h : ∀ c ∈ cs, isAsciiWord c = true ∨ c = ' ') : asciiForm cs = cs := by
  have hchar : ∀ c, isAsciiWord c = true ∨ c = ' ' → asciiFormChar c = [c] := by
    rintro c (hword | rfl)
    · unfold asciiFormChar isAsciiForm
      rw [if_pos (isAscii_of_isAsciiWord hword), hword]
      rfl
    · decide
  induction cs with
  | nil => rfl
  | cons c cs ih =>
    obtain ⟨hc, hcs⟩ := List.forall_mem_cons.mp h
    unfold asciiForm at ih ⊢
    rw [List.flatMap_cons, hchar c hc, ih hcs]
    rfl

/-! ## Joining words -/

/-- What is joined into a slug has no separator in it. -/
theorem of_mem_joinSlug {written : Bool} (h : c ∈ joinSlug written cs) :
    c = '_' ∨ c ∈ cs ∧ isSlugSeparator c = false := by
  induction cs generalizing written with
  | nil => cases h
  | cons d cs ih =>
    have hlater {written : Bool} (h : c ∈ joinSlug written cs) :
        c = '_' ∨ c ∈ d :: cs ∧ isSlugSeparator c = false :=
      (ih h).imp_right fun ⟨hc, hseparator⟩ => ⟨List.mem_cons_of_mem d hc, hseparator⟩
    unfold joinSlug at h
    split at h
    · split at h
      · exact hlater h
      · rcases List.mem_cons.mp h with rfl | h
        · exact .inl rfl
        · exact hlater h
    · next hd =>
      rcases List.mem_cons.mp h with rfl | h
      · exact .inr ⟨List.mem_cons_self, by simpa using hd⟩
      · exact hlater h

/-- **The characters of a slug** are ASCII letters, digits and underscores. -/
theorem isAsciiWord_of_mem_slugChars {title : List Char} (h : c ∈ slugChars title) : isAsciiWord c = true := by
  rcases of_mem_joinSlug h with rfl | ⟨hc, hseparator⟩
  · rfl
  · have hform := isAsciiForm_of_mem_asciiForm (trim_subset _ hc)
    unfold isSlugSeparator at hseparator
    unfold isAsciiForm at hform
    rwa [Bool.or_assoc, hseparator, Bool.or_false] at hform

/-- A word is joined as it is. -/
theorem joinSlug_append {word : List Char} (hword : ∀ c ∈ word, isSlugSeparator c = false) (cs : List Char) :
    joinSlug false (word ++ cs) = word ++ joinSlug false cs := by
  induction word with
  | nil => rfl
  | cons c word ih =>
    obtain ⟨hc, hrest⟩ := List.forall_mem_cons.mp hword
    rw [List.cons_append, joinSlug, if_neg (by simp [hc]), ih hrest, List.cons_append]

/-- Whether a separator has been written makes no difference to a text that does not begin with one. -/
theorem joinSlug_true (h : cs.head?.any isSlugSeparator = false) : joinSlug true cs = joinSlug false cs := by
  cases cs with
  | nil => rfl
  | cons c cs =>
    rw [List.head?_cons, Option.any_some] at h
    rw [joinSlug, joinSlug, h]
    rfl

/-- No character of a word separates anything. -/
theorem isSlugSeparator_of_mem_word {word : List Char} (hword : ∀ c ∈ word, isAsciiWord c = true) :
    ∀ c ∈ word, isSlugSeparator c = false := fun c hc => isSlugSeparator_of_isAsciiWord (hword c hc)

/-- A word is joined to itself. -/
theorem joinSlug_word {word : List Char} (hword : ∀ c ∈ word, isAsciiWord c = true) :
    joinSlug false word = word := by
  have hjoined := joinSlug_append (isSlugSeparator_of_mem_word hword) []
  rwa [joinSlug, List.append_nil] at hjoined

/-- Two words with a blank between them are their own ASCII form. -/
theorem asciiForm_words {word other : List Char} (hword : ∀ c ∈ word, isAsciiWord c = true)
    (hother : ∀ c ∈ other, isAsciiWord c = true) :
    asciiForm (word ++ ' ' :: other) = word ++ ' ' :: other := by
  refine asciiForm_of_all fun c hc => ?_
  rcases List.mem_append.mp hc with hc | hc
  · exact .inl (hword c hc)
  · rcases List.mem_cons.mp hc with rfl | hc
    · exact .inr rfl
    · exact .inl (hother c hc)

/-- **Two words** are joined by an underscore. -/
theorem joinSlug_words {word other : List Char} (hword : ∀ c ∈ word, isAsciiWord c = true)
    (hother : ∀ c ∈ other, isAsciiWord c = true) (hne : other ≠ []) :
    joinSlug false (word ++ ' ' :: other) = word ++ '_' :: other := by
  have hfirst : other.head?.any isSlugSeparator = false := by
    obtain ⟨c, more, rfl⟩ := List.exists_cons_of_ne_nil hne
    exact isSlugSeparator_of_isAsciiWord (hother c List.mem_cons_self)
  have hbehind : joinSlug false (' ' :: other) = '_' :: joinSlug true other := rfl
  rw [joinSlug_append (isSlugSeparator_of_mem_word hword), hbehind, joinSlug_true hfirst, joinSlug_word hother]

/-- **Behind a separator** a text is joined by itself, and an underscore stands before it. -/
theorem exists_joinSlug_append (hback : back.head?.any isSlugSeparator = false) (written : Bool)
    (front : List Char) :
    ∃ before, (if written then ['_'] else []) ++ joinSlug written (front ++ ' ' :: back) =
      before ++ '_' :: joinSlug false back := by
  have hspace : isSlugSeparator ' ' = true := by decide
  induction front generalizing written with
  | nil =>
    refine ⟨[], ?_⟩
    rw [List.nil_append, joinSlug, if_pos hspace, joinSlug_true hback]
    cases written <;> rfl
  | cons c front ih =>
    rw [List.cons_append, joinSlug]
    by_cases hc : isSlugSeparator c = true
    · -- the underscore of the run is written here, or has been
      obtain ⟨before, hbefore⟩ := ih true
      refine ⟨before, ?_⟩
      rw [if_pos hc, ← hbefore]
      cases written <;> rfl
    · obtain ⟨before, hbefore⟩ := ih false
      refine ⟨(if written then ['_'] else []) ++ c :: before, ?_⟩
      rw [if_neg hc, List.append_assoc, List.cons_append, ← hbefore]
      rfl

/-! ## The end of a slug -/

/-- Behind a text that ends with another character than a blank there are no blanks to drop. -/
theorem trim_append_of_last (hne : back ≠ []) (hlast : back.getLast?.any isBlank = false)
    (hfront : front.all isBlank = false) : trim (front ++ back) = trimStart front ++ back := by
  have hstart : trimStart front ≠ [] := fun h => by
    rw [trimStart_eq_nil_iff.mp h] at hfront
    cases hfront
  have hend : trimEnd (trimStart front ++ back) = trimStart front ++ back := by
    obtain ⟨b, hb⟩ : ∃ b, back.getLast? = some b := ⟨_, List.getLast?_eq_some_getLast hne⟩
    obtain ⟨more, rfl⟩ := List.getLast?_eq_some_iff.mp hb
    rw [hb, Option.any_some] at hlast
    rw [trimEnd, ← List.append_assoc, List.reverse_append, List.reverse_singleton, List.singleton_append,
      List.dropWhile_cons_of_neg (by simp [hlast]), List.reverse_cons, List.reverse_reverse]
  rw [trim, trimStart, List.dropWhile_append, if_neg (by simpa [trimStart] using hstart)]
  exact hend

/-- **Words at the end of a title** are the end of its slug. An underscore stands before them, unless nothing but
blanks is kept of what comes before them. -/
theorem slugChars_append (title : List Char) (hform : asciiForm back = back) (hne : back ≠ [])
    (hblank : back.head?.any isBlank = false) (hfirst : back.head?.any isSlugSeparator = false)
    (hlast : back.getLast?.any isBlank = false) :
    ((asciiForm title).all isBlank = true ∧ slugChars (title ++ ' ' :: back) = joinSlug false back) ∨
      (asciiForm title).all isBlank = false ∧
        ∃ before, slugChars (title ++ ' ' :: back) = before ++ '_' :: joinSlug false back := by
  have hspace : asciiForm (' ' :: back) = ' ' :: back := by
    rw [← List.singleton_append, asciiForm_append, hform]
    rfl
  unfold slugChars
  rw [asciiForm_append, hspace]
  cases htitle : (asciiForm title).all isBlank with
  | true =>
    have hblanks : (asciiForm title ++ [' ']).all isBlank = true := by
      rw [List.all_append, htitle]
      rfl
    refine .inl ⟨rfl, ?_⟩
    rw [List.append_cons, trim_append_of_all_left hblanks, trim_of_ends hblank hlast]
  | false =>
    obtain ⟨before, hbefore⟩ := exists_joinSlug_append hfirst false (trimStart (asciiForm title))
    have hlast' : (' ' :: back).getLast?.any isBlank = false := by
      cases back with
      | nil => exact absurd rfl hne
      | cons b back => rwa [List.getLast?_cons_cons]
    refine .inr ⟨rfl, before, ?_⟩
    rw [trim_append_of_last (List.cons_ne_nil _ _) hlast' htitle]
    exact hbefore

/-! ## Normal forms -/

/-- Words begin and end with other characters than blanks and separators. -/
theorem ends_of_word {word : List Char} {p : Char → Bool} (hword : ∀ c ∈ word, isAsciiWord c = true)
    (hp : ∀ c, isAsciiWord c = true → p c = false) :
    word.head?.any p = false ∧ word.getLast?.any p = false := by
  have hany {found : Option Char} (hfound : ∀ c, found = some c → c ∈ word) : found.any p = false := by
    cases found with
    | none => rfl
    | some c => exact hp c (hword c (hfound c rfl))
  exact ⟨hany fun _ => List.mem_of_mem_head?, hany fun _ => List.mem_of_getLast?⟩

/-- **A word** of ASCII letters, digits and underscores is its own slug. -/
theorem slugChars_word {word : List Char} (hword : ∀ c ∈ word, isAsciiWord c = true) : slugChars word = word := by
  obtain ⟨hfirst, hlast⟩ := ends_of_word hword fun _ => isBlank_of_isAsciiWord
  rw [slugChars, asciiForm_of_all fun c hc => .inl (hword c hc), trim_of_ends hfirst hlast, joinSlug_word hword]

/-- A word behind a title is the end of the slug. -/
theorem slugChars_append_word (title : List Char) {word : List Char} (hword : ∀ c ∈ word, isAsciiWord c = true)
    (hne : word ≠ []) :
    ((asciiForm title).all isBlank = true ∧ slugChars (title ++ ' ' :: word) = word) ∨
      (asciiForm title).all isBlank = false ∧ ∃ before, slugChars (title ++ ' ' :: word) = before ++ '_' :: word := by
  obtain ⟨hblank, hlast⟩ := ends_of_word hword fun _ => isBlank_of_isAsciiWord
  obtain ⟨hfirst, -⟩ := ends_of_word hword fun _ => isSlugSeparator_of_isAsciiWord
  have hslug := slugChars_append title (asciiForm_of_all fun c hc => .inl (hword c hc)) hne hblank hfirst hlast
  rwa [joinSlug_word hword] at hslug

/-- A slug has characters of words only. -/
theorem isAsciiWord_of_mem_slugify {title : String} (h : c ∈ (slugify title).toList) : isAsciiWord c = true := by
  rw [slugify, String.toList_ofList] at h
  exact isAsciiWord_of_mem_slugChars h

/-- **Slugs are normal forms**: the titles that are their own slugs are the words of ASCII letters, digits and
underscores. -/
theorem slugify_eq_self_iff {title : String} :
    slugify title = title ↔ ∀ c ∈ title.toList, isAsciiWord c = true := by
  constructor
  · intro h c hc
    rw [← h] at hc
    exact isAsciiWord_of_mem_slugify hc
  · intro hword
    rw [slugify, slugChars_word hword, String.ofList_toList]

/-- **A slug is made of ASCII letters, digits and underscores, and is its own slug.** A word of these characters
behind a title stays apart from it: the slug is the word alone just where nothing but white space of the title
survives the reduction to ASCII, and else the word behind an underscore. -/
theorem slugify_normalises :
    (∀ title : String, (∀ c ∈ (slugify title).toList, isAsciiWord c = true) ∧
      slugify (slugify title) = slugify title) ∧
      ∀ title word : String, word ≠ "" → (∀ c ∈ word.toList, isAsciiWord c = true) →
        (slugify (title ++ " " ++ word) = word ↔ (asciiForm title.toList).all isBlank = true) ∧
          ((asciiForm title.toList).all isBlank = false →
            ∃ before, slugify (title ++ " " ++ word) = before ++ "_" ++ word) := by
  refine ⟨fun title => ?_, fun title word hne hword => ?_⟩
  · have hchars : ∀ c ∈ (slugify title).toList, isAsciiWord c = true := fun c hc => isAsciiWord_of_mem_slugify hc
    exact ⟨hchars, slugify_eq_self_iff.mpr hchars⟩
  · have hslug : slugify (title ++ " " ++ word) = String.ofList (slugChars (title.toList ++ ' ' :: word.toList)) := by
      simp [slugify]
    rw [hslug]
    rcases slugChars_append_word title.toList hword (mt String.toList_eq_nil_iff.mp hne) with
      ⟨hblank, hchars⟩ | ⟨hkept, before, hchars⟩
    · rw [hchars, String.ofList_toList, hblank]
      exact ⟨iff_of_true rfl rfl, nofun⟩
    · have hends : String.ofList (before ++ '_' :: word.toList) = String.ofList before ++ "_" ++ word :=
        String.toList_inj.mp (by simp)
      rw [hchars, hends, hkept]
      refine ⟨iff_of_false (fun hsame => ?_) Bool.false_ne_true, fun _ => ⟨_, rfl⟩⟩
      -- the underscore makes the slug longer than the word
      have hlength := congrArg String.length hsame
      have hunderscore : "_".length = 1 := rfl
      rw [String.length_append, String.length_append, hunderscore] at hlength
      omega

/-- A title with an accent, which is kept before a word, and one of white space and punctuation, which is not. -/
theorem slugify_normalises_accent :
    slugify "Für-wahr!" = "Fur_wahr" ∧ slugify (slugify "Für-wahr!") = "Fur_wahr" ∧
      (∃ before, slugify ("Für-wahr!" ++ " " ++ "Example_") = before ++ "_" ++ "Example_") ∧
      slugify ("\t?" ++ " " ++ "Example_") = "Example_" := by
  obtain ⟨hnormal, hbehind⟩ := slugify_normalises
  have hword : ∀ c ∈ "Example_".toList, isAsciiWord c = true := List.all_eq_true.mp (by decide)
  have htitle : slugify "Für-wahr!" = "Fur_wahr" := by decide +kernel
  exact ⟨htitle, (hnormal _).2.trans htitle, (hbehind _ _ (by decide) hword).2 (by decide +kernel),
    (hbehind _ _ (by decide) hword).1.mpr (by decide +kernel)⟩

end Text

end Acceptance
