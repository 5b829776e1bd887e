import Acceptance.Document.Line

/-!
# Step lines

The pattern of steps captures a keyword in any letter case. Whatever it captures is therefore read as a
keyword, so that a step line always has a step to report.
-/

set_option autoImplicit false

namespace Acceptance

namespace Text

/-- A text without blanks has none around it. -/
theorem trim_of_all_not {cs : List Char} (h : ∀ c ∈ cs, isBlank c = false) : trim cs = cs := by
  have hstart : ∀ {ds : List Char}, (∀ c ∈ ds, isBlank c = false) → ds.dropWhile isBlank = ds := by
    intro ds hds
    cases ds with
    | nil => rfl
    | cons d ds => simp [hds d (by simp)]
  have hrev : ∀ c ∈ cs.reverse, isBlank c = false := by simpa using h
  rw [trim, trimStart, hstart h, trimEnd, hstart hrev, List.reverse_reverse]

/-- Letter case does not make a blank of a character, nor a character of a blank. -/
theorem isBlank_asciiLower (c : Char) : isBlank (asciiLower c) = isBlank c := by
  unfold asciiLower
  split
  · next h =>
    simp only [Bool.and_eq_true, decide_eq_true_eq] at h
    have hlo : 65 ≤ c.toNat := h.1
    have hhi : c.toNat ≤ 90 := h.2
    have hvalid : (c.toNat + 32).isValidChar := Or.inl (by omega)
    have hval : (Char.ofNat (c.toNat + 32)).toNat = c.toNat + 32 := by
      rw [Char.ofNat, dif_pos hvalid]
      rfl
    simp only [isBlank, hval]
    grind
  · rfl

/-- A word that is written like one without blanks has none. -/
theorem all_not_isBlank_of_sameLetters {xs ys : List Char} (h : sameLetters xs ys = true)
    (hy : ∀ c ∈ ys, isBlank c = false) : ∀ c ∈ xs, isBlank c = false := by
  intro c hc
  have hmap : xs.map asciiLower = ys.map asciiLower := by simpa [sameLetters] using h
  have hmem : asciiLower c ∈ ys.map asciiLower := hmap ▸ List.mem_map_of_mem hc
  obtain ⟨d, hd, heq⟩ := List.mem_map.mp hmem
  rw [← isBlank_asciiLower, ← heq, isBlank_asciiLower]
  exact hy d hd

end Text

namespace Keyword

/-- The list of keywords is complete. -/
theorem mem_all (k : Keyword) : k ∈ all := by
  cases k <;> decide

/-- The names of keywords have no blanks. -/
theorem isBlank_of_mem_name (k : Keyword) : ∀ c ∈ k.name.toList, Text.isBlank c = false := by
  have hall : k.name.toList.all (fun c => !Text.isBlank c) = true := by
    cases k <;> decide
  intro c hc
  simpa using List.all_eq_true.mp hall c hc

/-- The letters of a keyword are not the first letters of another one. -/
theorem eq_of_isPrefix : ∀ k k' : Keyword,
    k.name.toList.map Text.asciiLower <+: k'.name.toList.map Text.asciiLower → k = k' := by
  intro k k'
  cases k <;> cases k' <;> decide

/-- Two keywords that texts spell from the same character on are one. -/
theorem eq_of_sameLetters {k k' : Keyword} {word word' rest rest' : List Char}
    (h : Text.sameLetters word k.name.toList = true) (h' : Text.sameLetters word' k'.name.toList = true)
    (htext : word ++ rest = word' ++ rest') : k = k' := by
  have hletters : word.map Text.asciiLower = k.name.toList.map Text.asciiLower := eq_of_beq h
  have hletters' : word'.map Text.asciiLower = k'.name.toList.map Text.asciiLower := eq_of_beq h'
  have hfirst : k.name.toList.map Text.asciiLower <+: (word ++ rest).map Text.asciiLower := by
    rw [List.map_append, hletters]
    exact List.prefix_append _ _
  have hfirst' : k'.name.toList.map Text.asciiLower <+: (word ++ rest).map Text.asciiLower := by
    rw [htext, List.map_append, hletters']
    exact List.prefix_append _ _
  rcases List.prefix_or_prefix_of_prefix hfirst hfirst' with hprefix | hprefix
  · exact eq_of_isPrefix k k' hprefix
  · exact (eq_of_isPrefix k' k hprefix).symm

/-- **A word that spells a keyword** in any letter case is read as the keyword. -/
theorem read_of_sameLetters {word : List Char} {k : Keyword}
    (h : Text.sameLetters word k.name.toList = true) :
    read (Text.trimmed (String.ofList word)) = .ok k := by
  have hblank := Text.all_not_isBlank_of_sameLetters h k.isBlank_of_mem_name
  have htrim : Text.trim word = word := Text.trim_of_all_not hblank
  simp only [read, Text.trimmed, String.toList_ofList, htrim]
  cases hfind : all.find? (fun k => Text.sameLetters word k.name.toList) with
  | some found =>
    have hfound := List.find?_some hfind
    have hsame : word ++ [] = word ++ [] := rfl
    exact congrArg Except.ok (eq_of_sameLetters hfound h hsame)
  | none => exact absurd h (List.find?_eq_none.mp hfind k k.mem_all)

end Keyword

namespace Grammar

/-- What the pattern of steps captures: a keyword in any letter case, and the text behind it. -/
theorem stepParts_eq_some {cs : List Char} {parts : List (List Char)} (h : stepParts cs = some parts) :
    ∃ (k : Keyword) (word rest : List Char),
      parts = [word, rest] ∧ Text.sameLetters word k.name.toList = true ∧
        Text.trimStart cs = word ++ rest ∧ startsInWord rest = false ∧ onOneLine rest = true := by
  simp only [stepParts] at h
  obtain ⟨k, -, hk⟩ := List.exists_of_findSome?_eq_some h
  split at hk
  · next hword =>
    simp only [Bool.and_eq_true, Bool.not_eq_true'] at hword
    obtain ⟨⟨hletters, hbehind⟩, hline⟩ := hword
    exact ⟨k, _, _, (Option.some.inj hk).symm, hletters, (List.take_append_drop _ _).symm, hbehind, hline⟩
  · cases hk

/-- A keyword in any letter case is captured, unless the word goes on behind it. -/
theorem stepParts_of_sameLetters {cs word rest : List Char} {k : Keyword}
    (hletters : Text.sameLetters word k.name.toList = true) (hcs : Text.trimStart cs = word ++ rest)
    (hbehind : startsInWord rest = false) (hline : onOneLine rest = true) :
    stepParts cs = some [word, rest] := by
  have hlength : k.name.toList.length = word.length := by
    simpa using (congrArg List.length (eq_of_beq hletters)).symm
  cases hparts : stepParts cs with
  | none =>
    unfold stepParts at hparts
    have hk := List.findSome?_eq_none_iff.mp hparts k k.mem_all
    simp [hcs, hlength, hletters, hbehind, hline] at hk
  | some parts =>
    obtain ⟨k', word', rest', rfl, hletters', htext, -⟩ := stepParts_eq_some hparts
    rw [hcs] at htext
    obtain rfl := Keyword.eq_of_sameLetters hletters hletters' htext
    have hlength' : k.name.toList.length = word'.length := by
      simpa using (congrArg List.length (eq_of_beq hletters')).symm
    obtain ⟨rfl, rfl⟩ := List.append_inj htext (hlength.symm.trans hlength')
    rfl

/-- The first part of a step line, trimmed, is a keyword. -/
theorem read_headD_of_step {line : String} {parts : List String}
    (h : Matcher.step.parts? line = some parts) :
    ∃ k, Keyword.read ((parts.map Text.trimmed).headD "") = .ok k := by
  simp only [Matcher.parts?, Matcher.pattern?, Option.map_eq_some_iff] at h
  obtain ⟨captured, hstep, rfl⟩ := h
  obtain ⟨k, word, rest, rfl, hword, -⟩ := stepParts_eq_some hstep
  exact ⟨k, by simpa using Keyword.read_of_sameLetters hword⟩

end Grammar

end Acceptance
