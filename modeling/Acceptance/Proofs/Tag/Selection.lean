import Acceptance.Proofs.Document.Streams
import Acceptance.Proofs.Document.Trimming
import Acceptance.Tag.Expression

/-!
# Selecting what a document tags

Documents and tag expressions have rules of their own for the names of tags. In a document a name goes on to
the next blank; in an expression a comma ends it, and it may not contain a marker or a tilde. So a tag of a
document can be asked for in an expression, and its absence too, just if its name has none of these three
characters (`TagExpression.selects_iff_of_tags_mem`).
-/

set_option autoImplicit false

namespace Acceptance

open Acceptance.Grammar

/-! ## Names in documents -/

namespace Text

/-- A word has no white space. -/
theorem not_isBlank_of_mem_words {cs word : List Char} (h : word ∈ words cs) :
    ∀ c ∈ word, isBlank c = false := by
  intro c hc
  have hpiece := not_of_mem_cutAt (List.mem_of_mem_filter h) c hc
  simpa using hpiece

end Text

namespace Grammar

/-- Only the line class of tags gives tags. -/
theorem matcher_of_tags_mem : ∀ s : State, ∀ row ∈ standard.rows s,
    .tags ∈ row.actions → row.matcher = .tags := by
  intro s
  cases s <;> decide

/-- Only the action for tags reports them, and it reports the parts of the line. -/
theorem Action.eq_of_event_tags {a : Action} {parts names : List String}
    (h : a.event parts = .ok (.tags names)) : a = .tags ∧ parts = names := by
  cases a with
  | tags =>
    cases h
    exact ⟨rfl, rfl⟩
  | startStep =>
    obtain ⟨keyword, text, heq⟩ := Action.eq_startStep_of_event h
    cases heq
  | _ => cases h

end Grammar

/-- **The names of tags that a line yields** have no blank in them. -/
theorem Parser.not_isBlank_of_tags_mem {p : Parser} {line : Option String} {names : List String} {t : String}
    (hreport : .tags names ∈ (p.report line).events) (ht : t ∈ names) :
    ∀ c ∈ t.toList, Text.isBlank c = false := by
  rcases p.report_cases line with ⟨fault, -, h⟩ | ⟨text, -, -, -, h⟩ |
    ⟨row, parts, events, hrow, haccepts, hevents, h⟩
  · rw [h] at hreport
    cases hreport
  · rw [h] at hreport
    cases List.mem_singleton.mp hreport
  · rw [h] at hreport
    obtain ⟨a, ha, hevent⟩ := exists_left_of_mem hevents hreport
    obtain ⟨rfl, rfl⟩ := Action.eq_of_event_tags hevent
    have hmatcher := matcher_of_tags_mem p.state row hrow ha
    cases line with
    | none => exact absurd (hmatcher.symm.trans haccepts.1) (by decide)
    | some text =>
      rw [Accepts, hmatcher, partsOf, Except.ok.injEq, Option.map_eq_some_iff] at haccepts
      obtain ⟨captured, -, rfl⟩ := haccepts
      obtain ⟨word, hword, rfl⟩ := List.mem_map.mp ht
      obtain ⟨part, -, hword⟩ := List.mem_flatMap.mp hword
      intro c hc
      rw [String.toList_ofList] at hc
      exact Text.not_isBlank_of_mem_words hword c ((List.dropWhile_suffix _).subset hc)

/-! ## Names in expressions -/

/-- The tag that a term is about. -/
def TagTerm.name : TagTerm → String
  | tag name | absent name => name

/-- Whether a character stands for itself in the name of a tag, wherever the name is written. -/
def isPlainTagChar (c : Char) : Bool :=
  c != ',' && c != '@' && c != '~'

/-- But for the comma, a name of a tag may have the plain characters that are not white space. -/
theorem isTagNameChar_eq (c : Char) (hcomma : c ≠ ',') :
    isTagNameChar c = (!Text.isBlank c && isPlainTagChar c) := by
  have hother : (c != ',') = true := bne_iff_ne.mpr hcomma
  rw [isTagNameChar, isPlainTagChar, hother, Bool.true_and, Bool.and_assoc]

/-- A name is read exactly from some characters that may stand in one. -/
theorem readTagName_eq_ok {offset : Nat} {name : List Char} {t : String} :
    readTagName offset name = .ok t ↔ name ≠ [] ∧ name.all isTagNameChar = true ∧ t = String.ofList name := by
  unfold readTagName
  cases name with
  | nil => simp
  | cons c name =>
    rw [if_neg (by simp)]
    split
    · next hall => simp [hall, eq_comm]
    · next hall => simp [hall]

/-- A term that is read as a marker and a name. -/
theorem readTagTerm_of_trim {offset : Nat} {raw name : List Char} {t : String}
    (hread : ∀ start, readTagName start name = .ok t) :
    (Text.trim raw = '@' :: name → readTagTerm offset raw = .ok (.tag t)) ∧
      (Text.trim raw = '~' :: '@' :: name → readTagTerm offset raw = .ok (.absent t)) := by
  constructor
  · intro htrim
    unfold readTagTerm
    rw [htrim]
    exact congrArg (Except.map TagTerm.tag) (hread _)
  · intro htrim
    unfold readTagTerm
    rw [htrim]
    exact congrArg (Except.map TagTerm.absent) (hread _)

/-- The name in a term is part of what the term is written as, and has the characters of names only. -/
theorem TagTerm.name_of_read {offset : Nat} {raw : List Char} {term : TagTerm}
    (h : readTagTerm offset raw = .ok term) :
    ∀ c ∈ term.name.toList, c ∈ raw ∧ isTagNameChar c = true := by
  -- whichever marker stands in front of it, the name is read alike
  have hname (marker : List Char) {start : Nat} {name : List Char} {make : String → TagTerm}
      (hmake : ∀ t, (make t).name = t) (htrim : Text.trim raw = marker ++ name)
      (hread : (readTagName start name).map make = .ok term) :
      ∀ c ∈ term.name.toList, c ∈ raw ∧ isTagNameChar c = true := by
    cases ht : readTagName start name with
    | error fault =>
      rw [ht] at hread
      cases hread
    | ok t =>
      rw [ht] at hread
      cases hread
      obtain ⟨-, hall, rfl⟩ := readTagName_eq_ok.mp ht
      rw [hmake, String.toList_ofList]
      intro c hc
      have hmem : c ∈ Text.trim raw := htrim ▸ List.mem_append_right _ hc
      exact ⟨Text.trim_subset raw hmem, List.all_eq_true.mp hall c hc⟩
  unfold readTagTerm at h
  dsimp only at h
  split at h
  · cases h
  · next name htrim => exact hname ['@'] (fun _ => rfl) htrim h
  · next name htrim => exact hname ['~', '@'] (fun _ => rfl) htrim h
  · cases h
  · cases h

/-- The terms of a clause are read from its alternatives. -/
theorem exists_read_of_readTagTerms {offset : Nat} {raws : List (List Char)} {terms : List TagTerm}
    (h : readTagTerms offset raws = .ok terms) :
    ∀ term ∈ terms, ∃ raw ∈ raws, ∃ start, readTagTerm start raw = .ok term := by
  induction raws generalizing offset terms with
  | nil =>
    cases h
    simp
  | cons raw raws ih =>
    unfold readTagTerms at h
    cases hfirst : readTagTerm offset raw with
    | error fault =>
      rw [hfirst] at h
      cases h
    | ok first =>
      rw [hfirst] at h
      cases hrest : readTagTerms (offset + Text.byteLength raw + 1) raws with
      | error fault =>
        rw [hrest] at h
        cases h
      | ok rest =>
        rw [hrest] at h
        cases h
        refine List.forall_mem_cons.mpr ⟨⟨raw, List.mem_cons_self, offset, hfirst⟩, fun term hterm => ?_⟩
        obtain ⟨other, hother, start, hread⟩ := ih hrest term hterm
        exact ⟨other, List.mem_cons_of_mem _ hother, start, hread⟩

namespace TagExpression

variable {input t : String} {e : TagExpression}

/-- **The names in an expression** consist of plain characters. -/
theorem isPlainTagChar_of_parse (h : parse input = .ok e) :
    ∀ clause ∈ e.clauses, ∀ term ∈ clause, ∀ c ∈ term.name.toList, isPlainTagChar c = true := by
  unfold parse at h
  cases hterms : readTagTerms 0 (Text.cutAt (· == ',') input.toList) with
  | error fault =>
    rw [hterms] at h
    cases h
  | ok terms =>
    rw [hterms] at h
    cases h
    refine List.forall_mem_singleton.mpr fun term hterm c hc => ?_
    obtain ⟨raw, hraw, start, hread⟩ := exists_read_of_readTagTerms hterms term hterm
    obtain ⟨hmem, hchar⟩ := TagTerm.name_of_read hread c hc
    have hcomma : c ≠ ',' := by simpa using Text.not_of_mem_cutAt hraw c hmem
    rw [isTagNameChar_eq c hcomma, Bool.and_eq_true] at hchar
    exact hchar.2

/-- An expression that does not name a tag cannot tell the tag from nothing. -/
theorem holds_of_forall_ne (h : ∀ clause ∈ e.clauses, ∀ term ∈ clause, term.name ≠ t) :
    e.holds (.ofList [t]) = e.holds ∅ := by
  have hterm (term : TagTerm) (hne : term.name ≠ t) :
      term.holds (.ofList [t]) = term.holds ∅ := by
    have hcontains : (TagSet.ofList [t]).contains term.name = (∅ : TagSet).contains term.name := by
      show [t].contains term.name = [].contains term.name
      simpa using hne
    cases term with
    | tag name => exact hcontains
    | absent name => exact congrArg (!·) hcontains
  have hclause (clause : List TagTerm) (hne : ∀ term ∈ clause, term.name ≠ t) :
      clause.any (TagTerm.holds (.ofList [t])) = clause.any (TagTerm.holds ∅) := by
    induction clause with
    | nil => rfl
    | cons term clause ih =>
      obtain ⟨hfirst, hrest⟩ := List.forall_mem_cons.mp hne
      rw [List.any_cons, List.any_cons, hterm term hfirst, ih hrest]
  obtain ⟨clauses⟩ := e
  induction clauses with
  | nil => rfl
  | cons clause clauses ih =>
    obtain ⟨hfirst, hrest⟩ := List.forall_mem_cons.mp h
    have htail := ih hrest
    unfold holds at htail ⊢
    rw [List.all_cons, List.all_cons, htail]
    exact congrArg (· && _) (hclause clause hfirst)

/-- Whether a text is an expression that holds of the sets of tags with a property, and of no others. -/
def Selects (input : String) (wanted : TagSet → Prop) : Prop :=
  ∃ e, parse input = .ok e ∧ ∀ tags, e.holds tags = true ↔ wanted tags

/-- What tells a tag from nothing can be selected only if the name of the tag is plain. -/
theorem Selects.isPlainTagChar {wanted : TagSet → Prop} (h : Selects input wanted)
    (hwanted : ¬ (wanted (.ofList [t]) ↔ wanted ∅)) : ∀ c ∈ t.toList, isPlainTagChar c = true := by
  obtain ⟨e, hparse, hholds⟩ := h
  by_contra hplain
  have hne : ∀ clause ∈ e.clauses, ∀ term ∈ clause, term.name ≠ t := by
    rintro clause hclause term hterm rfl
    exact hplain (isPlainTagChar_of_parse hparse clause hclause term hterm)
  refine hwanted ?_
  rw [← hholds, ← hholds, holds_of_forall_ne hne]

/-- **One term**: a marker, and a name of plain characters that are no blanks. -/
theorem parse_eq_ok {marker : String} {make : String → TagTerm}
    (hmarker : marker = "@" ∧ make = .tag ∨ marker = "~@" ∧ make = .absent) (hne : t ≠ "")
    (hblank : ∀ c ∈ t.toList, Text.isBlank c = false)
    (hplain : ∀ c ∈ t.toList, Acceptance.isPlainTagChar c = true) :
    parse (marker ++ t) = .ok ⟨[[make t]]⟩ := by
  have hcomma : ∀ c ∈ t.toList, c ≠ ',' := by
    rintro c hc rfl
    exact absurd (hplain _ hc) (by decide)
  have hread (offset : Nat) : readTagName offset t.toList = .ok t := by
    refine readTagName_eq_ok.mpr ⟨by simpa using hne, List.all_eq_true.mpr fun c hc => ?_, ?_⟩
    · rw [isTagNameChar_eq c (hcomma c hc), hblank c hc, hplain c hc]
      rfl
    · rw [String.ofList_toList]
  have hone (cs : List Char) (hcomma' : ',' ∉ cs) (hblank' : cs.any Text.isBlank = false) :
      Text.cutAt (· == ',') (cs ++ t.toList) = [cs ++ t.toList] ∧
        Text.trim (cs ++ t.toList) = cs ++ t.toList := by
    constructor
    · refine cutAt_of_notMem fun hmem => ?_
      rcases List.mem_append.mp hmem with hmem | hmem
      · exact hcomma' hmem
      · exact hcomma _ hmem rfl
    · refine Text.trim_of_all_not fun c hc => ?_
      rcases List.mem_append.mp hc with hc | hc
      · simpa using List.any_eq_false.mp hblank' c hc
      · exact hblank c hc
  unfold parse
  rw [String.toList_append]
  rcases hmarker with ⟨rfl, rfl⟩ | ⟨rfl, rfl⟩
  · obtain ⟨hcut, htrim⟩ := hone ['@'] (by decide) rfl
    rw [show "@".toList = ['@'] from rfl, hcut, readTagTerms, (readTagTerm_of_trim hread).1 htrim]
    rfl
  · obtain ⟨hcut, htrim⟩ := hone ['~', '@'] (by decide) rfl
    rw [show "~@".toList = ['~', '@'] from rfl, hcut, readTagTerms, (readTagTerm_of_trim hread).2 htrim]
    rfl

/-- **A tag of a document can be selected just if its name is plain.** For every name that a line of tags
yields, apart from the empty one, the name behind a marker is an expression for the sets of tags that have
the tag, and with a tilde in front for those that do not have it, just if there is no comma, no marker and no
tilde in the name. -/
theorem selects_iff_of_tags_mem {p : Parser} {line : Option String} {names : List String}
    (hreport : .tags names ∈ (p.report line).events) (ht : t ∈ names) (hne : t ≠ "") :
    (Selects ("@" ++ t) (t ∈ ·) ↔ ∀ c ∈ t.toList, c ≠ ',' ∧ c ≠ '@' ∧ c ≠ '~') ∧
      (Selects ("~@" ++ t) (t ∉ ·) ↔ ∀ c ∈ t.toList, c ≠ ',' ∧ c ≠ '@' ∧ c ≠ '~') := by
  have hblank := Parser.not_isBlank_of_tags_mem hreport ht
  have hplain : (∀ c ∈ t.toList, c ≠ ',' ∧ c ≠ '@' ∧ c ≠ '~') ↔
      ∀ c ∈ t.toList, Acceptance.isPlainTagChar c = true := by
    simp [Acceptance.isPlainTagChar, and_assoc]
  have hhas : t ∈ TagSet.ofList [t] := by simp
  have hempty : t ∉ (∅ : TagSet) := List.not_mem_nil
  have hcontains (tags : TagSet) : tags.contains t = true ↔ t ∈ tags := by
    show tags.names.contains t = true ↔ t ∈ tags.names
    simp
  rw [hplain]
  refine ⟨⟨fun h => h.isPlainTagChar (by simp [hhas, hempty]), fun h => ⟨_, parse_eq_ok (.inl ⟨rfl, rfl⟩)
    hne hblank h, fun tags => ?_⟩⟩, ⟨fun h => h.isPlainTagChar (by simp [hhas, hempty]),
    fun h => ⟨_, parse_eq_ok (.inr ⟨rfl, rfl⟩) hne hblank h, fun tags => ?_⟩⟩⟩
  · simp [holds, TagTerm.holds, hcontains]
  · simp [holds, TagTerm.holds, ← hcontains]

/-- A tag that can be selected, and one on the same line that can not. -/
theorem selects_iff_hyphen_and_comma :
    let events := (({} : Parser).report (some "@slow-db @a,b")).events
    events = [.tags ["slow-db", "a,b"]] ∧ Selects "@slow-db" ("slow-db" ∈ ·) ∧
      Selects "~@slow-db" ("slow-db" ∉ ·) ∧ ¬ Selects "@a,b" ("a,b" ∈ ·) := by
  intro events
  have hevents : events = [.tags ["slow-db", "a,b"]] := by rfl
  have hreport : .tags ["slow-db", "a,b"] ∈ (({} : Parser).report (some "@slow-db @a,b")).events := by
    show _ ∈ events
    rw [hevents]
    exact List.mem_singleton.mpr rfl
  obtain ⟨hhas, hlacks⟩ := selects_iff_of_tags_mem (t := "slow-db") hreport (by simp) (by simp)
  obtain ⟨hcomma, -⟩ := selects_iff_of_tags_mem (t := "a,b") hreport (by simp) (by simp)
  have hplain : ∀ c ∈ "slow-db".toList, c ≠ ',' ∧ c ≠ '@' ∧ c ≠ '~' := by simp
  exact ⟨hevents, hhas.mpr hplain, hlacks.mpr hplain, fun h => (hcomma.mp h ',' (by decide)).1 rfl⟩

/-- **Not every tag of a document can be selected.** Names on a line of tags may contain commas, markers and
tildes, for which expressions have a use of their own, and a line may yield a name without characters. -/
theorem not_selects_comma_marker_tilde :
    (({} : Parser).report (some "@a,b @c@d @e~f @@")).events = [.tags ["a,b", "c@d", "e~f", ""]] ∧
      parse ("@" ++ "a,b") = .error ⟨3, .missingMarker⟩ ∧
      parse ("@" ++ "c@d") = .error ⟨2, .unexpectedCharacter⟩ ∧
      parse ("~@" ++ "e~f") = .error ⟨3, .unexpectedCharacter⟩ ∧
      parse ("@" ++ "") = .error ⟨1, .emptyName⟩ := by
  exact ⟨rfl, rfl, rfl, rfl, rfl⟩

end TagExpression

end Acceptance
