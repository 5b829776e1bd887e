import Mathlib.Data.List.Forall2
import Acceptance.Proofs.Tag.Selection

/-!
# The language of tag expressions

An expression is what stands between its commas: alternatives, each of which has to be a term with blanks
around it. Whatever else is written is a fault, and the fault lies in the first alternative that is no term,
in front of one of its characters or at its end (`TagExpression.exists_firstIllFormed`). Several expressions
together ask of a set of tags that it meets one alternative of each, so neither their order nor the order of
alternatives counts (`TagExpression.language_of_all`).
-/

set_option autoImplicit false

namespace Acceptance

/-! ## Terms as they are written -/

/-- A name that an expression can ask for. -/
def IsTagName (name : List Char) : Prop :=
  name ≠ [] ∧ ∀ c ∈ name, Text.isBlank c = false ∧ c ≠ '@' ∧ c ≠ '~'

/-- A term as an alternative writes it: a marker and a name, with a tilde in front where the tag has to be
absent, and with blanks around them. -/
inductive TagTerm.Written (raw : List Char) : TagTerm → Prop where
  | tag {name : List Char} : Text.trim raw = '@' :: name → IsTagName name →
      Written raw (.tag (String.ofList name))
  | absent {name : List Char} : Text.trim raw = '~' :: '@' :: name → IsTagName name →
      Written raw (.absent (String.ofList name))

variable {offset : Nat} {raw name : List Char} {raws : List (List Char)} {term other : TagTerm}
  {terms : List TagTerm} {fault : TagFault}

/-- A name of a tag is some characters that may stand in one. -/
theorem isTagName_iff : IsTagName name ↔ name ≠ [] ∧ name.all isTagNameChar = true := by
  simp [IsTagName, isTagNameChar, and_assoc]

/-- A text is one term at most. -/
theorem TagTerm.Written.unique (h : term.Written raw) (hother : other.Written raw) : term = other := by
  cases h with
  | tag htrim _ =>
    cases hother with
    | tag htrim' _ => rw [List.cons_inj_right _ |>.mp (htrim.symm.trans htrim')]
    | absent htrim' _ => exact absurd (List.cons.inj (htrim.symm.trans htrim')).1 (by decide)
  | absent htrim _ =>
    cases hother with
    | tag htrim' _ => exact absurd (List.cons.inj (htrim.symm.trans htrim')).1 (by decide)
    | absent htrim' _ =>
      obtain ⟨-, hname⟩ := List.cons.inj (List.cons.inj (htrim.symm.trans htrim')).2
      rw [hname]

/-! ## What terms ask for -/

/-- A set of tags contains its members. -/
theorem TagSet.contains_eq_true {tags : TagSet} {name : String} : tags.contains name = true ↔ name ∈ tags :=
  List.contains_iff_mem

/-- A tag that is asked for has to be there. -/
@[simp] theorem TagTerm.holds_tag {tags : TagSet} {name : String} :
    (TagTerm.tag name).holds tags = true ↔ name ∈ tags :=
  TagSet.contains_eq_true

/-- A tag that is asked to be absent must not be there. -/
@[simp] theorem TagTerm.holds_absent {tags : TagSet} {name : String} :
    (TagTerm.absent name).holds tags = true ↔ name ∉ tags := by
  rw [TagTerm.holds, Bool.not_eq_true', ← Bool.not_eq_true, TagSet.contains_eq_true]

/-! ## Places in a text -/

namespace Text

/-- The bytes of two texts are added up. -/
theorem byteLength_append (as bs : List Char) : byteLength (as ++ bs) = byteLength as + byteLength bs := by
  induction as with
  | nil => simp [byteLength]
  | cons c as ih => rw [List.cons_append, byteLength, byteLength, ih, Nat.add_assoc]

/-- The bytes of a text are those of the string. -/
theorem byteLength_eq (cs : List Char) : byteLength cs = (String.ofList cs).utf8ByteSize := by
  induction cs with
  | nil => rfl
  | cons c cs ih => simp [byteLength, ih, String.ofList_cons]

end Text

/-- A fault that is found inside a text that stands at byte `offset`: in front of one of its characters, or
at its end. -/
def TagFault.Inside (fault : TagFault) (offset : Nat) (text : List Char) : Prop :=
  ∃ before after, text = before ++ after ∧ fault.offset = offset + Text.byteLength before

namespace TagFault.Inside

variable {text : List Char}

/-- What is found inside a part is found inside the whole. -/
theorem within {before : List Char} (h : fault.Inside (offset + Text.byteLength before) text)
    (after : List Char) : fault.Inside offset (before ++ text ++ after) := by
  obtain ⟨first, rest, rfl, hoffset⟩ := h
  refine ⟨before ++ first, rest ++ after, by simp, ?_⟩
  rw [hoffset, Text.byteLength_append, Nat.add_assoc]

/-- A fault inside a text has an offset between its ends. -/
theorem bounds (h : fault.Inside offset text) :
    offset ≤ fault.offset ∧ fault.offset ≤ offset + Text.byteLength text := by
  obtain ⟨before, after, rfl, hoffset⟩ := h
  rw [hoffset, Text.byteLength_append]
  omega

/-- A fault inside an input is at the boundary of two characters, at its beginning or at its end. -/
theorem isValid {input : String} (h : fault.Inside 0 input.toList) :
    (String.Pos.Raw.mk fault.offset).IsValid input := by
  obtain ⟨before, after, hinput, hoffset⟩ := h
  apply String.Pos.Raw.isValid_iff_exists_append.mpr
  refine ⟨String.ofList before, String.ofList after, ?_, ?_⟩
  · rw [← String.ofList_append, ← hinput, String.ofList_toList]
  · rw [hoffset, Nat.zero_add, Text.byteLength_eq]
    rfl

end TagFault.Inside

/-! ## Reading a term -/

/-- A name is read, or there is a fault inside what should be one. -/
theorem readTagName_cases (offset : Nat) (name : List Char) :
    IsTagName name ∧ readTagName offset name = .ok (String.ofList name) ∨
      ¬ IsTagName name ∧ ∃ fault, readTagName offset name = .error fault ∧ fault.Inside offset name := by
  by_cases hname : IsTagName name
  · obtain ⟨hne, hall⟩ := isTagName_iff.mp hname
    exact .inl ⟨hname, readTagName_eq_ok.mpr ⟨hne, hall, rfl⟩⟩
  · refine .inr ⟨hname, ?_⟩
    rw [isTagName_iff] at hname
    unfold readTagName
    cases name with
    | nil => exact ⟨_, rfl, [], [], rfl, rfl⟩
    | cons c name =>
      have hall : (c :: name).all isTagNameChar ≠ true := fun hall => hname ⟨List.cons_ne_nil _ _, hall⟩
      rw [if_neg (by simp), if_neg hall]
      exact ⟨_, rfl, _, _, List.takeWhile_append_dropWhile.symm, rfl⟩

/-- What is found behind the blanks and the marker of an alternative is found inside the alternative. -/
theorem TagFault.Inside.behind (marker : List Char) {rest : List Char} (htrim : Text.trim raw = marker ++ rest)
    (h : fault.Inside (offset + Text.byteLength (Text.indentation raw) + Text.byteLength marker) rest) :
    fault.Inside offset raw := by
  obtain ⟨blanks, -, -, hstart⟩ := Text.exists_trimStart_eq raw
  have hraw : Text.indentation raw ++ marker ++ rest ++ blanks = raw := by
    rw [List.append_assoc _ marker, ← htrim, List.append_assoc, ← hstart, Text.indentation_append_trimStart]
  rw [Nat.add_assoc, ← Text.byteLength_append] at h
  have hwhole := h.within blanks
  rwa [hraw] at hwhole

/-- A text that is no name behind a marker writes no term. -/
theorem not_exists_written (htag : ∀ name, IsTagName name → Text.trim raw ≠ '@' :: name)
    (habsent : ∀ name, IsTagName name → Text.trim raw ≠ '~' :: '@' :: name) :
    ¬ ∃ term, TagTerm.Written raw term := by
  rintro ⟨_, hwritten⟩
  cases hwritten with
  | tag htrim hname => exact htag _ hname htrim
  | absent htrim hname => exact habsent _ hname htrim

/-- **A term is read, or there is a fault inside what should be one.** -/
theorem readTagTerm_cases (offset : Nat) (raw : List Char) :
    (∃ term, TagTerm.Written raw term ∧ readTagTerm offset raw = .ok term) ∨
      (¬ ∃ term, TagTerm.Written raw term) ∧
        ∃ fault, readTagTerm offset raw = .error fault ∧ fault.Inside offset raw := by
  fun_cases readTagTerm offset raw with
  | case1 start htrim =>
    refine .inr ⟨not_exists_written (by simp [htrim]) (by simp [htrim]), _, rfl, ?_⟩
    exact .behind [] htrim ⟨[], [], rfl, rfl⟩
  | case2 start name htrim =>
    rcases readTagName_cases (start + 1) name with ⟨hname, hread⟩ | ⟨hname, fault, hread, hfault⟩
    · rw [hread]
      exact .inl ⟨_, .tag htrim hname, rfl⟩
    · rw [hread]
      refine .inr ⟨not_exists_written ?_ (by simp [htrim]), fault, rfl, .behind ['@'] htrim hfault⟩
      rintro other hother heq
      rw [htrim, List.cons.injEq] at heq
      exact hname (heq.2 ▸ hother)
  | case3 start name htrim =>
    rcases readTagName_cases (start + 2) name with ⟨hname, hread⟩ | ⟨hname, fault, hread, hfault⟩
    · rw [hread]
      exact .inl ⟨_, .absent htrim hname, rfl⟩
    · rw [hread]
      refine .inr ⟨not_exists_written (by simp [htrim]) ?_, fault, rfl,
        .behind ['~', '@'] htrim hfault⟩
      rintro other hother heq
      rw [htrim, List.cons.injEq, List.cons.injEq] at heq
      exact hname (heq.2.2 ▸ hother)
  | case4 start rest hmarker htrim =>
    refine .inr ⟨not_exists_written (by simp [htrim]) ?_, _, rfl, ?_⟩
    · rintro name - heq
      rw [htrim, List.cons.injEq] at heq
      exact hmarker name heq.2
    · exact .behind ['~'] htrim ⟨[], rest, rfl, rfl⟩
  | case5 start _ htag habsent _ =>
    refine .inr ⟨not_exists_written (fun name _ => htag name) (fun name _ => habsent name), _, rfl, ?_⟩
    exact .behind [] rfl ⟨[], _, rfl, rfl⟩

/-- A term is read exactly from the texts that write it. -/
theorem readTagTerm_eq_ok (offset : Nat) : readTagTerm offset raw = .ok term ↔ term.Written raw := by
  rcases readTagTerm_cases offset raw with ⟨read, hwritten, hread⟩ | ⟨hnone, fault, hread, -⟩
  · rw [hread, Except.ok.injEq]
    exact ⟨fun h => h ▸ hwritten, fun h => hwritten.unique h⟩
  · rw [hread]
    constructor
    · rintro ⟨⟩
    · exact fun h => absurd ⟨term, h⟩ hnone

/-- The terms of a clause are those that its alternatives write. -/
theorem readTagTerms_eq_ok (offset : Nat) :
    readTagTerms offset raws = .ok terms ↔ List.Forall₂ (fun raw term => term.Written raw) raws terms := by
  induction raws generalizing offset terms with
  | nil =>
    rw [readTagTerms, List.forall₂_nil_left_iff, Except.ok.injEq, eq_comm]
  | cons raw raws ih =>
    rw [readTagTerms, List.forall₂_cons_left_iff]
    cases hfirst : readTagTerm offset raw with
    | error fault =>
      have hnone (term : TagTerm) : ¬ term.Written raw := by
        rw [← readTagTerm_eq_ok offset, hfirst]
        rintro ⟨⟩
      simp [hnone]
    | ok first =>
      have hterm (term : TagTerm) : term.Written raw ↔ first = term := by
        rw [← readTagTerm_eq_ok offset, hfirst, Except.ok.injEq]
      simp only [hterm, ← ih (offset + Text.byteLength raw + 1)]
      cases readTagTerms (offset + Text.byteLength raw + 1) raws <;> simp [eq_comm]

/-- **A clause that cannot be read** has a fault inside the first alternative that is no term. -/
theorem exists_inside_of_readTagTerms (h : readTagTerms offset raws = .error fault) :
    ∃ earlier raw later, raws = earlier ++ raw :: later ∧
      (∀ other ∈ earlier, ∃ term, TagTerm.Written other term) ∧ (¬ ∃ term, TagTerm.Written raw term) ∧
      fault.Inside (offset + Text.byteLength (earlier.flatMap (· ++ [',']))) raw := by
  induction raws generalizing offset with
  | nil => cases h
  | cons raw raws ih =>
    rw [readTagTerms] at h
    rcases readTagTerm_cases offset raw with ⟨term, hwritten, hread⟩ | ⟨hnone, found, hread, hinside⟩
    · rw [hread] at h
      cases hrest : readTagTerms (offset + Text.byteLength raw + 1) raws with
      | ok terms =>
        rw [hrest] at h
        cases h
      | error found =>
        rw [hrest] at h
        cases h
        obtain ⟨earlier, bad, later, rfl, hearlier, hbad, hinside⟩ := ih hrest
        refine ⟨raw :: earlier, bad, later, rfl, List.forall_mem_cons.mpr ⟨⟨term, hwritten⟩, hearlier⟩, hbad, ?_⟩
        have hcomma : Text.byteLength [','] = 1 := by decide
        rw [List.flatMap_cons, Text.byteLength_append, Text.byteLength_append, hcomma, ← Nat.add_assoc,
          ← Nat.add_assoc]
        exact hinside
    · rw [hread] at h
      cases h
      exact ⟨[], raw, raws, rfl, List.forall_mem_nil _, hnone, hinside⟩

namespace TagExpression

variable {input : String} {inputs others : List String} {e other : TagExpression} {tags : TagSet}

/-! ## One expression -/

/-- The alternatives of an expression: what stands between its commas. -/
def alternatives (input : String) : List (List Char) :=
  Text.cutAt (· == ',') input.toList

/-- The first alternative of an input that is no term, with what stands before and behind it. -/
structure FirstIllFormed (input before alternative after : String) : Prop where
  split : input = before ++ alternative ++ after
  illFormed : ¬ ∃ term, TagTerm.Written alternative.toList term
  first : ∃ earlier later, alternatives input = earlier ++ alternative.toList :: later ∧
    before.toList = earlier.flatMap (· ++ [',']) ∧ ∀ other ∈ earlier, ∃ term, TagTerm.Written other term

/-- What an input asks of a set of tags: for one of its alternatives, to have the tag or to lack it. -/
def Asks (input : String) (tags : TagSet) : Prop :=
  ∃ alternative ∈ alternatives input, ∃ name,
    TagTerm.Written alternative (.tag name) ∧ name ∈ tags ∨
      TagTerm.Written alternative (.absent name) ∧ name ∉ tags

/-- An input is read as one clause of the terms that its alternatives write, and only if each writes one. -/
theorem parse_eq_ok_iff : parse input = .ok e ↔
    ∃ terms, e = ⟨[terms]⟩ ∧ List.Forall₂ (fun raw term => term.Written raw) (alternatives input) terms := by
  unfold parse
  simp only [← readTagTerms_eq_ok 0, alternatives]
  cases readTagTerms 0 (Text.cutAt (· == ',') input.toList) <;> simp [Except.map, eq_comm]

/-- **Where a fault is found**: inside the first alternative that is no term. -/
theorem exists_firstIllFormed (h : parse input = .error fault) :
    ∃ before alternative after, FirstIllFormed input before alternative after ∧
      fault.Inside before.utf8ByteSize alternative.toList ∧ fault.Inside 0 input.toList := by
  unfold parse at h
  cases hterms : readTagTerms 0 (Text.cutAt (· == ',') input.toList) with
  | ok terms =>
    rw [hterms] at h
    cases h
  | error found =>
    rw [hterms] at h
    cases h
    obtain ⟨earlier, alternative, later, hsplit, hearlier, hbad, hinside⟩ := exists_inside_of_readTagTerms hterms
    have hinput : earlier.flatMap (· ++ [',']) ++ alternative ++ later.flatMap ([','] ++ ·) = input.toList := by
      rw [← Text.intercalate_append_cons, ← hsplit, Text.cutAt_eq_splitOnP]
      exact List.intercalate_splitOn ','
    refine ⟨String.ofList (earlier.flatMap (· ++ [','])), String.ofList alternative,
      String.ofList (later.flatMap ([','] ++ ·)), ⟨?_, ?_, earlier, later, ?_, ?_, hearlier⟩, ?_, ?_⟩
    · rw [← String.ofList_append, ← String.ofList_append, hinput, String.ofList_toList]
    · rwa [String.toList_ofList]
    · rw [String.toList_ofList]
      exact hsplit
    · rw [String.toList_ofList]
    · rwa [← Text.byteLength_eq, String.toList_ofList, ← Nat.zero_add (Text.byteLength _)]
    · rw [← hinput]
      exact hinside.within _

/-- **What is read**: an expression all of whose alternatives are terms. -/
theorem exists_parse_eq_ok_iff : (∃ e, parse input = .ok e) ↔
    ∀ alternative ∈ alternatives input, ∃ term, TagTerm.Written alternative term := by
  constructor
  · rintro ⟨e, hread⟩ alternative halternative
    obtain ⟨terms, -, hterms⟩ := parse_eq_ok_iff.mp hread
    obtain ⟨term, -, hwritten⟩ := exists_right_of_mem hterms halternative
    exact ⟨term, hwritten⟩
  · intro hwritten
    cases hread : parse input with
    | ok e => exact ⟨e, rfl⟩
    | error fault =>
      obtain ⟨before, alternative, after, hfirst, -⟩ := exists_firstIllFormed hread
      obtain ⟨earlier, later, hsplit, -⟩ := hfirst.first
      refine absurd (hwritten alternative.toList ?_) hfirst.illFormed
      rw [hsplit]
      exact List.mem_append_right earlier List.mem_cons_self

/-- An input asks for tags if one of its alternatives writes a term that holds for them. -/
theorem asks_iff : Asks input tags ↔ ∃ alternative ∈ alternatives input, ∃ term,
    TagTerm.Written alternative term ∧ term.holds tags = true := by
  constructor
  · rintro ⟨alternative, halternative, name, ⟨hwritten, hname⟩ | ⟨hwritten, hname⟩⟩
    · exact ⟨alternative, halternative, _, hwritten, TagTerm.holds_tag.mpr hname⟩
    · exact ⟨alternative, halternative, _, hwritten, TagTerm.holds_absent.mpr hname⟩
  · rintro ⟨alternative, halternative, term, hwritten, hholds⟩
    cases term with
    | tag name => exact ⟨alternative, halternative, name, .inl ⟨hwritten, TagTerm.holds_tag.mp hholds⟩⟩
    | absent name => exact ⟨alternative, halternative, name, .inr ⟨hwritten, TagTerm.holds_absent.mp hholds⟩⟩

/-- **What an expression selects**: what meets one of its alternatives. -/
theorem holds_of_parse (h : parse input = .ok e) (tags : TagSet) : e.holds tags = true ↔ Asks input tags := by
  obtain ⟨terms, rfl, hterms⟩ := parse_eq_ok_iff.mp h
  have hholds : (TagExpression.mk [terms]).holds tags = true ↔ ∃ term ∈ terms, term.holds tags = true := by
    simp [holds]
  rw [hholds, asks_iff]
  constructor
  · rintro ⟨term, hterm, hmeets⟩
    obtain ⟨alternative, halternative, hwritten⟩ := exists_left_of_mem hterms hterm
    exact ⟨alternative, halternative, term, hwritten, hmeets⟩
  · rintro ⟨alternative, halternative, term, hwritten, hmeets⟩
    obtain ⟨read, hread, hreads⟩ := exists_right_of_mem hterms halternative
    exact ⟨read, hread, hreads.unique hwritten ▸ hmeets⟩

/-! ## Expressions together -/

/-- Whether a text is an expression that selects what is tagged with `tags`. -/
def selects (input : String) (tags : TagSet) : Bool :=
  match parse input with
  | .ok e => e.holds tags
  | .error _ => false

/-- The fault of the first input is the fault of all. -/
theorem all_cons_of_error {first : String} (h : parse first = .error fault) :
    all (first :: inputs) = .error fault := by
  rw [all, h]

/-- Behind a first input that is read, the others are read and joined to it. -/
theorem all_cons_of_ok {first : String} (h : parse first = .ok e) :
    all (first :: inputs) = (all inputs).map e.and := by
  rw [all, h]
  cases all inputs <;> rfl

/-- Inputs are read exactly if the first one is and the others are. -/
theorem all_cons_eq_ok {first : String} : all (first :: inputs) = .ok e ↔
    ∃ one others, parse first = .ok one ∧ all inputs = .ok others ∧ e = one.and others := by
  cases hfirst : parse first with
  | error found => simp [all_cons_of_error hfirst]
  | ok one =>
    rw [all_cons_of_ok hfirst]
    cases all inputs <;> simp [Except.map, eq_comm]

/-- Inputs have a fault exactly if one of them has. -/
theorem all_eq_error : (∃ fault, all inputs = .error fault) ↔
    ∃ input ∈ inputs, ∃ fault, parse input = .error fault := by
  induction inputs with
  | nil => simp [all]
  | cons input inputs ih =>
    rw [List.exists_mem_cons_iff, ← ih, all]
    cases parse input with
    | error fault => simp
    | ok e => cases all inputs <;> simp

/-- All expressions together hold where each of them does. -/
theorem holds_of_all (h : all inputs = .ok e) (tags : TagSet) :
    e.holds tags = inputs.all (selects · tags) := by
  induction inputs generalizing e with
  | nil =>
    cases h
    rfl
  | cons input inputs ih =>
    obtain ⟨one, others, hone, hothers, rfl⟩ := all_cons_eq_ok.mp h
    rw [List.all_cons, ← ih hothers, selects, hone]
    exact List.all_append

/-- All expressions can be read just if each of them can. -/
theorem exists_all_eq_ok_iff : (∃ e, all inputs = .ok e) ↔ ∀ input ∈ inputs, ∃ e, parse input = .ok e := by
  have hfault {α : Type} {x : Except TagFault α} : (∃ value, x = .ok value) ↔ ¬ ∃ fault, x = .error fault := by
    cases x <;> simp
  simp only [hfault, all_eq_error, not_exists, not_and]

/-- What is reported is the fault of the first expression that cannot be read. -/
theorem all_eq_error_iff : all inputs = .error fault ↔ ∃ earlier input later,
    inputs = earlier ++ input :: later ∧ (∀ other ∈ earlier, ∃ e, parse other = .ok e) ∧
      parse input = .error fault := by
  constructor
  · intro h
    induction inputs with
    | nil => cases h
    | cons first inputs ih =>
      cases hfirst : parse first with
      | error found =>
        rw [all_cons_of_error hfirst] at h
        exact ⟨[], first, inputs, rfl, List.forall_mem_nil _, hfirst.trans h⟩
      | ok e =>
        have hrest : all inputs = .error fault := by
          rw [all_cons_of_ok hfirst] at h
          cases hall : all inputs with
          | ok others =>
            rw [hall] at h
            cases h
          | error found =>
            rw [hall] at h
            exact h
        obtain ⟨earlier, input, later, rfl, hearlier, hfault⟩ := ih hrest
        exact ⟨first :: earlier, input, later, rfl, List.forall_mem_cons.mpr ⟨⟨e, hfirst⟩, hearlier⟩, hfault⟩
  · rintro ⟨earlier, input, later, rfl, hearlier, hfault⟩
    induction earlier with
    | nil => exact all_cons_of_error hfault
    | cons first earlier ih =>
      obtain ⟨⟨e, hfirst⟩, hrest⟩ := List.forall_mem_cons.mp hearlier
      rw [List.cons_append, all_cons_of_ok hfirst, ih hrest]
      rfl

/-- All expressions together select what meets one alternative of each. -/
theorem holds_of_all_iff (h : all inputs = .ok e) (tags : TagSet) :
    e.holds tags = true ↔ ∀ input ∈ inputs, Asks input tags := by
  rw [holds_of_all h, List.all_eq_true]
  refine forall₂_congr fun input hinput => ?_
  obtain ⟨one, hone⟩ := exists_all_eq_ok_iff.mp ⟨e, h⟩ input hinput
  rw [selects, hone]
  exact holds_of_parse hone tags

/-! ## Order and repetition -/

/-- Whether two inputs have the same alternatives, in whatever order and however often. -/
def SameAlternatives (input other : String) : Prop :=
  ∀ alternative, alternative ∈ alternatives input ↔ alternative ∈ alternatives other

/-- Whether two lists of inputs are the same up to the order and the repetition of inputs, and of the
alternatives in each of them. -/
def SameInputs (inputs others : List String) : Prop :=
  (∀ input ∈ inputs, ∃ other ∈ others, SameAlternatives input other) ∧
    ∀ other ∈ others, ∃ input ∈ inputs, SameAlternatives input other

/-- Of two inputs with the same alternatives both are read or none is. -/
theorem SameAlternatives.exists_parse {input other : String} (h : SameAlternatives input other) :
    (∃ e, parse input = .ok e) ↔ ∃ e, parse other = .ok e := by
  rw [exists_parse_eq_ok_iff, exists_parse_eq_ok_iff]
  exact forall_congr' fun alternative => by rw [h alternative]

/-- Inputs with the same alternatives ask for the same tags. -/
theorem SameAlternatives.asks {input other : String} (h : SameAlternatives input other) :
    Asks input tags ↔ Asks other tags := by
  unfold Asks
  exact exists_congr fun alternative => by rw [h alternative]

/-- What holds of an input by its alternatives holds of all inputs in any order. -/
theorem SameInputs.forall_iff {P : String → Prop}
    (hP : ∀ input other, SameAlternatives input other → (P input ↔ P other)) (h : SameInputs inputs others) :
    (∀ input ∈ inputs, P input) ↔ ∀ other ∈ others, P other := by
  constructor
  · intro hinputs other hother
    obtain ⟨input, hinput, hsame⟩ := h.2 other hother
    exact (hP input other hsame).mp (hinputs input hinput)
  · intro hothers input hinput
    obtain ⟨other, hother, hsame⟩ := h.1 input hinput
    exact (hP input other hsame).mpr (hothers other hother)

/-- **The language of tag expressions, and what they select.** An expression is read just if each of its
alternatives is a term, and otherwise has a fault inside the first one that is none, at the boundary of two
characters. Several expressions are read just if each of them is, with the fault of the first one that is
not. They select what meets one alternative of each, so that neither order nor repetition counts, and no
expressions select everything. -/
theorem language_of_all (input : String) (inputs : List String) :
    ((∃ e, parse input = .ok e) ↔
        ∀ alternative ∈ alternatives input, ∃ term, TagTerm.Written alternative term) ∧
      (∀ fault, parse input = .error fault → ∃ before alternative after,
        FirstIllFormed input before alternative after ∧
          (String.Pos.Raw.mk fault.offset).IsValid input ∧ before.utf8ByteSize ≤ fault.offset ∧
          fault.offset ≤ (before ++ alternative).utf8ByteSize ∧ fault.offset ≤ input.utf8ByteSize) ∧
      ((∃ e, all inputs = .ok e) ↔ ∀ input ∈ inputs, ∃ e, parse input = .ok e) ∧
      (∀ fault, all inputs = .error fault ↔ ∃ earlier input later, inputs = earlier ++ input :: later ∧
        (∀ other ∈ earlier, ∃ e, parse other = .ok e) ∧ parse input = .error fault) ∧
      (∀ e, all inputs = .ok e → ∀ tags, e.holds tags = true ↔ ∀ input ∈ inputs, Asks input tags) ∧
      (∀ others, SameInputs inputs others →
        ((∃ e, all inputs = .ok e) ↔ ∃ e, all others = .ok e) ∧
          ∀ e other, all inputs = .ok e → all others = .ok other → ∀ tags, e.holds tags = other.holds tags) ∧
      ∃ e, all [] = .ok e ∧ ∀ tags, e.holds tags = true := by
  refine ⟨exists_parse_eq_ok_iff, fun fault h => ?_, exists_all_eq_ok_iff, fun fault => all_eq_error_iff,
    fun e h tags => holds_of_all_iff h tags, fun others h => ⟨?_, fun e other hall hother tags => ?_⟩,
    everything, rfl, fun tags => rfl⟩
  · obtain ⟨before, alternative, after, hfirst, hinside, hwhole⟩ := exists_firstIllFormed h
    obtain ⟨hlower, hupper⟩ := hinside.bounds
    refine ⟨before, alternative, after, hfirst, hwhole.isValid, hlower, ?_, hwhole.isValid.le_utf8ByteSize⟩
    rwa [String.utf8ByteSize_append, ← String.ofList_toList (s := alternative), ← Text.byteLength_eq]
  · rw [exists_all_eq_ok_iff, exists_all_eq_ok_iff]
    exact h.forall_iff fun input other hsame => hsame.exists_parse
  · rw [Bool.eq_iff_iff, holds_of_all_iff hall, holds_of_all_iff hother]
    exact h.forall_iff fun input other hsame => hsame.asks

/-- A fault behind characters of several bytes, and expressions and alternatives in another order. -/
theorem language_of_all_several_bytes :
    let input := "@é,\u3000@b c"
    parse input = .error ⟨9, .unexpectedCharacter⟩ ∧
      (∃ before alternative after, FirstIllFormed input before alternative after ∧
        (String.Pos.Raw.mk 9).IsValid input ∧ before.utf8ByteSize ≤ 9 ∧
        9 ≤ (before ++ alternative).utf8ByteSize) ∧
      SameInputs ["@a,~@b", "@c"] ["@c", "~@b,@a,@a"] ∧
      ∀ e other, all ["@a,~@b", "@c"] = .ok e → all ["@c", "~@b,@a,@a"] = .ok other →
        ∀ tags, e.holds tags = other.holds tags := by
  intro input
  obtain ⟨-, hfault, -⟩ := language_of_all input []
  obtain ⟨-, -, -, -, -, horder, -⟩ := language_of_all input ["@a,~@b", "@c"]
  have hread : parse input = .error ⟨9, .unexpectedCharacter⟩ := by decide
  have hsame : SameAlternatives "@a,~@b" "~@b,@a,@a" := by
    have hfirst : alternatives "@a,~@b" = ["@a".toList, "~@b".toList] := by decide
    have hsecond : alternatives "~@b,@a,@a" = ["~@b".toList, "@a".toList, "@a".toList] := by decide
    intro alternative
    rw [hfirst, hsecond]
    simp [or_comm]
  have hinputs : SameInputs ["@a,~@b", "@c"] ["@c", "~@b,@a,@a"] := by
    have hrefl : SameAlternatives "@c" "@c" := fun _ => Iff.rfl
    simp [SameInputs, hsame, hrefl]
  obtain ⟨before, alternative, after, hfirst, hvalid, hlower, hupper, -⟩ := hfault _ hread
  exact ⟨hread, ⟨before, alternative, after, hfirst, hvalid, hlower, hupper⟩, hinputs, (horder _ hinputs).2⟩

end TagExpression

end Acceptance
