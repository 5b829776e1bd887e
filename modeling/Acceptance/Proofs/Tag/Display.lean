import Acceptance.Proofs.Document.RowOrder
import Acceptance.Proofs.Document.TableRow
import Acceptance.Proofs.Tag.Language

/-!
# Tags and tag expressions that are displayed

A displayed expression has spaces between its clauses and commas between its alternatives, and neither stands
in a name that has been read. So the pieces between the spaces are read as the same expression again. A
displayed set of tags is a line of tags, wherever a document may have one, and yields the same set
(`TagExpression.reads_displayed`).
-/

set_option autoImplicit false

namespace Acceptance

open Acceptance.Grammar

variable {term : TagTerm} {clause : List TagTerm} {c : Char}

/-! ## Terms and clauses -/

/-- A name that can be displayed in an expression and read again. -/
structure TagTerm.Readable (term : TagTerm) : Prop where
  isTagName : IsTagName term.name.toList
  comma : ',' ∉ term.name.toList

/-- A clause that can be displayed and read again: terms, and at least one of them. -/
structure ReadableClause (clause : List TagTerm) : Prop where
  ne_nil : clause ≠ []
  terms : ∀ term ∈ clause, term.Readable

/-- The alternatives of a clause as they are written, with commas between them. -/
def displayClause (clause : List TagTerm) : String :=
  ",".intercalate (clause.map TagTerm.display)

namespace TagTerm

/-- The name in a term is that of the tag it asks for. -/
@[simp] theorem name_tag (t : String) : (tag t).name = t :=
  rfl

/-- The name in a term is that of the tag it asks to be absent. -/
@[simp] theorem name_absent (t : String) : (absent t).name = t :=
  rfl

/-- A tag that is asked for is displayed behind its marker. -/
@[simp] theorem toList_display_tag (name : String) : (tag name).display.toList = '@' :: name.toList := by
  simp [display]

/-- A tag that is asked to be absent is displayed behind both markers. -/
@[simp] theorem toList_display_absent (name : String) :
    (absent name).display.toList = '~' :: '@' :: name.toList := by
  simp [display]

/-- What is displayed of a term is its name behind markers. -/
theorem mem_display (hc : c ∈ term.display.toList) : c = '~' ∨ c = '@' ∨ c ∈ term.name.toList := by
  cases term with
  | tag name => exact .inr (by simpa using hc)
  | absent name => simpa using hc

namespace Readable

/-- The display of a readable term has no white space. -/
theorem not_isBlank (h : term.Readable) : ∀ c ∈ term.display.toList, Text.isBlank c = false := by
  intro c hc
  rcases mem_display hc with rfl | rfl | hname
  · rfl
  · rfl
  · exact (h.isTagName.2 c hname).1

/-- The display of a readable term has no comma. -/
theorem comma_notMem (h : term.Readable) : ',' ∉ term.display.toList := by
  intro hc
  rcases mem_display hc with heq | heq | hname
  · cases heq
  · cases heq
  · exact h.comma hname

/-- A term that is displayed writes itself. -/
theorem written (h : term.Readable) : term.Written term.display.toList := by
  have htrim := Text.trim_of_all_not h.not_isBlank
  cases term with
  | tag name =>
    have hwritten := Written.tag (htrim.trans (toList_display_tag name)) h.isTagName
    rwa [String.ofList_toList] at hwritten
  | absent name =>
    have hwritten := Written.absent (htrim.trans (toList_display_absent name)) h.isTagName
    rwa [String.ofList_toList] at hwritten

end Readable

/-- What an alternative writes can be displayed and read again, because no comma stands in an alternative. -/
theorem Written.readable {raw : List Char} (h : term.Written raw) (hcomma : ',' ∉ raw) : term.Readable := by
  have hsubset := Text.trim_subset raw
  cases h with
  | tag htrim hname =>
    rw [htrim] at hsubset
    refine ⟨by simpa using hname, fun hc => hcomma (hsubset ?_)⟩
    exact List.mem_cons_of_mem _ (by simpa using hc)
  | absent htrim hname =>
    rw [htrim] at hsubset
    refine ⟨by simpa using hname, fun hc => hcomma (hsubset ?_)⟩
    exact List.mem_cons_of_mem _ (List.mem_cons_of_mem _ (by simpa using hc))

end TagTerm

namespace ReadableClause

/-- A clause is displayed as its terms with commas between them. -/
theorem toList_display (clause : List TagTerm) :
    (displayClause clause).toList = [','].intercalate (clause.map fun term => term.display.toList) := by
  rw [displayClause, String.toList_intercalate, List.map_map]
  rfl

/-- No blank stands in a clause that is displayed. -/
theorem not_isBlank (h : ReadableClause clause) :
    ∀ c ∈ (displayClause clause).toList, Text.isBlank c = false := by
  intro c hc
  by_contra hblank
  rw [toList_display] at hc
  refine Text.notMem_intercalate ?_ ?_ hc
  · rintro hcomma
    rw [List.mem_singleton.mp hcomma] at hblank
    exact hblank rfl
  · intro piece hpiece hmem
    obtain ⟨term, hterm, rfl⟩ := List.mem_map.mp hpiece
    exact hblank ((h.terms term hterm).not_isBlank c hmem)

/-- The alternatives of a clause that is displayed are its terms. -/
theorem alternatives_display (h : ReadableClause clause) :
    TagExpression.alternatives (displayClause clause) = clause.map fun term => term.display.toList := by
  rw [TagExpression.alternatives, toList_display]
  refine Text.cutAt_intercalate (by simpa using h.ne_nil) fun piece hpiece => ?_
  obtain ⟨term, hterm, rfl⟩ := List.mem_map.mp hpiece
  exact (h.terms term hterm).comma_notMem

/-- **A clause that is displayed** is read as the expression of this clause. -/
theorem parse_display (h : ReadableClause clause) : TagExpression.parse (displayClause clause) = .ok ⟨[clause]⟩ := by
  refine TagExpression.parse_eq_ok_iff.mpr ⟨clause, rfl, ?_⟩
  rw [h.alternatives_display, List.forall₂_map_left_iff]
  exact List.forall₂_same.mpr fun term hterm => (h.terms term hterm).written

end ReadableClause

/-! ## Expressions -/

namespace TagExpression

variable {input : String} {inputs others : List String} {e other : TagExpression}

/-- An expression that can be displayed and read again. -/
def Readable (e : TagExpression) : Prop :=
  ∀ clause ∈ e.clauses, ReadableClause clause

/-- What stands between the spaces of a text. -/
def pieces (text : String) : List String :=
  (Text.cutAt (· == ' ') text.toList).map String.ofList

/-- How an expression can be made from inputs: read from one of them, read from all of them, or put together
from expressions that are made of some of them each. -/
inductive MadeFrom : List String → TagExpression → Prop where
  | parse {input : String} {e : TagExpression} : parse input = .ok e → MadeFrom [input] e
  | all {inputs : List String} {e : TagExpression} : all inputs = .ok e → MadeFrom inputs e
  | and {inputs others : List String} {e other : TagExpression} : MadeFrom inputs e →
      MadeFrom others other → MadeFrom (inputs ++ others) (e.and other)

/-- What has been read is readable. -/
theorem readable_of_parse (h : parse input = .ok e) : e.Readable := by
  obtain ⟨terms, rfl, hterms⟩ := parse_eq_ok_iff.mp h
  refine List.forall_mem_singleton.mpr ⟨?_, fun term hterm => ?_⟩
  · rintro rfl
    exact Text.cutAt_ne_nil _ _ (List.forall₂_nil_right_iff.mp hterms)
  · obtain ⟨raw, hraw, hwritten⟩ := exists_left_of_mem hterms hterm
    exact hwritten.readable fun hcomma => Text.not_of_mem_cutAt hraw ',' hcomma (beq_self_eq_true _)

/-- Readable expressions are readable together. -/
theorem Readable.and (h : e.Readable) (hother : other.Readable) : (e.and other).Readable := by
  intro clause hclause
  rcases List.mem_append.mp hclause with hclause | hclause
  · exact h clause hclause
  · exact hother clause hclause

/-- What has been read from several inputs is readable. -/
theorem readable_of_all (h : all inputs = .ok e) : e.Readable := by
  induction inputs generalizing e with
  | nil =>
    cases h
    exact List.forall_mem_nil _
  | cons input inputs ih =>
    obtain ⟨first, rest, hfirst, hrest, rfl⟩ := all_cons_eq_ok.mp h
    exact (readable_of_parse hfirst).and (ih hrest)

/-- **What is made from inputs** can be displayed and read again. -/
theorem MadeFrom.readable (h : MadeFrom inputs e) : e.Readable := by
  induction h with
  | parse hread => exact readable_of_parse hread
  | all hread => exact readable_of_all hread
  | and _ _ ih ihOther => exact ih.and ihOther

/-- Each input gives one clause. -/
theorem length_clauses_of_all (h : all inputs = .ok e) : e.clauses.length = inputs.length := by
  induction inputs generalizing e with
  | nil =>
    cases h
    rfl
  | cons input inputs ih =>
    obtain ⟨first, rest, hfirst, hrest, rfl⟩ := all_cons_eq_ok.mp h
    obtain ⟨terms, rfl, -⟩ := parse_eq_ok_iff.mp hfirst
    rw [and, List.length_append, ih hrest, List.length_cons, Nat.add_comm]
    rfl

/-- Each of the inputs is a clause of what is made from them. -/
theorem MadeFrom.length_clauses (h : MadeFrom inputs e) : e.clauses.length = inputs.length := by
  induction h with
  | parse hread =>
    obtain ⟨terms, rfl, -⟩ := parse_eq_ok_iff.mp hread
    rfl
  | all hread => exact length_clauses_of_all hread
  | and _ _ ih ihOther => rw [TagExpression.and, List.length_append, List.length_append, ih, ihOther]

/-- The pieces of an expression that is displayed are its clauses. -/
theorem Readable.pieces_display (h : e.Readable) (hne : e.clauses ≠ []) :
    pieces e.display = e.clauses.map displayClause := by
  have hdisplay : e.display.toList = [' '].intercalate (e.clauses.map fun clause => (displayClause clause).toList) := by
    rw [display, String.toList_intercalate, List.map_map]
    rfl
  rw [pieces, hdisplay, Text.cutAt_intercalate (by simpa using hne), List.map_map]
  · simp [Function.comp_def]
  · intro piece hpiece hspace
    obtain ⟨clause, hclause, rfl⟩ := List.mem_map.mp hpiece
    exact absurd ((h clause hclause).not_isBlank ' ' hspace) (by decide)

/-- Clauses that are displayed are read as the expression of these clauses. -/
theorem all_display (clauses : List (List TagTerm)) (h : ∀ clause ∈ clauses, ReadableClause clause) :
    all (clauses.map displayClause) = .ok ⟨clauses⟩ := by
  induction clauses with
  | nil => rfl
  | cons clause clauses ih =>
    obtain ⟨hclause, hrest⟩ := List.forall_mem_cons.mp h
    rw [List.map_cons, all_cons_of_ok hclause.parse_display, ih hrest]
    rfl

end TagExpression

/-! ## Lines of tags -/

namespace Text

/-- Words that are put together with spaces come back. -/
theorem words_intercalate {ws : List (List Char)} (h : ∀ word ∈ ws, word ≠ [] ∧ ∀ c ∈ word, isBlank c = false) :
    words ([' '].intercalate ws) = ws := by
  induction ws with
  | nil => rfl
  | cons word ws ih =>
    obtain ⟨⟨hne, hword⟩, hws⟩ := List.forall_mem_cons.mp h
    cases ws with
    | nil => rw [List.intercalate_singleton, words_of_all_not hne hword]
    | cons next ws =>
      have hspace : isBlank ' ' = true := rfl
      rw [List.intercalate_cons_cons, List.append_assoc, List.singleton_append, words_append_cons hspace,
        words_of_all_not hne hword, ih hws]
      rfl

/-- White space before a text adds no word. -/
theorem words_append_of_all_left {blanks : List Char} (h : blanks.all isBlank = true) (cs : List Char) :
    words (blanks ++ cs) = words cs := by
  rw [← words_trim, trim_append_of_all_left h, words_trim]

end Text

namespace Parser

variable {p : Parser} {line : String} {row : Transition} {names : List String}

/-- A line of words that are written as tags has their names as its parts. -/
theorem partsOf_tags (p : Parser) (hne : Text.words line.toList ≠ [])
    (h : ∀ word ∈ Text.words line.toList, isTagWord word = true) :
    p.partsOf .tags line =
      .ok (some ((Text.words line.toList).map fun word => String.ofList (word.dropWhile (· == '@')))) := by
  have hparts : tagsParts line.toList = some [Text.trim line.toList] := by
    unfold tagsParts
    exact if_pos (by simpa [hne] using h)
  simp [partsOf, Matcher.parts?, Matcher.pattern?, hparts, Text.words_trim]

end Parser

/-- Where there is a row for tags, it fires on them and comes behind rows of other classes with patterns. -/
theorem Grammar.rows_of_tags : ∀ s : State, ∀ row ∈ standard.rows s, row.matcher = .tags →
    .tags ∈ row.actions ∧ (standard.rows s).find? (fun other =>
      other.matcher == .tags || other.matcher.lineClass?.isNone) = some row := by
  intro s
  cases s <;> decide

/-- **A line of tags** is reported with its names, wherever there is a row for tags. -/
theorem Parser.report_of_tags {p : Parser} {line : String} {row : Transition} {names : List String}
    (hrow : row ∈ standard.rows p.state) (hmatcher : row.matcher = .tags)
    (h : (p.count (some line)).partsOf .tags line = .ok (some names)) :
    (p.report (some line)).fault = none ∧ .tags names ∈ (p.report (some line)).events ∧
      (p.report (some line)).parser.lastMatch = some ⟨.tags, names⟩ := by
  obtain ⟨haction, hfind⟩ := Grammar.rows_of_tags p.state row hrow hmatcher
  obtain ⟨-, before, after, hsplit, hbefore⟩ := List.find?_eq_some_iff_append.mp hfind
  have hfirst : (p.count (some line)).firstRow (some line) (standard.rows p.state) = .ok (some (row, names)) := by
    rw [hsplit]
    refine firstRow_of_partsOf (fun other hother => ?_) (by rw [hmatcher]; rfl) (by rwa [hmatcher])
    have hother := hbefore other hother
    rw [hmatcher]
    simpa [and_comm] using hother
  have hread : (p.count (some line)).read (some line) = .fires row names := by
    rw [read, state_count, hfirst]
  obtain ⟨events, hevents, hreport⟩ := report_of_fires hread
  obtain ⟨event, hevent, hreports⟩ := exists_right_of_mem hevents haction
  cases hreports
  rw [hreport, hmatcher]
  exact ⟨rfl, hevent, rfl⟩

namespace TagSet

variable {tags : TagSet}

/-- Whether every name in the set can stand on a line of tags: it has characters, no blank among them, and no
marker as the first one. -/
def Writable (tags : TagSet) : Prop :=
  ∀ name ∈ tags, name ≠ "" ∧ (∀ c ∈ name.toList, Text.isBlank c = false) ∧ name.toList.head? ≠ some '@'

instance (tags : TagSet) : Decidable tags.Writable :=
  decidable_of_iff ((tags.names.all fun name =>
      name != "" && name.toList.all (!Text.isBlank ·) && name.toList.head? != some '@') = true) <| by
    unfold Writable
    simp [and_assoc, Membership.mem]

/-- The words of the display of tags are the tags behind their markers. -/
theorem words_display (h : tags.Writable) {indentation : String} (hblank : Text.isBlankText indentation = true) :
    Text.words (indentation ++ tags.display).toList = tags.names.map fun name => '@' :: name.toList := by
  have hdisplay : tags.display.toList = [' '].intercalate (tags.names.map fun name => '@' :: name.toList) := by
    rw [display, String.toList_intercalate, List.map_map]
    simp [Function.comp_def]
  rw [String.toList_append, Text.words_append_of_all_left hblank, hdisplay]
  refine Text.words_intercalate fun word hword => ?_
  obtain ⟨name, hname, rfl⟩ := List.mem_map.mp hword
  exact ⟨List.cons_ne_nil _ _, List.forall_mem_cons.mpr ⟨rfl, (h name hname).2.1⟩⟩

/-- A set of tags that is displayed has the names of the set as its parts. -/
theorem partsOf_display (h : tags.Writable) (hne : tags ≠ ∅) {indentation : String}
    (hblank : Text.isBlankText indentation = true) (p : Parser) :
    p.partsOf .tags (indentation ++ tags.display) = .ok (some tags.names) := by
  have hwords := words_display h hblank
  have hnames : tags.names ≠ [] := by
    intro hnil
    exact hne (TagSet.ext_mem fun name => by
      show name ∈ tags.names ↔ name ∈ []
      rw [hnil])
  rw [p.partsOf_tags (by rw [hwords]; simpa using hnames), hwords, List.map_map]
  · have hname : ∀ name ∈ tags.names,
        String.ofList (('@' :: name.toList).dropWhile (· == '@')) = name := by
      intro name hname
      have hhead := (h name hname).2.2
      have hrest : name.toList.dropWhile (· == '@') = name.toList := by
        cases hchars : name.toList with
        | nil => rfl
        | cons c cs => exact List.dropWhile_cons_of_neg (by simpa [hchars] using hhead)
      rw [List.dropWhile_cons_of_pos rfl, hrest, String.ofList_toList]
    rw [Function.comp_def, List.map_congr_left hname, List.map_id']
  · intro word hword
    rw [hwords] at hword
    obtain ⟨name, hname, rfl⟩ := List.mem_map.mp hword
    have hchars : name.toList ≠ [] := by simpa using (h name hname).1
    obtain ⟨c, cs, hcs⟩ := List.exists_cons_of_ne_nil hchars
    rw [hcs]
    rfl

/-- Tags are the set of their names. -/
theorem ofList_names (tags : TagSet) : ofList tags.names = tags :=
  ext_mem fun _ => mem_ofList

end TagSet

/-- **What is displayed is read back.** An expression that is made from inputs, one at least, is the
expression that all pieces of its display together are read as. A set of tags is displayed as a line of tags,
whatever the indentation, and every parser that takes lines of tags reports the names of this set. -/
theorem TagExpression.reads_displayed :
    (∀ inputs e, MadeFrom inputs e → inputs ≠ [] → all (pieces e.display) = .ok e) ∧
      ∀ (tags : TagSet) (indentation : String), tags ≠ ∅ → tags.Writable →
        Text.isBlankText indentation = true →
        LineClass.ofLine (indentation ++ tags.display) = .tags ∧
          ∀ p : Parser, (∃ row ∈ standard.rows p.state, row.matcher = .tags) →
            let read := p.report (some (indentation ++ tags.display))
            read.fault = none ∧ ∃ names, .tags names ∈ read.events ∧
              read.parser.lastMatch = some ⟨.tags, names⟩ ∧ TagSet.ofList names = tags := by
  refine ⟨fun inputs e hmade hne => ?_, fun tags indentation hne hwritable hblank => ⟨?_, ?_⟩⟩
  · have hclauses : e.clauses ≠ [] := by
      rw [← List.length_pos_iff, hmade.length_clauses]
      exact List.length_pos_iff.mpr hne
    rw [hmade.readable.pieces_display hclauses]
    exact all_display e.clauses hmade.readable
  · exact Parser.ofLine_of_partsOf (TagSet.partsOf_display hwritable hne hblank {}) rfl
  · rintro p ⟨row, hrow, hmatcher⟩
    obtain ⟨hfault, htags, hmatch⟩ :=
      Parser.report_of_tags hrow hmatcher (TagSet.partsOf_display hwritable hne hblank _)
    exact ⟨hfault, tags.names, htags, hmatch, tags.ofList_names⟩

/-- An expression made in three ways at once, and tags that expressions have no use for. -/
theorem TagExpression.reads_displayed_mixed :
    let e : TagExpression := ⟨[[.tag "a"], [.tag "b", .absent "c"], [.absent "é"]]⟩
    let tags := TagSet.ofList ["b,~c", "a@"]
    MadeFrom ["@a", "@b, ~@c", "~@é"] e ∧ all (pieces e.display) = .ok e ∧
      ∃ names, .tags names ∈ (({} : Parser).report (some ("\t\u3000" ++ tags.display))).events ∧
        TagSet.ofList names = tags := by
  intro e tags
  obtain ⟨hexpressions, htags⟩ := reads_displayed
  have hmade : MadeFrom ["@a", "@b, ~@c", "~@é"] e := by
    have hfirst : parse "@a" = .ok ⟨[[.tag "a"]]⟩ := by decide
    have hrest : all ["@b, ~@c", "~@é"] = .ok ⟨[[.tag "b", .absent "c"], [.absent "é"]]⟩ := by decide
    exact .and (.parse hfirst) (.all hrest)
  have hwritable : tags.Writable := by decide
  obtain ⟨-, hreport⟩ := htags tags "\t\u3000" (by decide) hwritable (by decide)
  obtain ⟨-, names, hevent, -, hnames⟩ := hreport {} ⟨⟨.tags, [.tags], .start⟩, by decide, rfl⟩
  exact ⟨hmade, hexpressions _ _ hmade (by decide), names, hevent, hnames⟩

end Acceptance
