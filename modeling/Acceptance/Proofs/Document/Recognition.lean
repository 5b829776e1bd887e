import Acceptance.Proofs.Document.Language
import Acceptance.Proofs.Document.Transcript

/-!
# What a parser accepts

A document is divided into pieces: multiline blocks, and the lines outside of them. The pieces that count
make a word, and the parser accepts the document just if the word belongs to the language of documents
(`Session.parseText_eq_ok_iff`). The two sides are taken apart line by line. Outside of a multiline block a
line takes the parser where its class takes the state; within one, the parser waits for the delimiter of
the width that it has noted.
-/

set_option autoImplicit false

namespace Acceptance

open Acceptance.Grammar

/-! ## Pieces -/

namespace Grammar

/-- Whether a line is a multiline delimiter behind `w` blanks. -/
def Delimits (w : Nat) (line : String) : Prop :=
  LineClass.ofLine line = .delimiter ∧ width line = w

/-- Whether a line can be content of a multiline block whose delimiters stand behind `w` blanks. -/
def Within (w : Nat) (line : String) : Prop :=
  (Text.isBlankText line = true ∨ w ≤ width line) ∧ ¬ Delimits w line

instance (w : Nat) (line : String) : Decidable (Delimits w line) :=
  inferInstanceAs (Decidable (_ ∧ _))

end Grammar

/-- The lines of a multiline block: a delimiter, content, and a delimiter of the same width. -/
structure MultilineBlock where
  opening : String
  content : List String
  closing : String
  opens : LineClass.ofLine opening = .delimiter
  within : ∀ line ∈ content, Within (width opening) line
  closes : Delimits (width opening) closing

/-- A multiline block, or a line outside of one. -/
inductive Piece where
  | line (text : String)
  | block (b : MultilineBlock)

namespace Piece

/-- The lines that a piece of a document takes. -/
def lines : Piece → List String
  | line text => [text]
  | block b => b.opening :: (b.content ++ [b.closing])

/-- The symbol of a piece, if it counts. -/
def symbol? : Piece → Option Symbol
  | line text => (LineClass.ofLine text).symbol?
  | block _ => some .block

end Piece

/-- Lines that can be divided into pieces whose symbols are as wanted. -/
def Divides (wanted : List Symbol → Prop) (lines : List String) : Prop :=
  ∃ pieces : List Piece, pieces.flatMap Piece.lines = lines ∧ wanted (pieces.filterMap Piece.symbol?)

/-- **What a document is**: lines whose pieces make a word of the language of documents. -/
def IsDocument (lines : List String) : Prop :=
  Divides (· ∈ Document.document.matches') lines

/-- Lines that may follow in a state. -/
def Grammar.State.Reads (s : State) (lines : List String) : Prop :=
  Divides (· ∈ s.residual.matches') lines

/-- Lines that may follow within a multiline block of width `w` that leads to a state. -/
def Grammar.State.ReadsBehind (t : State) (w : Nat) (lines : List String) : Prop :=
  ∃ content closing rest, lines = content ++ closing :: rest ∧ (∀ line ∈ content, Within w line) ∧
    Delimits w closing ∧ t.Reads rest

section Pieces

variable {wanted : List Symbol → Prop} {line : String} {lines : List String} {s t : State} {w : Nat}

/-- No lines are divided into no pieces. -/
theorem divides_nil : Divides wanted [] ↔ wanted [] := by
  constructor
  · rintro ⟨pieces, hlines, hword⟩
    cases pieces with
    | nil => exact hword
    | cons piece pieces => cases piece <;> cases hlines
  · exact fun hword => ⟨[], rfl, hword⟩

/-- The first piece of a division is the first line alone, or the block that this opens. -/
theorem divides_cons :
    Divides wanted (line :: lines) ↔
      Divides (fun word => wanted ((Piece.line line).symbol?.toList ++ word)) lines ∨
      ∃ b : MultilineBlock, b.opening = line ∧ ∃ rest, lines = b.content ++ b.closing :: rest ∧
        Divides (fun word => wanted (.block :: word)) rest := by
  have hsymbols (piece : Piece) (pieces : List Piece) :
      (piece :: pieces).filterMap Piece.symbol? =
        piece.symbol?.toList ++ pieces.filterMap Piece.symbol? := by
    cases hsymbol : piece.symbol? with
    | none => rw [List.filterMap_cons_none hsymbol, Option.toList_none, List.nil_append]
    | some a => rw [List.filterMap_cons_some hsymbol, Option.toList_some, List.singleton_append]
  constructor
  · rintro ⟨pieces, hlines, hword⟩
    cases pieces with
    | nil => cases hlines
    | cons piece pieces =>
      rw [List.flatMap_cons] at hlines
      rw [hsymbols] at hword
      cases piece with
      | line text =>
        obtain ⟨rfl, hrest⟩ := List.cons.inj hlines
        exact .inl ⟨pieces, hrest, hword⟩
      | block b =>
        obtain ⟨rfl, hrest⟩ := List.cons.inj hlines
        refine .inr ⟨b, rfl, pieces.flatMap Piece.lines, ?_, pieces, rfl, hword⟩
        rw [← hrest, List.append_eq, List.append_assoc, List.singleton_append]
  · rintro (⟨pieces, rfl, hword⟩ | ⟨b, rfl, _, rfl, pieces, rfl, hword⟩)
    · exact ⟨.line line :: pieces, rfl, by rwa [hsymbols]⟩
    · refine ⟨.block b :: pieces, ?_, by rwa [hsymbols]⟩
      rw [List.flatMap_cons, Piece.lines, List.cons_append, List.append_assoc, List.singleton_append]

/-- The end of input is read where the state has a row for it. -/
theorem Grammar.State.reads_nil : s.Reads [] ↔ ∃ row ∈ standard.rows s, row.matcher = .endOfInput :=
  divides_nil.trans nil_mem_residual

/-- Lines are read with the first one as a line, or as the opening of a multiline block. -/
theorem Grammar.State.reads_cons :
    s.Reads (line :: lines) ↔
      (∃ t, s.step? (.ofLine line) = some t ∧ t.Reads lines) ∨
      ∃ t, LineClass.ofLine line = .delimiter ∧ s.after? .block = some t ∧
        t.ReadsBehind (width line) lines := by
  unfold Reads
  rw [divides_cons]
  refine or_congr ?_ ?_
  · have hline : (Piece.line line).symbol? = (LineClass.ofLine line).symbol? := rfl
    rw [hline]
    unfold step?
    cases hsymbol : (LineClass.ofLine line).symbol? with
    | none => simp
    | some a =>
      have ha : a ≠ .line .comment := by
        rintro rfl
        exact (LineClass.ofLine line).symbol?_ne_comment hsymbol
      simp only [Option.toList_some, List.singleton_append, cons_mem_residual ha]
      constructor
      · rintro ⟨pieces, hlines, t, hafter, hword⟩
        exact ⟨t, hafter, pieces, hlines, hword⟩
      · rintro ⟨t, hafter, pieces, hlines, hword⟩
        exact ⟨pieces, hlines, t, hafter, hword⟩
  · have hblock : Symbol.block ≠ .line .comment := by decide
    simp only [cons_mem_residual hblock]
    constructor
    · rintro ⟨b, rfl, rest, rfl, pieces, hlines, t, hafter, hword⟩
      exact ⟨t, b.opens, hafter, b.content, b.closing, rest, rfl, b.within, b.closes, pieces, hlines,
        hword⟩
    · rintro ⟨t, hopens, hafter, content, closing, rest, rfl, hwithin, hcloses, pieces, hlines, hword⟩
      exact ⟨⟨line, content, closing, hopens, hwithin, hcloses⟩, rfl, rest, rfl, pieces, hlines, t,
        hafter, hword⟩

/-- Behind the opening of a block a line closes it, or belongs to it. -/
theorem Grammar.State.readsBehind_cons :
    t.ReadsBehind w (line :: lines) ↔
      (Delimits w line ∧ t.Reads lines) ∨ (Within w line ∧ t.ReadsBehind w lines) := by
  constructor
  · rintro ⟨content, closing, rest, hlines, hwithin, hcloses, hrest⟩
    cases content with
    | nil =>
      obtain ⟨rfl, rfl⟩ := List.cons.inj hlines
      exact .inl ⟨hcloses, hrest⟩
    | cons first content =>
      obtain ⟨rfl, rfl⟩ := List.cons.inj hlines
      obtain ⟨hfirst, hcontent⟩ := List.forall_mem_cons.mp hwithin
      exact .inr ⟨hfirst, content, closing, rest, rfl, hcontent, hcloses, hrest⟩
  · rintro (⟨hcloses, hrest⟩ | ⟨hfirst, content, closing, rest, rfl, hcontent, hcloses, hrest⟩)
    · exact ⟨[], line, lines, rfl, by simp, hcloses, hrest⟩
    · exact ⟨line :: content, closing, rest, rfl, List.forall_mem_cons.mpr ⟨hfirst, hcontent⟩, hcloses,
        hrest⟩

/-- A block that is not closed is not read. -/
theorem Grammar.State.not_readsBehind_nil : ¬ t.ReadsBehind w [] := by
  rintro ⟨content, closing, rest, hlines, -⟩
  cases content <;> cases hlines

end Pieces

/-! ## Lines outside of multiline blocks -/

namespace Grammar

/-- Outside blocks no row looks for the end or for the content of one. -/
theorem State.matcher_ne_of_afterBlock? : ∀ s : State, s.afterBlock? = none → ∀ row ∈ standard.rows s,
    row.matcher ≠ .multilineClose ∧ row.matcher ≠ .multilineContent := by
  intro s
  cases s <;> decide

/-- Only an opening delimiter leads into a block. -/
theorem State.row_of_afterBlock? : ∀ s : State, s.afterBlock? = none → ∀ row ∈ standard.rows s,
    row.next.afterBlock? ≠ none → row.matcher = .multilineOpen ∧ row.actions = [.startMultiline] := by
  intro s
  cases s <;> decide

/-- No line ends a document. -/
theorem State.step?_ne_ended : ∀ (s : State) (c : LineClass), s ≠ .ended → s.step? c ≠ some .ended := by
  intro s c
  cases s <;> cases c <;> decide

/-- Inside a block there are the rows of blocks only, and the document cannot end. -/
theorem State.inside_of_afterBlock? : ∀ s t : State, s.afterBlock? = some t →
    standard.rows s = multilineRows s t ∧ s.residual = 0 ∧ t.afterBlock? = none ∧ t ≠ .ended := by
  intro s t h
  cases s <;> cases h <;> exact ⟨rfl, rfl, rfl, by decide⟩

end Grammar

namespace Parser

variable {p : Parser} {line : String} {lines : List String} {rows : List Transition} {t : State} {w : Nat}

/-- Outside blocks a matcher takes a line just where it takes lines of that class. -/
theorem isSome_partsOf {m : Matcher} (hclose : m ≠ .multilineClose) (hcontent : m ≠ .multilineContent)
    (hline : '\n' ∉ line.toList) :
    ∃ parts, p.partsOf m line = .ok parts ∧ parts.isSome = m.takes (.ofLine line) := by
  have hparts := Matcher.isSome_parts? hclose hline
  cases m with
  | multilineClose => exact absurd rfl hclose
  | multilineContent => exact absurd rfl hcontent
  | endOfInput => exact ⟨none, rfl, hparts⟩
  | multilineOpen => exact ⟨_, rfl, hparts⟩
  | _ => exact ⟨_, rfl, by rw [Option.isSome_map, hparts]⟩

/-- The first row that takes the class of a line accepts the line. -/
theorem firstRow_eq (hrows : ∀ row ∈ rows, row.matcher ≠ .multilineClose ∧
      row.matcher ≠ .multilineContent) (hline : '\n' ∉ line.toList) :
    ∃ parts, p.firstRow (some line) rows =
      .ok ((rows.find? fun row => row.matcher.takes (.ofLine line)).map fun row => (row, parts)) := by
  induction rows with
  | nil => exact ⟨[], rfl⟩
  | cons row rows ih =>
    obtain ⟨hrow, hrest⟩ := List.forall_mem_cons.mp hrows
    obtain ⟨parts?, hparts, htakes⟩ := isSome_partsOf (p := p) hrow.1 hrow.2 hline
    unfold firstRow
    dsimp only
    rw [hparts]
    cases parts? with
    | some parts =>
      rw [List.find?_cons_of_pos (by rw [← htakes, Option.isSome_some])]
      exact ⟨parts, rfl⟩
    | none =>
      rw [List.find?_cons_of_neg (by rw [← htakes, Option.isSome_none]; exact Bool.false_ne_true)]
      exact ih hrest

/-- **A line outside of a multiline block** takes the parser where its class takes the state. -/
theorem report_outside (houtside : p.state.afterBlock? = none) (hended : p.state ≠ .ended)
    (hline : '\n' ∉ line.toList) :
    ((p.report (some line)).fault = none ∧
        p.state.step? (.ofLine line) = some (p.report (some line)).parser.state ∧
        ((p.report (some line)).parser.state.afterBlock? ≠ none →
          LineClass.ofLine line = .delimiter ∧
            (p.report (some line)).parser.indent = some (width line))) ∨
      ((p.report (some line)).fault ≠ none ∧ p.state.step? (.ofLine line) = none) := by
  rw [State.step?_eq p.state _ houtside hended]
  have hstate : (p.count (some line)).state = p.state := state_count p (some line)
  have hrows := p.state.matcher_ne_of_afterBlock? houtside
  obtain ⟨parts, hfirst⟩ := firstRow_eq (p := p.count (some line)) hrows hline
  cases hfind : (standard.rows p.state).find? fun row => row.matcher.takes (.ofLine line) with
  | some row =>
    have hnext : p.state.next? (.ofLine line) = some row.next := by rw [State.next?, hfind]; rfl
    have hnotBlank : LineClass.ofLine line ≠ .blank := by
      intro hblank
      have htakes := List.find?_some hfind
      rw [hblank] at htakes
      revert htakes
      cases row.matcher <;> decide
    have hread : (p.count (some line)).read (some line) = .fires row parts := by
      rw [read, hstate, hfirst, hfind]
      rfl
    obtain ⟨events, hevents, hreport⟩ := report_of_fires hread
    rw [hreport, if_neg hnotBlank, hnext]
    refine .inl ⟨rfl, rfl, fun hinside => ?_⟩
    obtain ⟨hmatcher, hactions⟩ :=
      p.state.row_of_afterBlock? houtside row (List.mem_of_find?_eq_some hfind) hinside
    have haccepts := (mem_and_accepts_of_read hread).2
    rw [Accepts, hmatcher, partsOf, Except.ok.injEq] at haccepts
    have hclass := (LineClass.ofLine_eq_iff rfl line).mpr (Option.isSome_of_eq_some haccepts)
    -- the width is noted when the beginning of the block is reported
    rw [hactions] at hevents
    cases hevents with
    | cons hevent hnil =>
      cases hnil
      cases hevent
      exact ⟨hclass, congrArg some (Matcher.length_headD_of_delimiter haccepts)⟩
  | none =>
    have hnext : p.state.next? (.ofLine line) = none := by rw [State.next?, hfind]; rfl
    by_cases hblank : LineClass.ofLine line = .blank
    · have hread : (p.count (some line)).read (some line) = .blank line := by
        rw [read, hstate, hfirst, hfind]
        exact if_pos (LineClass.ofLine_eq_blank.mp hblank)
      rw [report_of_blank hread, if_pos hblank, hstate]
      exact .inl ⟨rfl, rfl, fun hinside => absurd houtside hinside⟩
    · have hread : ∃ fault, (p.count (some line)).read (some line) = .fault fault := by
        rw [read, hstate, hfirst, hfind]
        exact ⟨_, if_neg fun h => hblank (LineClass.ofLine_eq_blank.mpr h)⟩
      obtain ⟨fault, hread⟩ := hread
      rw [report_of_fault hread, if_neg hblank]
      exact .inr ⟨by simp, hnext⟩

/-! ## Lines within multiline blocks -/

/-- A line closes a block if it delimits one of that indentation. -/
theorem partsOf_multilineClose (hindent : p.indent = some w) :
    p.partsOf .multilineClose line = .ok (if Delimits w line then some [] else none) := by
  have hclass : LineClass.ofLine line = .delimiter ↔ (Matcher.multilineOpen.parts? line).isSome = true :=
    LineClass.ofLine_eq_iff rfl line
  have hclose : Matcher.multilineClose.parts? line = Matcher.multilineOpen.parts? line := rfl
  unfold partsOf
  dsimp only
  rw [hclose, hindent]
  cases hparts : Matcher.multilineOpen.parts? line with
  | none =>
    rw [if_neg fun hcloses : Delimits w line => ?_]
    have hsome := hclass.mp hcloses.1
    rw [hparts] at hsome
    cases hsome
  | some parts =>
    have hdelimits : Delimits w line ↔ some w = some (parts.headD "").length := by
      unfold Delimits
      rw [hclass, hparts, Matcher.length_headD_of_delimiter hparts]
      simp [eq_comm]
    dsimp only
    simp only [hdelimits]

/-- **What a line means within a multiline block.** -/
theorem read_within (hinside : p.state.afterBlock? = some t) (hindent : p.indent = some w)
    (line : String) :
    p.read (some line) =
      if Delimits w line then .fires ⟨.multilineClose, [.finishMultiline, .finishStep], t⟩ []
      else if width line < w ∧ Text.isBlankText line = false then .fault (.dedent p.lineNumber w line)
      else .fires ⟨.multilineContent, [.multilineData], p.state⟩ [String.ofList (line.toList.drop w)] := by
  obtain ⟨hrows, -⟩ := p.state.inside_of_afterBlock? t hinside
  have hcontent : p.partsOf .multilineContent line =
      if width line < w ∧ Text.isBlankText line = false then .error (.dedent p.lineNumber w line)
      else .ok (some [String.ofList (line.toList.drop w)]) := by
    unfold partsOf contentParts
    rw [hindent]
    dsimp only [Option.getD_some]
    by_cases hdedent : width line < w ∧ Text.isBlankText line = false
    · rw [if_pos hdedent, if_pos (by simpa [width] using hdedent)]
      rfl
    · rw [if_neg hdedent, if_neg (by simpa [width] using hdedent)]
      rfl
  unfold Parser.read
  rw [hrows, multilineRows, firstRow, partsOf_multilineClose hindent]
  by_cases hcloses : Delimits w line
  · rw [if_pos hcloses, if_pos hcloses]
  · rw [if_neg hcloses, if_neg hcloses]
    dsimp only
    rw [firstRow, hcontent]
    by_cases hdedent : width line < w ∧ Text.isBlankText line = false
    · rw [if_pos hdedent, if_pos hdedent]
    · rw [if_neg hdedent, if_neg hdedent]

/-- **A line within a multiline block** ends the block, or is content of it, or is a fault. -/
theorem report_within (line : String) (hinside : p.state.afterBlock? = some t) (hindent : p.indent = some w) :
    (Delimits w line ∧ (p.report (some line)).fault = none ∧
        (p.report (some line)).parser.state = t) ∨
      (Within w line ∧ (p.report (some line)).fault = none ∧
        (p.report (some line)).parser.state = p.state ∧
        (p.report (some line)).parser.indent = some w) ∨
      (¬ Delimits w line ∧ ¬ Within w line ∧ (p.report (some line)).fault ≠ none) := by
  have hstate : (p.count (some line)).state = p.state := state_count p (some line)
  have hindent' : (p.count (some line)).indent = some w := by rw [indent_count, hindent]
  have hread := read_within (p := p.count (some line)) (by rwa [hstate]) hindent' line
  by_cases hcloses : Delimits w line
  · rw [if_pos hcloses] at hread
    obtain ⟨events, -, hreport⟩ := report_of_fires hread
    rw [hreport]
    exact .inl ⟨hcloses, rfl, rfl⟩
  · rw [if_neg hcloses] at hread
    by_cases hdedent : width line < w ∧ Text.isBlankText line = false
    · rw [if_pos hdedent] at hread
      rw [report_of_fault hread]
      refine .inr (.inr ⟨hcloses, fun hwithin => ?_, by simp⟩)
      rcases hwithin.1 with hblank | hwide
      · exact Bool.false_ne_true (hdedent.2.symm.trans hblank)
      · omega
    · rw [if_neg hdedent, hstate] at hread
      obtain ⟨events, hevents, hreport⟩ := report_of_fires hread
      rw [hreport]
      refine .inr (.inl ⟨⟨?_, hcloses⟩, rfl, rfl, ?_⟩)
      · by_cases hblank : Text.isBlankText line = true
        · exact .inl hblank
        · refine .inr (Nat.le_of_not_lt fun hnarrow => hdedent ⟨hnarrow, ?_⟩)
          exact Bool.not_eq_true _ ▸ hblank
      · cases hevents with
        | cons hevent hnil =>
          cases hnil
          cases hevent
          exact hindent

/-! ## Documents -/

/-- Whether a parser comes through the lines and then through the end of input. -/
def Recognises (p : Parser) (lines : List String) : Prop :=
  ((p.reportAll lines).andThen fun q => q.report none).fault = none

/-- At the end of input the row for that is sought, and none is tried that reads a line. -/
theorem firstRow_none : p.firstRow none rows =
    .ok ((rows.find? fun row => row.matcher = .endOfInput).map fun row => (row, [])) := by
  induction rows with
  | nil => rfl
  | cons row rows ih =>
    unfold firstRow
    dsimp only
    by_cases hend : row.matcher = .endOfInput
    · rw [if_pos hend, List.find?_cons_of_pos (by simpa using hend)]
      rfl
    · rw [if_neg hend, List.find?_cons_of_neg (by simpa using hend), ih]

/-- The end of input is recognised where the state has a row for it. -/
theorem recognises_nil : p.Recognises [] ↔ ∃ row ∈ standard.rows p.state, row.matcher = .endOfInput := by
  have hread : (p.count none).read none =
      match (standard.rows p.state).find? fun row => row.matcher = .endOfInput with
      | some row => .fires row []
      | none => .fault (.unexpectedEnd p.state p.expected) := by
    rw [read, firstRow_none]
    cases hfind : (standard.rows p.state).find? fun row => row.matcher = .endOfInput with
    | some row => rw [state_count, hfind]; rfl
    | none => rw [state_count, hfind]; rfl
  unfold Recognises reportAll
  rw [Transcript.andThen_of_none rfl]
  cases hfind : (standard.rows p.state).find? fun row => row.matcher = .endOfInput with
  | some row =>
    rw [hfind] at hread
    obtain ⟨events, -, hreport⟩ := report_of_fires hread
    dsimp only
    rw [hreport]
    refine iff_of_true rfl ⟨row, List.mem_of_find?_eq_some hfind, ?_⟩
    simpa using List.find?_some hfind
  | none =>
    rw [hfind] at hread
    dsimp only
    rw [report_of_fault hread]
    refine iff_of_false (by simp) ?_
    rintro ⟨row, hrow, hend⟩
    exact absurd (decide_eq_true hend) (List.find?_eq_none.mp hfind row hrow)

/-- Lines are recognised one after the other. -/
theorem recognises_cons :
    p.Recognises (line :: lines) ↔
      (p.report (some line)).fault = none ∧ (p.report (some line)).parser.Recognises lines := by
  unfold Recognises
  rw [reportAll, Transcript.fault_andThen_eq_none, Transcript.fault_andThen_eq_none, and_assoc]
  refine and_congr_right fun hfirst => ?_
  rw [Transcript.andThen_of_none hfirst, Transcript.fault_andThen_eq_none]

/-- **A parser comes through just the lines that may follow** in its state, or within its block. -/
theorem recognises_iff (hlines : ∀ line ∈ lines, '\n' ∉ line.toList) (p : Parser) :
    (p.state.afterBlock? = none → p.state ≠ .ended → (p.Recognises lines ↔ p.state.Reads lines)) ∧
      ∀ t w, p.state.afterBlock? = some t → p.indent = some w →
        (p.Recognises lines ↔ t.ReadsBehind w lines) := by
  induction lines generalizing p with
  | nil =>
    refine ⟨fun _ _ => recognises_nil.trans State.reads_nil.symm, fun t w hinside _ => ?_⟩
    refine iff_of_false (fun hends => ?_) State.not_readsBehind_nil
    obtain ⟨row, hrow, hend⟩ := recognises_nil.mp hends
    rw [(p.state.inside_of_afterBlock? t hinside).1] at hrow
    simp only [multilineRows, List.mem_cons, List.not_mem_nil, or_false] at hrow
    rcases hrow with rfl | rfl <;> cases hend
  | cons line lines ih =>
    obtain ⟨hline, hrest⟩ := List.forall_mem_cons.mp hlines
    obtain ⟨ihOutside, ihWithin⟩ := ih hrest (p.report (some line)).parser
    rw [recognises_cons, State.reads_cons]
    constructor
    · intro houtside hended
      have hblock (hclass : LineClass.ofLine line = .delimiter) :
          p.state.after? .block = (p.state.step? (.ofLine line)).bind State.afterBlock? := by
        rw [hclass]
        rfl
      rcases report_outside houtside hended hline with ⟨hok, hstep, hnoted⟩ | ⟨hfault, hstep⟩
      · cases hinside : (p.report (some line)).parser.state.afterBlock? with
        | none =>
          have hnotEnded : (p.report (some line)).parser.state ≠ .ended := fun h =>
            State.step?_ne_ended p.state _ hended (h ▸ hstep)
          rw [ihOutside hinside hnotEnded]
          constructor
          · exact fun ⟨_, hreads⟩ => .inl ⟨_, hstep, hreads⟩
          · rintro (⟨t, ht, hreads⟩ | ⟨t, hclass, hafter, -⟩)
            · obtain rfl := Option.some.inj (hstep.symm.trans ht)
              exact ⟨hok, hreads⟩
            · rw [hblock hclass, hstep, Option.bind_some, hinside] at hafter
              cases hafter
        | some t =>
          obtain ⟨hclass, hindent⟩ := hnoted (by rw [hinside]; exact Option.some_ne_none t)
          rw [ihWithin t (width line) hinside hindent]
          constructor
          · refine fun ⟨_, hreads⟩ => .inr ⟨t, hclass, ?_, hreads⟩
            rw [hblock hclass, hstep, Option.bind_some, hinside]
          · rintro (⟨t', ht', pieces, -, hword⟩ | ⟨t', -, hafter, hreads⟩)
            · -- no word is left within a block
              obtain rfl := Option.some.inj (hstep.symm.trans ht')
              rw [(State.inside_of_afterBlock? _ t hinside).2.1] at hword
              exact absurd hword (Language.notMem_zero _)
            · rw [hblock hclass, hstep, Option.bind_some, hinside] at hafter
              obtain rfl := Option.some.inj hafter
              exact ⟨hok, hreads⟩
      · refine iff_of_false (fun h => hfault h.1) ?_
        rintro (⟨t, ht, -⟩ | ⟨t, hclass, hafter, -⟩)
        · rw [hstep] at ht
          cases ht
        · rw [hblock hclass, hstep] at hafter
          cases hafter
    · intro t w hinside hindent
      obtain ⟨-, -, houtside, hnotEnded⟩ := State.inside_of_afterBlock? p.state t hinside
      rw [State.readsBehind_cons]
      rcases report_within line hinside hindent with ⟨hcloses, hok, hstate⟩ |
        ⟨hwithin, hok, hstate, hnoted⟩ | ⟨hcloses, hwithin, hfault⟩
      · rw [hstate] at ihOutside
        rw [ihOutside houtside hnotEnded]
        exact ⟨fun h => .inl ⟨hcloses, h.2⟩,
          fun h => ⟨hok, (h.resolve_right fun hr => hr.1.2 hcloses).2⟩⟩
      · rw [hstate] at ihWithin
        rw [ihWithin t w hinside hnoted]
        exact ⟨fun h => .inr ⟨hwithin, h.2⟩,
          fun h => ⟨hok, (h.resolve_left fun hl => hwithin.2 hl.1).2⟩⟩
      · refine iff_of_false (fun h => hfault h.1) ?_
        rintro (⟨h, -⟩ | ⟨h, -⟩)
        · exact hcloses h
        · exact hwithin h

/-! ## Faults -/

end Parser

/-- Whether a fault says that a document does not follow the grammar. -/
def ParseFault.Ungrammatical : ParseFault → Prop
  | .unexpectedLine .. | .unexpectedEnd .. | .dedent .. => True
  | .keyword _ | .unreadable .. => False

namespace Parser

variable {p : Parser} {fault : ParseFault}

/-- A fault that is met while a row is sought is one of the grammar. -/
theorem ungrammatical_of_firstRow {line : Option String} {rows : List Transition}
    (h : p.firstRow line rows = .error fault) : fault.Ungrammatical := by
  induction rows with
  | nil => cases h
  | cons row rows ih =>
    unfold firstRow at h
    cases line with
    | none =>
      dsimp only at h
      split at h
      · cases h
      · exact ih h
    | some text =>
      dsimp only at h
      split at h
      · next fault' hparts =>
        cases h
        unfold partsOf at hparts
        split at hparts
        · cases hparts
        · unfold contentParts at hparts
          dsimp only at hparts
          split at hparts
          · cases hparts
            exact trivial
          · cases hparts
        · split at hparts <;> cases hparts
        all_goals cases hparts
      · cases h
      · exact ih h

/-- A fault of a line is one of the grammar. -/
theorem ungrammatical_of_report {line : Option String} (h : (p.report line).fault = some fault) :
    fault.Ungrammatical := by
  cases hread : (p.count line).read line with
  | fault f =>
    rw [report_of_fault hread] at h
    obtain rfl := Option.some.inj h
    unfold read at hread
    split at hread
    · next hfirst =>
      cases hread
      exact ungrammatical_of_firstRow hfirst
    · cases hread
    · split at hread
      · split at hread
        · cases hread
        · cases hread
          exact trivial
      · cases hread
        exact trivial
  | blank text =>
    rw [report_of_blank hread] at h
    cases h
  | fires row parts =>
    obtain ⟨events, -, hreport⟩ := report_of_fires hread
    rw [hreport] at h
    cases h

end Parser

/-- A fault is met in the first part of a transcript, or behind it. -/
theorem Transcript.fault_andThen_eq_some {t : Transcript} {next : Parser → Transcript}
    {fault : ParseFault} (h : (t.andThen next).fault = some fault) :
    t.fault = some fault ∨ (next t.parser).fault = some fault := by
  cases ht : t.fault with
  | none =>
    rw [andThen_of_none ht] at h
    exact .inr h
  | some f =>
    rw [andThen_of_some ht, ht] at h
    exact .inl h

/-- A fault of some line is one of the grammar. -/
theorem Parser.ungrammatical_of_reportAll {p : Parser} {lines : List String} {fault : ParseFault}
    (h : (p.reportAll lines).fault = some fault) : fault.Ungrammatical := by
  induction lines generalizing p with
  | nil => cases h
  | cons line lines ih =>
    rcases Transcript.fault_andThen_eq_some h with hline | hlines
    · exact ungrammatical_of_report hline
    · exact ih hlines

namespace Transcript

variable {source : String} {lines : List String}

/-- A document that can be read to its end has a fault only where it does not follow the grammar. -/
theorem ungrammatical_of_ofLines {fault : ParseFault}
    (h : (ofLines source lines none).fault = some fault) : fault.Ungrammatical := by
  rcases fault_andThen_eq_some h with hstart | h
  · cases hstart
  rcases fault_andThen_eq_some h with hbody | h
  · exact Parser.ungrammatical_of_reportAll hbody
  rcases fault_andThen_eq_some h with hend | hfinish
  · exact Parser.ungrammatical_of_report hend
  · cases hfinish

/-- Lines are read without a fault just where they make a document. -/
theorem fault_ofLines_eq_none_iff (hlines : ∀ line ∈ lines, '\n' ∉ line.toList) :
    (ofLines source lines none).fault = none ↔ IsDocument lines := by
  have hrecognises := (Parser.recognises_iff hlines {}).1 rfl (by decide)
  refine Iff.trans ?_ hrecognises
  unfold ofLines Parser.Recognises
  simp only [fault_andThen_eq_none, true_and, and_true]

end Transcript

/-! ## Sessions -/

variable {σ ε : Type}

/-- **The parser accepts the language of documents.** Where no event is refused, a text is read without
fault just if its lines are a document, and any other text ends with a fault of the grammar. The class of a
line is the one whose pattern accepts it. -/
theorem Session.parseText_eq_ok_iff {h : Handler σ ε} (accepting : h.Accepting) (s : Session σ)
    (text : String) :
    ((s.parseText h text).2 = .ok () ↔ IsDocument (linesOf text)) ∧
      (¬ IsDocument (linesOf text) →
        ∃ fault, (s.parseText h text).2 = .error (.fault fault) ∧ fault.Ungrammatical) ∧
      ∀ (m : Matcher) (c : LineClass), m.lineClass? = some c →
        ∀ line, LineClass.ofLine line = c ↔ (m.parts? line).isSome = true := by
  have hfollows := parse_follows (h := h) textSource (linesOf text) none s
  have hanswers := accepting.answerAll_eq_ok s.state
    (Transcript.ofLines textSource (linesOf text) none).events
  obtain ⟨-, -, houtcome⟩ := hfollows.of_ok hanswers
  have hended : (s.parseText h text).2 =
      (Transcript.ofLines textSource (linesOf text) none).outcome := houtcome
  have hlines : ∀ line ∈ linesOf text, '\n' ∉ line.toList := fun _ => notMem_of_mem_linesOf
  have hdocument : (Transcript.ofLines textSource (linesOf text) none).fault = none ↔ _ :=
    Transcript.fault_ofLines_eq_none_iff hlines
  rw [hended, ← hdocument]
  refine ⟨Transcript.outcome_eq_ok, fun hfault => ?_, fun m c hclass line =>
    LineClass.ofLine_eq_iff hclass line⟩
  obtain ⟨fault, hfault⟩ := Option.ne_none_iff_exists'.mp hfault
  refine ⟨fault, ?_, Transcript.ungrammatical_of_ofLines hfault⟩
  unfold Transcript.outcome
  rw [hfault]

/-- A scenario with a multiline block, and the same without the end of the block. -/
theorem Session.isDocument_multiline :
    recorder.Accepting ∧
      IsDocument (linesOf "@a\nFeature: f\n\n  Scenario: s\n    Given x\n    \"\"\"\n    # y\n    \"\"\"\n") ∧
      ¬ IsDocument (linesOf "Feature: f\n  Scenario: s\n    Given x\n    \"\"\"\n    # y\n") := by
  have accepting : recorder.Accepting := fun _ _ => rfl
  refine ⟨accepting, ?_, fun hdocument => ?_⟩
  · exact (parseText_eq_ok_iff accepting ⟨{}, [], []⟩ _).1.mp rfl
  · have hok := (parseText_eq_ok_iff accepting ⟨{}, [], []⟩ _).1.mpr hdocument
    cases hok

end Acceptance
