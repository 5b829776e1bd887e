import Acceptance.Proofs.Document.Multiline
import Acceptance.Proofs.Document.Remarks

/-!
# Table rows

A row of a table is written as its cells between bars, with blanks around the cells and around the row. Reading it
gives the cells again (`Parser.partsOf_of_writesRow`), and what is read of any row of a table is cells that can be
written so (`Parser.cells_of_partsOf`). Behind the line of a step, and behind the header of an examples block, the
first row is reported as the keys of a table and the rows behind it as data (`Parser.reportAll_rows`).
-/

set_option autoImplicit false

namespace Acceptance

open Acceptance.Grammar Acceptance.Text

/-! ## Rows as they are written -/

namespace Text

/-- What is put between pieces without it is cut away again. -/
theorem cutAt_intercalate {α : Type} [BEq α] [LawfulBEq α] {a : α} {pieces : List (List α)}
    (hne : pieces ≠ []) (hpieces : ∀ piece ∈ pieces, a ∉ piece) :
    cutAt (· == a) ([a].intercalate pieces) = pieces := by
  rw [cutAt_eq_splitOnP]
  exact List.splitOn_intercalate a hpieces hne

/-- The pieces of a list have no members that it does not have. -/
theorem mem_of_mem_cutAt {α : Type} {p : α → Bool} {as piece : List α} {b : α} (h : piece ∈ cutAt p as)
    (hb : b ∈ piece) : b ∈ as := by
  induction as generalizing piece with
  | nil =>
    obtain rfl := List.mem_singleton.mp h
    cases hb
  | cons a as ih =>
    unfold cutAt at h
    split at h
    · rcases List.mem_cons.mp h with rfl | h
      · cases hb
      · exact List.mem_cons_of_mem a (ih h hb)
    · split at h
      · obtain rfl := List.mem_singleton.mp h
        exact List.mem_singleton.mp hb ▸ List.mem_cons_self
      · next first rest hcut =>
        rcases List.mem_cons.mp h with rfl | h
        · rcases List.mem_cons.mp hb with rfl | hb
          · exact List.mem_cons_self
          · exact List.mem_cons_of_mem a (ih (hcut ▸ List.mem_cons_self) hb)
        · exact List.mem_cons_of_mem a (ih (hcut ▸ List.mem_cons_of_mem first h) hb)

/-- What is in neither the pieces nor the separator is not in the whole. -/
theorem notMem_intercalate {α : Type} {separator : List α} {pieces : List (List α)} {a : α}
    (hseparator : a ∉ separator) (hpieces : ∀ piece ∈ pieces, a ∉ piece) :
    a ∉ separator.intercalate pieces := by
  induction pieces with
  | nil => exact List.not_mem_nil
  | cons piece rest ih =>
    obtain ⟨hpiece, hrest⟩ := List.forall_mem_cons.mp hpieces
    cases rest with
    | nil => rwa [List.intercalate_singleton]
    | cons second rest =>
      rw [List.intercalate_cons_cons, List.mem_append, List.mem_append]
      rintro ((ha | ha) | ha)
      · exact hpiece ha
      · exact hseparator ha
      · exact ih hrest ha

end Text

namespace Grammar

/-- A text that a cell can hold: without bars, on one line, and without blanks around it. -/
structure IsCell (cell : String) : Prop where
  bar : '|' ∉ cell.toList
  oneLine : '\n' ∉ cell.toList
  trimmed : Text.trimmed cell = cell

instance (cell : String) : Decidable (IsCell cell) :=
  decidable_of_iff ('|' ∉ cell.toList ∧ '\n' ∉ cell.toList ∧ Text.trimmed cell = cell)
    ⟨fun h => ⟨h.1, h.2.1, h.2.2⟩, fun h => ⟨h.bar, h.oneLine, h.trimmed⟩⟩

/-- A text with blanks around it, or with none. -/
def Pads (text padded : String) : Prop :=
  ∃ left right, isBlankText left = true ∧ isBlankText right = true ∧ padded = left ++ text ++ right

/-- A line that writes cells as a row: between bars, with any blanks before, around and behind the cells. -/
structure WritesRow (cells : List String) (line : String) : Prop where
  written : ∃ margin padded trailing, isBlankText margin = true ∧ isBlankText trailing = true ∧
    List.Forall₂ Pads cells padded ∧ line = margin ++ "|" ++ "|".intercalate padded ++ "|" ++ trailing
  oneLine : '\n' ∉ line.toList

variable {cells : List String} {line cell : String}

/-- The cells between the bars of a row. -/
def cellsOf (inner : List Char) : List String :=
  (cutAt (· == '|') inner).map fun cell => String.ofList (trim cell)

/-- Between the first and the last bar of a line is the inside of a row. -/
theorem rowParts_of_bars {margin inner trailing : List Char} (hmargin : margin.all isBlank = true)
    (htrailing : trailing.all isBlank = true) (hinner : onOneLine inner = true) :
    rowParts (margin ++ '|' :: (inner ++ '|' :: trailing)) = some [inner] := by
  have hbars : trim ('|' :: (inner ++ ['|'])) = '|' :: (inner ++ ['|']) := by
    refine trim_of_ends rfl ?_
    rw [← List.cons_append, List.getLast?_append_of_ne_nil _ (List.cons_ne_nil _ _)]
    decide
  have hrow : '|' :: (inner ++ '|' :: trailing) = '|' :: (inner ++ ['|']) ++ trailing := by simp
  unfold rowParts
  rw [trim_append_of_all_left hmargin, hrow, trim_append_of_all _ htrailing, hbars]
  simp [hinner]

/-- A row has one part, which is on one line. -/
theorem exists_inner_of_rowParts {cs : List Char} {parts : List (List Char)} (h : rowParts cs = some parts) :
    ∃ inner, parts = [inner] ∧ onOneLine inner = true := by
  unfold rowParts at h
  split at h
  · next rest _ =>
    split at h
    · next hrow =>
      obtain ⟨-, hinner⟩ := Bool.and_eq_true_iff.mp hrow
      exact ⟨rest.dropLast, (Option.some.inj h).symm, hinner⟩
    · cases h
  · cases h

/-- What is read as a cell can be written as one. -/
theorem isCell_of_mem_cellsOf {inner : List Char} (hinner : onOneLine inner = true)
    (hcell : cell ∈ cellsOf inner) : IsCell cell := by
  obtain ⟨piece, hpiece, rfl⟩ := List.mem_map.mp hcell
  have hsubset : trim piece ⊆ piece := trim_subset piece
  refine ⟨fun hbar => ?_, fun hfeed => ?_, ?_⟩
  · rw [String.toList_ofList] at hbar
    exact not_of_mem_cutAt hpiece '|' (hsubset hbar) rfl
  · rw [String.toList_ofList] at hfeed
    have hmem : '\n' ∈ inner := mem_of_mem_cutAt hpiece (hsubset hfeed)
    simp [onOneLine, hmem] at hinner
  · rw [Text.trimmed, String.toList_ofList, trim_trim]

/-- What is written around a cell can be told from the cell. -/
theorem IsCell.of_pads {padded : String} (hcell : IsCell cell) (hpads : Pads cell padded) :
    '|' ∉ padded.toList ∧ String.ofList (trim padded.toList) = cell := by
  obtain ⟨left, right, hleft, hright, rfl⟩ := hpads
  have hblank {blanks : String} (h : isBlankText blanks = true) : '|' ∉ blanks.toList := fun hbar =>
    absurd (List.all_eq_true.mp h '|' hbar) (by decide)
  refine ⟨fun hbar => ?_, ?_⟩
  · rw [String.toList_append, String.toList_append, List.append_assoc] at hbar
    rcases List.mem_append.mp hbar with hbar | hbar
    · exact hblank hleft hbar
    · exact (List.mem_append.mp hbar).elim hcell.bar (hblank hright)
  · rw [String.toList_append, String.toList_append, trim_append_of_all _ hright, trim_append_of_all_left hleft]
    exact hcell.trimmed

/-- Cells with blanks around them have no bars, and come back without the blanks. -/
theorem cells_of_pads {padded : List String} (hcells : ∀ cell ∈ cells, IsCell cell)
    (hpads : List.Forall₂ Pads cells padded) :
    (∀ piece ∈ padded.map String.toList, '|' ∉ piece) ∧
      (padded.map String.toList).map (fun piece => String.ofList (trim piece)) = cells := by
  induction hpads with
  | nil => exact ⟨List.forall_mem_nil _, rfl⟩
  | cons hpad _ ih =>
    obtain ⟨hcell, hrest⟩ := List.forall_mem_cons.mp hcells
    obtain ⟨hbar, hsame⟩ := hcell.of_pads hpad
    obtain ⟨hbars, hread⟩ := ih hrest
    exact ⟨List.forall_mem_cons.mpr ⟨hbar, hbars⟩, congrArg₂ List.cons hsame hread⟩

/-- **Rows come back**: the cells that a line writes are the cells between its bars. -/
theorem exists_inner_of_writesRow (hne : cells ≠ []) (hcells : ∀ cell ∈ cells, IsCell cell)
    (hrow : WritesRow cells line) :
    ∃ inner, rowParts line.toList = some [inner] ∧ cellsOf inner = cells := by
  obtain ⟨⟨margin, padded, trailing, hmargin, htrailing, hpads, rfl⟩, hline⟩ := hrow
  have hbar : "|".toList = ['|'] := rfl
  have hchars : (margin ++ "|" ++ "|".intercalate padded ++ "|" ++ trailing).toList =
      margin.toList ++ '|' :: (['|'].intercalate (padded.map String.toList) ++ '|' :: trailing.toList) := by
    simp only [String.toList_append, String.toList_intercalate, hbar, List.append_assoc, List.cons_append,
      List.nil_append]
  have hpieces : padded.map String.toList ≠ [] := by
    intro hnil
    rw [List.map_eq_nil_iff.mp hnil, List.forall₂_nil_right_iff] at hpads
    exact hne hpads
  obtain ⟨hbars, hread⟩ := cells_of_pads hcells hpads
  refine ⟨['|'].intercalate (padded.map String.toList), ?_, ?_⟩
  · rw [hchars] at hline ⊢
    refine rowParts_of_bars hmargin htrailing ?_
    refine onOneLine_of_subset hline fun c hc => ?_
    exact List.mem_append_right _ (List.mem_cons_of_mem _ (List.mem_append_left _ hc))
  · rw [cellsOf, cutAt_intercalate hpieces hbars]
    exact hread

/-- The cells between bars, and nothing else. -/
def rowLine (cells : List String) : String :=
  "|" ++ "|".intercalate cells ++ "|"

/-- Cells can be written without blanks around them. -/
theorem writesRow_rowLine (hcells : ∀ cell ∈ cells, IsCell cell) : WritesRow cells (rowLine cells) where
  written := by
    refine ⟨"", cells, "", rfl, rfl, List.forall₂_same.mpr fun cell _ => ⟨"", "", rfl, rfl, ?_⟩, ?_⟩
    · rw [String.empty_append, String.append_empty]
    · rw [String.empty_append, String.append_empty, rowLine]
  oneLine := by
    have hinner : '\n' ∉ ['|'].intercalate (cells.map String.toList) := by
      refine notMem_intercalate (by decide) fun piece hpiece => ?_
      obtain ⟨cell, hcell, rfl⟩ := List.mem_map.mp hpiece
      exact (hcells cell hcell).oneLine
    have hbar : "|".toList = ['|'] := rfl
    simpa [rowLine, String.toList_intercalate, hbar] using hinner

/-- Of the blanks at the end of a line, a text takes a carriage return at most. -/
theorem exists_asRead_append {first blanks : String} (hfirst : first.toList.getLast? ≠ some '\r')
    (hblanks : isBlankText blanks = true) :
    ∃ others, isBlankText others = true ∧ asRead (first ++ blanks) = first ++ others := by
  by_cases hlast : (first ++ blanks).toList.getLast? = some '\r'
  · cases hchars : blanks.toList using List.reverseRecOn with
    | nil =>
      rw [String.toList_append, hchars, List.append_nil] at hlast
      exact absurd hlast hfirst
    | append_singleton others c =>
      rw [String.toList_append, hchars, ← List.append_assoc, List.getLast?_concat, Option.some.injEq] at hlast
      subst hlast
      refine ⟨String.ofList others, ?_, ?_⟩
      · rw [isBlankText, hchars, List.all_append, Bool.and_eq_true] at hblanks
        rw [isBlankText, String.toList_ofList]
        exact hblanks.1
      · rw [asRead, String.toList_append, hchars, ← List.append_assoc, withoutReturn_concat,
          String.ofList_append, String.ofList_toList]
  · exact ⟨blanks, hblanks, asRead_of_ne hlast⟩

/-- A row stays as it is where a text takes the carriage return at its end. -/
theorem WritesRow.asRead (h : WritesRow cells line) : WritesRow cells (asRead line) where
  written := by
    obtain ⟨⟨margin, padded, trailing, hmargin, htrailing, hpads, rfl⟩, -⟩ := h
    have hbar : (margin ++ "|" ++ "|".intercalate padded ++ "|").toList.getLast? ≠ some '\r' := by
      rw [String.toList_append, List.getLast?_append_of_ne_nil _ (by decide)]
      decide
    obtain ⟨others, hothers, hread⟩ := exists_asRead_append hbar htrailing
    exact ⟨margin, padded, others, hmargin, hothers, hpads, hread⟩
  oneLine hfeed := by
    rw [Acceptance.asRead, String.toList_ofList] at hfeed
    exact h.oneLine ((withoutReturn_isPrefix _).subset hfeed)

end Grammar

/-! ## Tables -/

/-- Lines that write a table, its keys first, with one cell at least in every row. -/
structure Grammar.WritesTable (keys : List String) (rows : List (List String)) (lines : List String) : Prop where
  cells : ∀ row ∈ keys :: rows, row ≠ [] ∧ ∀ cell ∈ row, IsCell cell
  written : List.Forall₂ WritesRow (keys :: rows) lines

/-- **A table can be written into any text**, behind a complete line. -/
theorem Grammar.WritesTable.linesOf_append {keys : List String} {rows : List (List String)} {lines : List String}
    (h : WritesTable keys rows lines) {first : String}
    (hfirst : first = "" ∨ first.toList.getLast? = some '\n') (last : String) :
    linesOf (first ++ (String.join (lines.map (· ++ "\n")) ++ last)) =
        linesOf first ++ lines.map asRead ++ linesOf last ∧
      WritesTable keys rows (lines.map asRead) := by
  refine ⟨linesOf_lines hfirst (fun line hline => ?_) last, h.cells, ?_⟩
  · obtain ⟨row, -, hrow⟩ := exists_left_of_mem h.written hline
    exact hrow.oneLine
  · exact List.forall₂_map_right_iff.mpr (h.written.imp fun _ _ hrow => hrow.asRead)

/-- The events of a table, from the keys in its first row on. -/
def Event.ofTable (keys : List String) (rows : List (List String)) : List Event :=
  .startTable keys :: rows.map .tableData

/-- Where a table can stand: in a step of a block, or in an examples block. -/
inductive TablePlace where
  | step (k : BlockKind)
  | examples
  deriving DecidableEq, Repr

namespace TablePlace

/-- The state of a parser in front of the table. -/
def before : TablePlace → State
  | step k => k.states.step
  | examples => .examples

/-- The state of a parser within the table. -/
def within : TablePlace → State
  | step k => k.states.table
  | examples => .examplesTable

/-- The action that ends what the table belongs to. -/
def last : TablePlace → Action
  | step _ => .finishStep
  | examples => .finishExamples

/-- The events at the end of the table and of what it belongs to. -/
def ending : TablePlace → List Event
  | step _ => [.finishTable, .finishStep]
  | examples => [.finishTable, .finishExamples]

variable {place : TablePlace}

/-- In front of a table a row is read as its keys. -/
theorem rowOf_keys (place : TablePlace) :
    (standard.rows place.before).find? (fun row => row.matcher.takes .tableRow) =
      some ⟨.tableRow, [.startTable], place.within⟩ := by
  cases place with
  | step k => cases k <;> rfl
  | examples => rfl

/-- Within a table a row is read as cells. -/
theorem rowOf_cells (place : TablePlace) :
    (standard.rows place.within).find? (fun row => row.matcher.takes .tableRow) =
      some ⟨.tableRow, [.tableData], place.within⟩ := by
  cases place with
  | step k => cases k <;> rfl
  | examples => rfl

/-- In front of a table no multiline block is open. -/
theorem afterBlock?_before (place : TablePlace) : place.before.afterBlock? = none := by
  cases place with
  | step k => cases k <;> rfl
  | examples => rfl

/-- Within a table no multiline block is open. -/
theorem afterBlock?_within (place : TablePlace) : place.within.afterBlock? = none := by
  cases place with
  | step k => cases k <;> rfl
  | examples => rfl

/-- **A row of the grammar within a table** is for comments or for table rows, or it ends the table and what this
belongs to before anything else. -/
theorem row_of_within (place : TablePlace) : ∀ row ∈ standard.rows place.within,
    row = commentIn place.within ∨ row.matcher = .tableRow ∨ row.actions.take 2 = [.finishTable, place.last] := by
  cases place with
  | step k => cases k <;> decide
  | examples => decide

/-- Actions that end a table first report its end and that of what it belongs to. -/
theorem ending_of_reports {parts : List String} {actions : List Action} {events : List Event}
    (h : Reports parts actions events) (hactions : actions.take 2 = [.finishTable, place.last]) :
    ∃ more, events = place.ending ++ more := by
  obtain ⟨rest, rfl⟩ : ∃ rest, actions = .finishTable :: place.last :: rest :=
    ⟨actions.drop 2, by rw [← List.take_append_drop 2 actions, hactions]; rfl⟩
  cases h with
  | cons htable h =>
    cases h with
    | cons hlast _ =>
      cases htable
      cases place with
      | step k =>
        cases hlast
        exact ⟨_, rfl⟩
      | examples =>
        cases hlast
        exact ⟨_, rfl⟩

end TablePlace

/-- Whether the lines behind a row do not go on with the table: the first of them that is no comment and not blank
is no row. -/
def Grammar.EndsTable (lines : List String) : Prop :=
  ∀ line, lines.find? (fun line => !(LineClass.ofLine line).isRemark) = some line →
    LineClass.ofLine line ≠ .tableRow

namespace Parser

variable {p : Parser} {place : TablePlace} {keys : List String} {rows : List (List String)}
  {cells : List String} {line : String} {lines : List String}

/-- A line that is read as a row has its cells as parts. -/
theorem partsOf_of_rowParts {inner : List Char} (h : rowParts line.toList = some [inner]) :
    p.partsOf .tableRow line = .ok (some (cellsOf inner)) := by
  unfold partsOf Matcher.parts? Matcher.pattern?
  dsimp only
  rw [h]
  simp [cellsOf]

/-- **A written row** is read as its cells, by any parser. -/
theorem partsOf_of_writesRow (hne : cells ≠ []) (hcells : ∀ cell ∈ cells, IsCell cell)
    (hrow : WritesRow cells line) (p : Parser) : p.partsOf .tableRow line = .ok (some cells) := by
  obtain ⟨inner, hparts, rfl⟩ := exists_inner_of_writesRow hne hcells hrow
  exact partsOf_of_rowParts hparts

/-- **What is read of any table row** is cells, one at least. -/
theorem cells_of_partsOf (h : p.partsOf .tableRow line = .ok (some cells)) :
    cells ≠ [] ∧ ∀ cell ∈ cells, IsCell cell := by
  cases hparts : rowParts line.toList with
  | none =>
    unfold partsOf Matcher.parts? Matcher.pattern? at h
    dsimp only at h
    rw [hparts] at h
    cases h
  | some parts =>
    obtain ⟨inner, rfl, hinner⟩ := exists_inner_of_rowParts hparts
    rw [partsOf_of_rowParts hparts, Except.ok.injEq, Option.some.injEq] at h
    subst h
    refine ⟨fun hnil => cutAt_ne_nil (· == '|') inner (List.map_eq_nil_iff.mp hnil), fun cell hcell => ?_⟩
    exact isCell_of_mem_cellsOf hinner hcell

/-- A written row is reported by the row of the grammar for table rows, if there is one. -/
theorem report_tableRow (action : Action) (next : State) {event : Event}
    (houtside : p.state.afterBlock? = none)
    (hfind : (standard.rows p.state).find? (fun row => row.matcher.takes .tableRow) =
      some ⟨.tableRow, [action], next⟩) (hne : cells ≠ []) (hcells : ∀ cell ∈ cells, IsCell cell)
    (hrow : WritesRow cells line) (hevent : action.event cells = .ok event) :
    ∃ q, p.report (some line) = ⟨[event], q, none⟩ ∧ q.state = next := by
  have hparts := partsOf_of_writesRow hne hcells hrow (p.count (some line))
  have hclass : LineClass.ofLine line = .tableRow := by
    rw [LineClass.ofLine_eq_iff (m := .tableRow) rfl line]
    unfold partsOf at hparts
    exact Option.isSome_map.symm.trans (by rw [Except.ok.inj hparts]; rfl)
  obtain ⟨parts, hfirst⟩ := firstRow_eq (p := p.count (some line))
    (p.state.matcher_ne_of_afterBlock? houtside) hrow.oneLine
  have hread : (p.count (some line)).read (some line) = .fires ⟨.tableRow, [action], next⟩ parts := by
    rw [read, state_count, hfirst, hclass, hfind]
    rfl
  have haccepts := (mem_and_accepts_of_read hread).2
  rw [Accepts, hparts, Except.ok.injEq, Option.some.injEq] at haccepts
  subst haccepts
  obtain ⟨events, hevents, hreport⟩ := report_of_fires hread
  cases hevents with
  | cons hfired hnil =>
    cases hnil
    rw [hevent] at hfired
    cases hfired
    exact ⟨_, hreport, rfl⟩

/-- The rows behind the keys are reported as data, and leave the parser within the table. -/
theorem reportAll_data (hstate : p.state = place.within)
    (hcells : ∀ row ∈ rows, row ≠ [] ∧ ∀ cell ∈ row, IsCell cell) (hlines : List.Forall₂ WritesRow rows lines) :
    ∃ q, p.reportAll lines = ⟨rows.map .tableData, q, none⟩ ∧ q.state = place.within := by
  induction hlines generalizing p with
  | nil => exact ⟨p, rfl, hstate⟩
  | cons hrow _ ih =>
    obtain ⟨⟨hne, hfirst⟩, hrest⟩ := List.forall_mem_cons.mp hcells
    obtain ⟨q, hreport, hwithin⟩ := report_tableRow .tableData place.within
      (by rw [hstate, place.afterBlock?_within]) (by rw [hstate, place.rowOf_cells]) hne hfirst hrow rfl
    obtain ⟨q', hreports, hwithin'⟩ := ih hwithin hrest
    refine ⟨q', ?_, hwithin'⟩
    rw [reportAll, hreport, Transcript.andThen_of_none rfl]
    dsimp only
    rw [hreports]
    rfl

/-- **A written table** is reported with its keys and its rows, and leaves the parser within it. -/
theorem reportAll_rows (hstate : p.state = place.before) (htable : WritesTable keys rows lines) :
    ∃ q, p.reportAll lines = ⟨Event.ofTable keys rows, q, none⟩ ∧ q.state = place.within := by
  obtain ⟨hcells, hlines⟩ := htable
  cases hlines with
  | cons hrow hrest =>
    obtain ⟨⟨hne, hkeys⟩, hrows⟩ := List.forall_mem_cons.mp hcells
    obtain ⟨q, hreport, hwithin⟩ := report_tableRow .startTable place.within
      (by rw [hstate, place.afterBlock?_before]) (by rw [hstate, place.rowOf_keys]) hne hkeys hrow rfl
    obtain ⟨q', hreports, hwithin'⟩ := reportAll_data hwithin hrows hrest
    refine ⟨q', ?_, hwithin'⟩
    rw [reportAll, hreport, Transcript.andThen_of_none rfl]
    dsimp only
    rw [hreports]
    rfl

end Parser

end Acceptance
