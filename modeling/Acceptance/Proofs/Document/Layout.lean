import Acceptance.Proofs.Document.Place
import Acceptance.Proofs.Document.Streams
import Acceptance.Proofs.Document.Trimming

/-!
# Layout

The layout of a document is what stands around its lines: blanks around a line outside of multiline blocks,
and a margin before all lines of a block. Parsers that read two layouts of a document go in step. They are in
the same states, within a block the one has noted the margin besides (`Parser.Moved`), and they report the
same but for the blank lines as they are written and the widths of blocks (`Parser.report_of_trimmed`,
`Parser.report_of_shifted`).
-/

set_option autoImplicit false

namespace Acceptance

open Acceptance.Grammar

/-! ## Events without layout -/

/-- An event without what the layout decides: how a blank line is written, and the width of a multiline
block. -/
def Event.bare : Event → Event
  | .whitespace _ => .whitespace ""
  | .startMultiline _ => .startMultiline 0
  | event => event

/-- Transcripts of the same events, layout apart, that both have a fault or both have none. -/
structure Transcript.Alike (t t' : Transcript) : Prop where
  events : t'.events.map Event.bare = t.events.map Event.bare
  fault : t'.fault = none ↔ t.fault = none

/-- Readings of the same kind, with the same row and the same parts if a row fires, unless that opens a
multiline block. -/
inductive Reading.Alike : Reading → Reading → Prop where
  | fires (row : Transition) (parts parts' : List String) :
      parts' = parts ∨ row.matcher = .multilineOpen → Alike (.fires row parts) (.fires row parts')
  | blank (text text' : String) : Alike (.blank text) (.blank text')
  | fault (fault fault' : ParseFault) : Alike (.fault fault) (.fault fault')

/-- Transcripts that are alike go on to be alike. -/
theorem Transcript.Alike.andThen {t t' : Transcript} {next next' : Parser → Transcript} (h : t.Alike t')
    (hnext : t.fault = none → (next t.parser).Alike (next' t'.parser)) :
    (t.andThen next).Alike (t'.andThen next') := by
  cases ht : t.fault with
  | none =>
    obtain ⟨hevents, hfault⟩ := hnext ht
    rw [andThen_of_none ht, andThen_of_none (h.fault.mpr ht)]
    exact ⟨by rw [List.map_append, List.map_append, h.events, hevents], hfault⟩
  | some fault =>
    obtain ⟨fault', ht'⟩ := Option.ne_none_iff_exists'.mp fun hnone => by
      rw [h.fault.mp hnone] at ht
      cases ht
    rw [andThen_of_some ht, andThen_of_some ht']
    exact h

/-! ## Lines with a margin -/

namespace Grammar

open Acceptance.Text

variable {margin : List Char} {line line' : String} {w : Nat}

/-- A line behind a margin. An empty line may also have less than the margin, if that is blank. -/
def Shifted (margin : List Char) (line line' : String) : Prop :=
  line'.toList = margin ++ line.toList ∨
    line = "" ∧ isBlankText line' = true ∧ line'.toList.length ≤ margin.length

/-- Moving a line by a margin of blanks leaves its text as it is. -/
theorem Shifted.trimmed_eq (h : Shifted margin line line') (hmargin : margin.all isBlank = true) :
    trimmed line' = trimmed line := by
  unfold trimmed
  rcases h with hline | ⟨rfl, hblank, -⟩
  · rw [hline, trim_append_of_all_left hmargin]
  · rw [trim_eq_nil_iff.mpr hblank]
    rfl

/-- Moving a line that is not blank makes its indentation wider by the margin. -/
theorem Shifted.width_eq (h : Shifted margin line line') (hmargin : margin.all isBlank = true)
    (hline : isBlankText line = false) : width line' = margin.length + width line := by
  rcases h with hline' | ⟨rfl, -⟩
  · unfold width indentation
    rw [hline', List.takeWhile_append_of_pos (List.all_eq_true.mp hmargin), List.length_append]
  · cases hline

/-- Moving a line makes no blank line of one that is not, and no other one of a blank line. -/
theorem Shifted.isBlankText_eq (h : Shifted margin line line') (hmargin : margin.all isBlank = true) :
    isBlankText line' = isBlankText line := by
  rcases h with hline | ⟨rfl, hblank, -⟩
  · rw [isBlankText, hline, List.all_append, hmargin, Bool.true_and, isBlankText]
  · rw [hblank]
    rfl

/-- The content of a line is the same behind the margin. -/
theorem Shifted.drop_eq (h : Shifted margin line line') (w : Nat) :
    line'.toList.drop (margin.length + w) = line.toList.drop w := by
  rcases h with hline | ⟨rfl, -, hshort⟩
  · rw [hline, List.drop_append, List.drop_eq_nil_of_le (Nat.le_add_right _ _), Nat.add_sub_cancel_left]
    rfl
  · rw [List.drop_eq_nil_of_le (hshort.trans (Nat.le_add_right _ _))]
    simp

/-- The line of a delimiter is not blank. -/
theorem isBlankText_of_delimiter (h : LineClass.ofLine line = .delimiter) : isBlankText line = false := by
  rw [← Bool.not_eq_true, ← LineClass.ofLine_eq_blank, h]
  decide

/-- A moved line closes a block that has been moved with it, if it closed the block before. -/
theorem Shifted.delimits_iff (h : Shifted margin line line') (hmargin : margin.all isBlank = true)
    (hfeed : '\n' ∉ line.toList) (hfeed' : '\n' ∉ line'.toList) :
    Delimits (margin.length + w) line' ↔ Delimits w line := by
  have hclass : LineClass.ofLine line' = LineClass.ofLine line := by
    rw [← LineClass.ofLine_trimmed hfeed', h.trimmed_eq hmargin, LineClass.ofLine_trimmed hfeed]
  unfold Delimits
  rw [hclass]
  refine and_congr_right fun hdelimiter => ?_
  rw [h.width_eq hmargin (isBlankText_of_delimiter hdelimiter)]
  omega

end Grammar

/-! ## Parsers in step -/

namespace Parser

variable {p q : Parser} {margin : List Char} {line line' : String} {t : State} {w : Nat}

/-- Parsers in the same state, of which one has noted the margin besides if they are in a multiline block. -/
def Moved (margin : List Char) (p q : Parser) : Prop :=
  q.state = p.state ∧
    (p.state.afterBlock? ≠ none → ∃ w, p.indent = some w ∧ q.indent = some (margin.length + w))

/-! ### Outside of multiline blocks -/

/-- But for the indentation that opens a block, events do not depend on the margin. -/
theorem bare_of_indentation {row : Transition} {parts parts' : List String} {events events' : List Event}
    (hrow : row ∈ standard.rows p.state) (hparts : parts' = parts ∨ row.matcher = .multilineOpen)
    (hevents : Reports parts row.actions events) (hevents' : Reports parts' row.actions events') :
    events'.map Event.bare = events.map Event.bare := by
  rcases hparts with rfl | hopen
  · rw [hevents'.unique hevents]
  · rcases indentation_of_row p.state row hrow with ⟨-, hactions, -⟩ | ⟨hclose, -⟩ | ⟨hother, -⟩
    · rw [hactions] at hevents hevents'
      cases hevents with
      | cons hevent hnil =>
        cases hnil
        cases hevents' with
        | cons hevent' hnil =>
          cases hnil
          cases hevent
          cases hevent'
          rfl
    · rw [hopen] at hclose
      cases hclose
    · exact absurd hopen hother

/-- Readings that are alike are reported alike, and lead to the same state. -/
theorem report_of_alike {line line' : Option String}
    (h : Reading.Alike ((p.count line).read line) ((q.count line').read line')) (hstate : q.state = p.state) :
    (p.report line).Alike (q.report line') ∧
      (q.report line').parser.state = (p.report line).parser.state := by
  generalize hread : (p.count line).read line = reading at h
  generalize hread' : (q.count line').read line' = reading' at h
  cases h with
  | fires row parts parts' hparts =>
    obtain ⟨events, hevents, hreport⟩ := report_of_fires hread
    obtain ⟨events', hevents', hreport'⟩ := report_of_fires hread'
    have hrow := (mem_and_accepts_of_read hread).1
    rw [state_count] at hrow
    rw [hreport, hreport']
    exact ⟨⟨bare_of_indentation hrow hparts hevents hevents', Iff.rfl⟩, rfl⟩
  | blank text text' =>
    rw [report_of_blank hread, report_of_blank hread', state_count, state_count]
    exact ⟨⟨rfl, Iff.rfl⟩, hstate⟩
  | fault fault fault' =>
    rw [report_of_fault hread, report_of_fault hread', state_count, state_count]
    exact ⟨⟨rfl, by simp⟩, hstate⟩

/-- **The end of input** is reported alike in the same state. -/
theorem report_none_of_state (hstate : q.state = p.state) : (p.report none).Alike (q.report none) := by
  have hread : Reading.Alike ((p.count none).read none) ((q.count none).read none) := by
    unfold Parser.read
    rw [firstRow_none, firstRow_none, state_count, state_count, hstate]
    cases (standard.rows p.state).find? fun row => row.matcher = .endOfInput with
    | some row => exact .fires row [] [] (.inl rfl)
    | none => exact .fault _ _
  exact (report_of_alike hread hstate).1

/-- **Lines with other blanks around them** are taken for the same outside of multiline blocks. -/
theorem read_of_trimmed (houtside : p.state.afterBlock? = none) (hstate : q.state = p.state)
    (hfeed : '\n' ∉ line.toList) (hfeed' : '\n' ∉ line'.toList)
    (htrim : Text.trimmed line' = Text.trimmed line) :
    Reading.Alike (p.read (some line)) (q.read (some line')) := by
  have hclass : LineClass.ofLine line' = LineClass.ofLine line := by
    rw [← LineClass.ofLine_trimmed hfeed', htrim, LineClass.ofLine_trimmed hfeed]
  have hrows := p.state.matcher_ne_of_afterBlock? houtside
  obtain ⟨parts, hfirst⟩ := firstRow_eq (p := p) hrows hfeed
  obtain ⟨parts', hfirst'⟩ := firstRow_eq (p := q) hrows hfeed'
  rw [hclass] at hfirst'
  cases hfind : (standard.rows p.state).find? fun row => row.matcher.takes (.ofLine line) with
  | some row =>
    rw [hfind, Option.map_some] at hfirst hfirst'
    have hrow := List.mem_of_find?_eq_some hfind
    have hread : p.read (some line) = .fires row parts := by rw [read, hfirst]
    have hread' : q.read (some line') = .fires row parts' := by rw [read, hstate, hfirst']
    rw [hread, hread']
    refine .fires row parts parts' ?_
    by_cases hopen : row.matcher = .multilineOpen
    · exact .inr hopen
    · have haccepts : p.partsOf row.matcher line = .ok (some parts) := (mem_and_accepts_of_read hread).2
      have haccepts' : q.partsOf row.matcher line' = .ok (some parts') :=
        (mem_and_accepts_of_read hread').2
      obtain ⟨hclose, hcontent⟩ := hrows row hrow
      rw [← partsOf_trimmed (q := p) hopen hclose hcontent hfeed', htrim,
        partsOf_trimmed (p := p) hopen hclose hcontent hfeed, haccepts] at haccepts'
      exact .inl (Option.some.inj (Except.ok.inj haccepts')).symm
  | none =>
    rw [hfind, Option.map_none] at hfirst hfirst'
    have hblank : Text.isBlankText line' = Text.isBlankText line := by
      rw [Bool.eq_iff_iff, ← LineClass.ofLine_eq_blank, ← LineClass.ofLine_eq_blank, hclass]
    unfold Parser.read
    rw [hstate, hfirst, hfirst']
    dsimp only
    rw [hblank]
    split
    · exact .blank _ _
    · exact .fault _ _

/-- A line with a fault is counted, and leaves the parser as it was otherwise. -/
theorem parser_of_fault {line : Option String} (h : (p.report line).fault ≠ none) :
    (p.report line).parser = p.count line := by
  rcases p.report_cases line with ⟨fault, -, hreport⟩ | ⟨text, -, -, -, hreport⟩ |
    ⟨row, parts, events, -, -, -, hreport⟩
  · rw [hreport]
  · rw [hreport] at h
    exact absurd rfl h
  · rw [hreport] at h
    exact absurd rfl h

/-- Where a multiline block begins, its indentation is noted. -/
theorem indent_of_opening (houtside : p.state.afterBlock? = none) (hended : p.state ≠ .ended)
    (hfeed : '\n' ∉ line.toList) (hinside : (p.report (some line)).parser.state.afterBlock? ≠ none) :
    LineClass.ofLine line = .delimiter ∧ (p.report (some line)).parser.indent = some (width line) := by
  rcases report_outside houtside hended hfeed with ⟨-, -, hopens⟩ | ⟨hfault, -⟩
  · exact hopens hinside
  · rw [parser_of_fault hfault, state_count] at hinside
    exact absurd houtside hinside

/-- **A line outside of multiline blocks**, with other blanks around it. Where it opens a block, it has to
stand behind the margin of the block. -/
theorem report_of_trimmed (houtside : p.state.afterBlock? = none) (hended : p.state ≠ .ended)
    (hstate : q.state = p.state) (hmargin : margin.all Text.isBlank = true)
    (hfeed : '\n' ∉ line.toList) (hfeed' : '\n' ∉ line'.toList)
    (htrim : Text.trimmed line' = Text.trimmed line)
    (hopens : (p.report (some line)).parser.state.afterBlock? ≠ none → Shifted margin line line') :
    (p.report (some line)).Alike (q.report (some line')) ∧
      Moved margin (p.report (some line)).parser (q.report (some line')).parser := by
  have hread : Reading.Alike ((p.count (some line)).read (some line))
      ((q.count (some line')).read (some line')) := by
    refine read_of_trimmed ?_ ?_ hfeed hfeed' htrim
    · rwa [state_count]
    · rwa [state_count, state_count]
  obtain ⟨halike, hnext⟩ := report_of_alike hread hstate
  refine ⟨halike, hnext, fun hinside => ?_⟩
  obtain ⟨hdelimiter, hindent⟩ := indent_of_opening houtside hended hfeed hinside
  rw [← hstate] at houtside hended
  rw [← hnext] at hinside
  obtain ⟨-, hindent'⟩ := indent_of_opening houtside hended hfeed' hinside
  rw [hnext] at hinside
  refine ⟨_, hindent, ?_⟩
  rw [hindent', (hopens hinside).width_eq hmargin (isBlankText_of_delimiter hdelimiter)]

/-! ### Within multiline blocks -/

/-- Within a multiline block the indentation stays as it has been noted. -/
theorem indent_of_within (hinside : p.state.afterBlock? ≠ none) (hindent : p.indent = some w)
    (hnext : (p.report (some line)).parser.state.afterBlock? ≠ none) :
    (p.report (some line)).parser.indent = some w := by
  obtain ⟨t, ht⟩ := Option.ne_none_iff_exists'.mp hinside
  rcases report_within line ht hindent with ⟨-, -, hclosed⟩ | ⟨-, -, -, hnoted⟩ | ⟨-, -, hfault⟩
  · rw [hclosed] at hnext
    exact absurd (p.state.inside_of_afterBlock? t ht).2.2.1 hnext
  · exact hnoted
  · rw [parser_of_fault hfault, indent_count]
    exact hindent

/-- **A line within a multiline block** stands behind the margin of the block. -/
theorem report_of_shifted (hinside : p.state.afterBlock? ≠ none) (hmoved : Moved margin p q)
    (hmargin : margin.all Text.isBlank = true) (hfeed : '\n' ∉ line.toList) (hfeed' : '\n' ∉ line'.toList)
    (hshifted : Shifted margin line line') :
    (p.report (some line)).Alike (q.report (some line')) ∧
      Moved margin (p.report (some line)).parser (q.report (some line')).parser := by
  obtain ⟨hstate, hindents⟩ := hmoved
  obtain ⟨w, hindent, hindent'⟩ := hindents hinside
  obtain ⟨t, ht⟩ := Option.ne_none_iff_exists'.mp hinside
  have hblank := hshifted.isBlankText_eq hmargin
  have hdedent : width line' < margin.length + w ∧ Text.isBlankText line' = false ↔
      width line < w ∧ Text.isBlankText line = false := by
    rw [hblank]
    refine and_congr_left fun hnot => ?_
    rw [hshifted.width_eq hmargin hnot]
    omega
  have hread : Reading.Alike ((p.count (some line)).read (some line))
      ((q.count (some line')).read (some line')) := by
    rw [read_within (t := t) (w := w) (by rwa [state_count]) (by rwa [indent_count]),
      read_within (t := t) (w := margin.length + w) (by rwa [state_count, hstate]) (by rwa [indent_count])]
    simp only [hshifted.delimits_iff hmargin hfeed hfeed', hdedent, hshifted.drop_eq, state_count, hstate]
    split
    · exact .fires _ _ _ (.inl rfl)
    · split
      · exact .fault _ _
      · exact .fires _ _ _ (.inl rfl)
  obtain ⟨halike, hnext⟩ := report_of_alike hread hstate
  refine ⟨halike, hnext, fun hstays => ?_⟩
  rw [← hstate] at hinside
  rw [← hnext] at hstays
  have hnoted' := indent_of_within hinside hindent' hstays
  rw [hnext] at hstays
  rw [hstate] at hinside
  exact ⟨w, indent_of_within hinside hindent hstays, hnoted'⟩

end Parser

/-! ## Texts -/

namespace Text

/-- The pieces of a text between its line feeds. Each is a line, the last one if there is anything in it. -/
def pieces (text : String) : List (List Char) :=
  cutAt (· == '\n') text.toList

variable {text line : String} {k : Nat}

/-- The lines of a text are its pieces, without the carriage return before a line feed. -/
theorem exists_piece (hline : (linesOf text)[k]? = some line) :
    ∃ piece, (pieces text)[k]? = some piece ∧
      (k + 1 < (pieces text).length ∧ line = String.ofList (withoutReturn '\r' piece) ∨
        k + 1 = (pieces text).length ∧ line = String.ofList piece) := by
  obtain ⟨complete, rest, hsplits⟩ := exists_splits '\n' text.toList
  have hpieces : pieces text = complete ++ [rest] := hsplits.cutAt_eq
  rw [linesOf_of_splits hsplits, List.getElem?_map, Option.map_eq_some_iff] at hline
  obtain ⟨piece, hpiece, rfl⟩ := hline
  rw [hpieces, List.length_append, List.length_singleton]
  rcases Nat.lt_or_ge k complete.length with hk | hk
  · rw [List.getElem?_append_left (by simpa using hk), List.getElem?_map, Option.map_eq_some_iff] at hpiece
    obtain ⟨cs, hcs, rfl⟩ := hpiece
    refine ⟨cs, ?_, .inl ⟨by omega, rfl⟩⟩
    rw [List.getElem?_append_left hk]
    exact hcs
  · rw [List.getElem?_append_right (by simpa using hk), List.length_map] at hpiece
    have hlast : k = complete.length ∧ piece = rest := by
      split at hpiece
      · cases hpiece
      · obtain ⟨hlt, heq⟩ := List.getElem?_eq_some_iff.mp hpiece
        rw [List.length_singleton] at hlt
        refine ⟨by omega, ?_⟩
        rw [List.getElem_singleton] at heq
        exact heq.symm
    obtain ⟨rfl, rfl⟩ := hlast
    exact ⟨piece, by simp, .inr ⟨rfl, rfl⟩⟩

/-- There is a line for every piece, unless there is nothing in the last one. -/
theorem length_linesOf (text : String) :
    (linesOf text).length + 1 = (pieces text).length ∧ (pieces text)[(linesOf text).length]? = some [] ∨
      (linesOf text).length = (pieces text).length := by
  obtain ⟨complete, rest, hsplits⟩ := exists_splits '\n' text.toList
  have hpieces : pieces text = complete ++ [rest] := hsplits.cutAt_eq
  rw [linesOf_of_splits hsplits, hpieces]
  cases rest with
  | nil => exact .inl (by simp)
  | cons c rest => exact .inr (by simp)

/-- A carriage return at the end of a line is one of the blanks around its text. -/
theorem trim_withoutReturn (cs : List Char) : trim (withoutReturn '\r' cs) = trim cs := by
  rcases cs.eq_nil_or_concat with rfl | ⟨ds, c, rfl⟩
  · rfl
  rw [List.concat_eq_append]
  by_cases hc : c = '\r'
  · subst hc
    rw [withoutReturn_concat, trim_append_of_all ds (by decide)]
  · rw [withoutReturn_of_ne (by simpa using hc)]

end Text

namespace Grammar

open Acceptance.Text

variable {margin piece : List Char}

/-- A carriage return at the end of a line is not part of its margin, unless the line is empty. -/
theorem shifted_withoutReturn (hmargin : margin.all isBlank = true) (piece : List Char) :
    Shifted margin (String.ofList (withoutReturn '\r' piece))
      (String.ofList (withoutReturn '\r' (margin ++ piece))) := by
  rcases piece.eq_nil_or_concat with rfl | ⟨cs, c, rfl⟩
  · refine .inr ⟨rfl, ?_, ?_⟩
    · rw [isBlankText, String.toList_ofList, List.append_nil, ← trim_eq_nil_iff, trim_withoutReturn,
        trim_eq_nil_iff]
      exact hmargin
    · rw [String.toList_ofList, List.append_nil]
      unfold withoutReturn
      split
      · split
        · rw [List.length_dropLast]
          omega
        · exact Nat.le_refl _
      · exact Nat.le_refl _
  · refine .inl ?_
    rw [String.toList_ofList, String.toList_ofList, List.concat_eq_append, ← List.append_assoc]
    by_cases hc : c = '\r'
    · subst hc
      rw [withoutReturn_concat, withoutReturn_concat]
    · rw [withoutReturn_of_ne (by simpa using hc), withoutReturn_of_ne (by simpa using hc), List.append_assoc]

end Grammar

/-- What has been reported about the first lines of a text. -/
def reportedOf (text : String) (k : Nat) : Transcript :=
  ({} : Parser).reportAll ((linesOf text).take k)

/-- Whether a multiline block is open behind the first lines of a text. -/
def BlockOpen (text : String) (k : Nat) : Prop :=
  (reportedOf text k).parser.state.afterBlock? ≠ none

/-- **Another layout of a text**: a margin has been put before all lines of a multiline block, from its opening
delimiter to the closing one, the same for all of them, and the blanks around any other line may differ. What
stands behind a fault may be any text. -/
structure Relaid (margin : Nat → List Char) (text text' : String) : Prop where
  length_eq : (Text.pieces text').length = (Text.pieces text).length
  /-- A margin is blank. -/
  blank : ∀ k, (margin k).all Text.isBlank = true
  /-- Lines of the same block have the same margin. -/
  common : ∀ k, BlockOpen text (k + 1) → margin (k + 1) = margin k
  within : ∀ k piece piece', (Text.pieces text)[k]? = some piece → (Text.pieces text')[k]? = some piece' →
    (reportedOf text k).fault = none → BlockOpen text k ∨ BlockOpen text (k + 1) → piece' = margin k ++ piece
  outside : ∀ k piece piece', (Text.pieces text)[k]? = some piece → (Text.pieces text')[k]? = some piece' →
    (reportedOf text k).fault = none → ¬ BlockOpen text k → ¬ BlockOpen text (k + 1) →
    Text.trim piece' = Text.trim piece

namespace Relaid

open Acceptance.Text

variable {margin : Nat → List Char} {text text' line line' : String} {k : Nat}

/-- **Lines of two layouts.** -/
theorem of_lines (h : Relaid margin text text') (hline : (linesOf text)[k]? = some line)
    (hline' : (linesOf text')[k]? = some line') (hfault : (reportedOf text k).fault = none) :
    (BlockOpen text k ∨ BlockOpen text (k + 1) → Shifted (margin k) line line') ∧
      trimmed line' = trimmed line := by
  obtain ⟨piece, hpiece, heq⟩ := exists_piece hline
  obtain ⟨piece', hpiece', heq'⟩ := exists_piece hline'
  rw [h.length_eq] at heq'
  -- both lines end with their pieces, or both with a line feed
  have hends : line = String.ofList (withoutReturn '\r' piece) ∧
        line' = String.ofList (withoutReturn '\r' piece') ∨
      line = String.ofList piece ∧ line' = String.ofList piece' := by
    rcases heq with ⟨hk, heq⟩ | ⟨hk, heq⟩
    · rcases heq' with ⟨-, heq'⟩ | ⟨hk', -⟩
      · exact .inl ⟨heq, heq'⟩
      · omega
    · rcases heq' with ⟨hk', -⟩ | ⟨-, heq'⟩
      · omega
      · exact .inr ⟨heq, heq'⟩
  by_cases hblock : BlockOpen text k ∨ BlockOpen text (k + 1)
  · have hshifted : Shifted (margin k) line line' := by
      have hpieces := h.within k piece piece' hpiece hpiece' hfault hblock
      subst hpieces
      rcases hends with ⟨rfl, rfl⟩ | ⟨rfl, rfl⟩
      · exact shifted_withoutReturn (h.blank k) piece
      · exact .inl (by rw [String.toList_ofList, String.toList_ofList])
    exact ⟨fun _ => hshifted, hshifted.trimmed_eq (h.blank k)⟩
  · refine ⟨fun hopen => absurd hopen hblock, ?_⟩
    have htrim := h.outside k piece piece' hpiece hpiece' hfault (fun hk => hblock (.inl hk))
      (fun hk => hblock (.inr hk))
    unfold trimmed
    rcases hends with ⟨rfl, rfl⟩ | ⟨rfl, rfl⟩
    · rw [String.toList_ofList, String.toList_ofList, trim_withoutReturn, trim_withoutReturn, htrim]
    · rw [String.toList_ofList, String.toList_ofList, htrim]

end Relaid

/-- What is reported of one line more. -/
theorem reportedOf_succ {text line : String} {k : Nat} (hline : (linesOf text)[k]? = some line) :
    reportedOf text (k + 1) = (reportedOf text k).andThen fun p => p.report (some line) := by
  unfold reportedOf
  rw [List.take_add_one, hline, Option.toList_some, Parser.reportAll_append]
  congr 1
  funext p
  exact Transcript.andThen_nothing _

namespace Relaid

open Acceptance.Text

variable {margin : Nat → List Char} {text text' line line' : String} {k : Nat}

/-- **One line** of two layouts. -/
theorem report (h : Relaid margin text text') (hline : (linesOf text)[k]? = some line)
    (hline' : (linesOf text')[k]? = some line') (hfault : (reportedOf text k).fault = none)
    (hmoved : Parser.Moved (margin k) (reportedOf text k).parser (reportedOf text' k).parser) :
    ((reportedOf text k).parser.report (some line)).Alike ((reportedOf text' k).parser.report (some line')) ∧
      Parser.Moved (margin k) ((reportedOf text k).parser.report (some line)).parser
        ((reportedOf text' k).parser.report (some line')).parser := by
  obtain ⟨hshifted, htrim⟩ := h.of_lines hline hline' hfault
  have hfeed := notMem_of_mem_linesOf (List.mem_of_getElem? hline)
  have hfeed' := notMem_of_mem_linesOf (List.mem_of_getElem? hline')
  have hended := (Parser.reportAll_of_lines hfault).2 (by decide)
  by_cases hopen : BlockOpen text k
  · exact Parser.report_of_shifted hopen hmoved (h.blank k) hfeed hfeed' (hshifted (.inl hopen))
  · have houtside : (reportedOf text k).parser.state.afterBlock? = none := by
      simpa [BlockOpen] using hopen
    refine Parser.report_of_trimmed houtside hended hmoved.1 (h.blank k) hfeed hfeed' htrim fun hnext => ?_
    refine hshifted (.inr ?_)
    unfold BlockOpen
    rw [reportedOf_succ hline, Transcript.andThen_of_none hfault]
    exact hnext

/-- **The first lines** of two layouts are reported alike, by induction on their number. -/
theorem reported (h : Relaid margin text text') (hk : k ≤ (linesOf text).length)
    (hk' : k ≤ (linesOf text').length) :
    (reportedOf text k).Alike (reportedOf text' k) ∧
      ((reportedOf text k).fault = none →
        Parser.Moved (margin k) (reportedOf text k).parser (reportedOf text' k).parser) := by
  induction k with
  | zero =>
    have hnothing (text : String) : reportedOf text 0 = { events := [], parser := {} } := by
      unfold reportedOf
      rw [List.take_zero]
      rfl
    rw [hnothing, hnothing]
    exact ⟨⟨rfl, Iff.rfl⟩, fun _ => ⟨rfl, fun hinside => absurd rfl hinside⟩⟩
  | succ k ih =>
    obtain ⟨halike, hmoved⟩ := ih (by omega) (by omega)
    have hline := List.getElem?_eq_getElem hk
    have hline' := List.getElem?_eq_getElem hk'
    have hsucc := reportedOf_succ hline
    rw [hsucc, reportedOf_succ hline']
    refine ⟨halike.andThen fun hfault => (h.report hline hline' hfault (hmoved hfault)).1, fun hnext => ?_⟩
    obtain ⟨hfault, -⟩ := Transcript.fault_andThen_eq_none.mp hnext
    obtain ⟨hstate, hindent⟩ := (h.report hline hline' hfault (hmoved hfault)).2
    rw [Transcript.andThen_of_none hfault, Transcript.andThen_of_none (halike.fault.mpr hfault)]
    refine ⟨hstate, fun hinside => ?_⟩
    have hopen : BlockOpen text (k + 1) := by
      unfold BlockOpen
      rw [hsucc, Transcript.andThen_of_none hfault]
      exact hinside
    rw [h.common k hopen]
    exact hindent hinside

end Relaid

end Acceptance
