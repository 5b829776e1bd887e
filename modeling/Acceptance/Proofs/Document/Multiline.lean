import Acceptance.Proofs.Document.Course
import Acceptance.Proofs.Document.Progress
import Acceptance.Proofs.Document.Recognition
import Acceptance.Proofs.Document.Streams
import Acceptance.Proofs.Document.Trimming

/-!
# Multiline blocks

Behind the line of a step a delimiter opens a multiline block, and the width of the delimiter is noted. Every
line from there on is content, without as many characters as the width, up to the first delimiter of the same
width, or up to the first line that is not blank and indented less (`Session.exists_endsBlock`). So a block
can carry any text: its lines come back if they are written behind the blanks of the delimiters
(`Grammar.within_of_text`), unless one of them is a delimiter itself.
-/

set_option autoImplicit false

namespace Acceptance

open Acceptance.Grammar Acceptance.Text

/-! ## Delimiters and contents -/

namespace Grammar

/-- The delimiter of multiline blocks. -/
def quotes : String :=
  "\"\"\""

/-- A text that would be a delimiter: the quotes, with nothing but blanks behind them. -/
def BareDelimiter (text : String) : Prop :=
  ∃ rest, text = quotes ++ rest ∧ isBlankText rest = true

/-- What the width of a block leaves of a line. -/
def cut (w : Nat) (line : String) : String :=
  String.ofList (line.toList.drop w)

variable {w : Nat} {line : String} {blanks : List Char}

/-- Blanks in front of a line belong to its indentation. -/
theorem indentation_append_of_all (h : blanks.all isBlank = true) (cs : List Char) :
    indentation (blanks ++ cs) = blanks ++ indentation cs :=
  List.takeWhile_append_of_pos (List.all_eq_true.mp h)

/-- Nothing is left of a line that is not longer than the width. -/
theorem cut_of_length_le (h : line.length ≤ w) : cut w line = "" := by
  unfold cut
  rw [List.drop_eq_nil_of_le (String.length_toList.trans_le h)]

/-- **A delimiter** is made of three quotes, with blanks around them. -/
theorem delimits_iff : Delimits w line ↔ ∃ blanks rest : List Char,
    line.toList = blanks ++ quotes.toList ++ rest ∧ blanks.length = w ∧ blanks.all isBlank = true ∧
      rest.all isBlank = true := by
  have hclass : LineClass.ofLine line = .delimiter ↔ (Matcher.multilineOpen.parts? line).isSome = true :=
    LineClass.ofLine_eq_iff rfl line
  have hparts : (Matcher.multilineOpen.parts? line).isSome = (delimiterParts line.toList).isSome :=
    Option.isSome_map
  unfold Delimits
  rw [hclass, hparts]
  constructor
  · rintro ⟨hsome, rfl⟩
    unfold delimiterParts at hsome
    split at hsome
    · next rest hrest =>
      split at hsome
      · next hblank =>
        refine ⟨indentation line.toList, rest, ?_, rfl, List.all_takeWhile, hblank⟩
        have hquotes : trimStart line.toList = quotes.toList ++ rest := eq_append_of_dropStart? hrest
        rw [List.append_assoc, ← hquotes]
        exact (indentation_append_trimStart line.toList).symm
      · cases hsome
    · cases hsome
  · rintro ⟨blanks, rest, hline, rfl, hblanks, hrest⟩
    have hstart : trimStart line.toList = '"' :: '"' :: '"' :: rest := by
      rw [hline, List.append_assoc, trimStart_append_of_all hblanks]
      rfl
    refine ⟨?_, ?_⟩
    · have hdrop : dropStart? ['"', '"', '"'] ('"' :: '"' :: '"' :: rest) = some rest := rfl
      unfold delimiterParts
      rw [hstart, hdrop]
      dsimp only
      rw [if_pos hrest]
      rfl
    · unfold width
      rw [hline, List.append_assoc, indentation_append_of_all hblanks]
      exact congrArg List.length (List.append_nil blanks)

/-- A blank line can be content of any block. -/
theorem within_of_isBlankText (h : isBlankText line = true) : Within w line := by
  refine ⟨.inl h, fun hdelimits => ?_⟩
  obtain ⟨blanks, rest, hline, -, -, -⟩ := delimits_iff.mp hdelimits
  have hquote : '"' ∈ line.toList := by
    rw [hline]
    simp [quotes]
  exact absurd (List.all_eq_true.mp h _ hquote) (by decide)

/-- A line outside of the contents of a block is a delimiter, or it is not blank and indented less. -/
theorem not_within : ¬ Within w line ↔ Delimits w line ∨ (isBlankText line = false ∧ width line < w) := by
  unfold Within
  rw [not_and_or, not_or, not_not, Bool.not_eq_true, Nat.not_le]
  exact or_comm

/-- Up to the first line that cannot be content, lines are content. -/
theorem exists_content (w : Nat) (lines : List String) : ∃ content rest, lines = content ++ rest ∧
    (∀ line ∈ content, Within w line) ∧ ∀ line more, rest = line :: more → ¬ Within w line := by
  induction lines with
  | nil => exact ⟨[], [], rfl, List.forall_mem_nil _, nofun⟩
  | cons line lines ih =>
    by_cases hline : Within w line
    · obtain ⟨content, rest, rfl, hwithin, hrest⟩ := ih
      exact ⟨line :: content, rest, rfl, List.forall_mem_cons.mpr ⟨hline, hwithin⟩, hrest⟩
    · refine ⟨[], line :: lines, rfl, List.forall_mem_nil _, ?_⟩
      rintro other more ⟨⟩
      exact hline

section Texts

variable {margin text : String}

/-- Behind the blanks of a block, the delimiters of the block are bare. -/
theorem delimits_append_iff (hmargin : isBlankText margin = true) :
    Delimits margin.length (margin ++ text) ↔ BareDelimiter text := by
  rw [delimits_iff]
  constructor
  · rintro ⟨blanks, rest, hline, hwidth, -, hrest⟩
    rw [String.toList_append, List.append_assoc] at hline
    obtain ⟨-, hquotes⟩ := List.append_inj hline (String.length_toList.trans hwidth.symm)
    refine ⟨String.ofList rest, ?_, ?_⟩
    · rw [← String.toList_inj, hquotes, String.toList_append, String.toList_ofList]
    · unfold isBlankText
      rw [String.toList_ofList]
      exact hrest
  · rintro ⟨rest, rfl, hrest⟩
    refine ⟨margin.toList, rest.toList, ?_, String.length_toList, hmargin, hrest⟩
    rw [String.toList_append, String.toList_append, List.append_assoc]

/-- A delimiter behind a margin closes a block of that indentation. -/
theorem delimits_of_margin (hmargin : isBlankText margin = true) :
    Delimits margin.length (margin ++ quotes) :=
  (delimits_append_iff hmargin).mpr ⟨"", rfl, rfl⟩

instance (text : String) : Decidable (BareDelimiter text) :=
  have hempty : Delimits 0 ("" ++ text) ↔ BareDelimiter text := delimits_append_iff rfl
  decidable_of_iff _ hempty

/-- The opening line of a block on one line has no line feed in it. -/
theorem notMem_opening (hline : '\n' ∉ margin.toList) : '\n' ∉ (margin ++ quotes).toList := by
  rw [String.toList_append, List.mem_append]
  exact fun hmem => hmem.elim hline (by decide)

/-- A text that is no delimiter comes back from behind the blanks of one. -/
theorem within_of_text (hmargin : isBlankText margin = true)
    (htext : ¬ BareDelimiter text) :
    Within margin.length (margin ++ text) ∧ cut margin.length (margin ++ text) = text := by
  have hlength : margin.toList.length = margin.length := String.length_toList
  refine ⟨⟨.inr ?_, fun hdelimits => htext ((delimits_append_iff hmargin).mp hdelimits)⟩, ?_⟩
  · unfold width
    rw [String.toList_append, indentation_append_of_all hmargin, List.length_append, hlength]
    exact Nat.le_add_right _ _
  · unfold cut
    rw [String.toList_append, ← hlength, List.drop_left, String.ofList_toList]

/-- The same holds in a text, where a line may lose a carriage return from among the blanks. -/
theorem within_of_asRead (hmargin : isBlankText margin = true)
    (htext : ¬ BareDelimiter text)
    (hreturn : text.toList.getLast? ≠ some '\r') :
    Within margin.length (asRead (margin ++ text)) ∧ cut margin.length (asRead (margin ++ text)) = text := by
  by_cases hempty : text = ""
  · subst hempty
    rw [String.append_empty]
    have hshort : withoutReturn '\r' margin.toList <+: margin.toList := withoutReturn_isPrefix _
    refine ⟨within_of_isBlankText ?_, ?_⟩
    · unfold isBlankText asRead
      rw [String.toList_ofList]
      exact List.all_eq_true.mpr fun c hc => List.all_eq_true.mp hmargin c (hshort.subset hc)
    · refine cut_of_length_le ?_
      unfold asRead
      rw [← String.length_toList, ← String.length_toList, String.toList_ofList]
      exact hshort.length_le
  · have hne : text.toList ≠ [] := by simpa using hempty
    have hlast : (margin ++ text).toList.getLast? ≠ some '\r' := by
      rw [String.toList_append, List.getLast?_append_of_ne_nil _ hne]
      exact hreturn
    rw [asRead_of_ne hlast]
    exact within_of_text hmargin htext

end Texts

end Grammar

/-! ## Lines of a block -/

/-- Texts as they are written into a multiline block: between delimiters, and behind the same margin. -/
def Grammar.blockLines (margin : String) (texts : List String) : List String :=
  (margin ++ quotes) :: texts.map (margin ++ ·) ++ [margin ++ quotes]

/-- The events of a multiline block of width `w` that holds texts, up to the end of its step. -/
def Event.ofBlock (w : Nat) (texts : List String) : List Event :=
  .startMultiline w :: texts.map .data ++ [.finishMultiline, .finishStep]

/-- The states of a kind of blocks. -/
def BlockKind.states : BlockKind → BlockStates
  | background => backgroundStates
  | scenario => scenarioStates
  | outline => outlineStates

namespace Grammar

/-- Where a step is open, a delimiter opens a multiline block. -/
theorem rowOf_delimiter (k : BlockKind) :
    (standard.rows k.states.step).find? (fun row => row.matcher.takes .delimiter) =
      some ⟨.multilineOpen, [.startMultiline], k.states.multiline⟩ := by
  cases k <;> rfl

/-- Inside a multiline block it is known where the document goes on behind that. -/
theorem afterBlock?_multiline (k : BlockKind) :
    k.states.multiline.afterBlock? = some k.states.header := by
  cases k <;> rfl

/-- Where a step is open, no multiline block is. -/
theorem afterBlock?_step (k : BlockKind) : k.states.step.afterBlock? = none := by
  cases k <;> rfl

/-- The beginning of a step is reported by its own action only. -/
theorem Action.eq_of_event_startStep {a : Action} {parts : List String} {keyword : Keyword} {text : String}
    (h : a.event parts = .ok (.startStep keyword text)) : a = .startStep := by
  cases a <;> first | rfl | cases h

/-- A step leads to the state of an open step, in the block in which it stands. -/
theorem next_of_startStep : ∀ s : State, ∀ row ∈ standard.rows s, .startStep ∈ row.actions →
    row.next = .backgroundStep ∨ row.next = .scenarioStep ∨ row.next = .outlineStep := by
  intro s
  cases s <;> decide

end Grammar

namespace Parser

variable {p : Parser} {k : BlockKind} {t : State} {w : Nat} {line : String}

/-- A delimiter behind the line of a step opens a block of its width. -/
theorem report_opening (hstate : p.state = k.states.step) (hclass : LineClass.ofLine line = .delimiter)
    (hline : '\n' ∉ line.toList) :
    ∃ q, p.report (some line) = ⟨[.startMultiline (width line)], q, none⟩ ∧
      q.state = k.states.multiline ∧ q.indent = some (width line) := by
  have hcounted : (p.count (some line)).state = k.states.step := by rw [state_count, hstate]
  have hrows := State.matcher_ne_of_afterBlock? _ (afterBlock?_step k)
  obtain ⟨parts, hfirst⟩ := firstRow_eq (p := p.count (some line)) hrows hline
  rw [hclass, rowOf_delimiter k] at hfirst
  have hread : (p.count (some line)).read (some line) =
      .fires ⟨.multilineOpen, [.startMultiline], k.states.multiline⟩ parts := by
    rw [read, hcounted, hfirst]
    rfl
  have hparts := (mem_and_accepts_of_read hread).2
  rw [Accepts, partsOf, Except.ok.injEq] at hparts
  obtain ⟨events, hevents, hreport⟩ := report_of_fires hread
  cases hevents with
  | cons hevent hnil =>
    cases hnil
    cases hevent
    rw [Matcher.length_headD_of_delimiter hparts] at hreport
    exact ⟨_, hreport, rfl, rfl⟩

/-- A line that can be content is content. -/
theorem report_content (hinside : p.state.afterBlock? = some t) (hindent : p.indent = some w)
    (hwithin : Within w line) :
    ∃ q, p.report (some line) = ⟨[.data (cut w line)], q, none⟩ ∧ q.state = p.state ∧ q.indent = some w := by
  have hread := read_within (p := p.count (some line)) (by rwa [state_count]) (by rwa [indent_count]) line
  have hdedent : ¬ (width line < w ∧ isBlankText line = false) := fun h =>
    not_within.mpr (.inr ⟨h.2, h.1⟩) hwithin
  rw [if_neg hwithin.2, if_neg hdedent] at hread
  obtain ⟨events, hevents, hreport⟩ := report_of_fires hread
  cases hevents with
  | cons hevent hnil =>
    cases hnil
    cases hevent
    exact ⟨_, hreport, state_count p (some line), hindent⟩

/-- A delimiter of the width of the block closes the block and its step. -/
theorem report_closing (hinside : p.state.afterBlock? = some t) (hindent : p.indent = some w)
    (hcloses : Delimits w line) :
    ∃ q, p.report (some line) = ⟨[.finishMultiline, .finishStep], q, none⟩ ∧ q.state = t := by
  have hread := read_within (p := p.count (some line)) (by rwa [state_count]) (by rwa [indent_count]) line
  rw [if_pos hcloses] at hread
  obtain ⟨events, hevents, hreport⟩ := report_of_fires hread
  cases hevents with
  | cons hfirst hrest =>
    cases hrest with
    | cons hsecond hnil =>
      cases hnil
      cases hfirst
      cases hsecond
      exact ⟨_, hreport, rfl⟩

/-- A line that is indented less than its block, and not blank, is a fault. -/
theorem report_dedented (hinside : p.state.afterBlock? = some t) (hindent : p.indent = some w)
    (hblank : isBlankText line = false) (hnarrow : width line < w) :
    p.report (some line) = ⟨[], p.count (some line), some (.dedent (p.lineNumber + 1) w line)⟩ := by
  have hread := read_within (p := p.count (some line)) (by rwa [state_count]) (by rwa [indent_count]) line
  have hcloses : ¬ Delimits w line := fun h => absurd h.2 (Nat.ne_of_lt hnarrow)
  rw [if_neg hcloses, if_pos ⟨hnarrow, hblank⟩] at hread
  exact report_of_fault hread

/-- A block that is still open at the end of input is a fault. -/
theorem report_none_within (hinside : p.state.afterBlock? = some t) :
    p.report none = ⟨[], p, some (.unexpectedEnd p.state [.multilineClose, .multilineContent])⟩ := by
  obtain ⟨hrows, -⟩ := p.state.inside_of_afterBlock? t hinside
  have hread : (p.count none).read none =
      .fault (.unexpectedEnd p.state [.multilineClose, .multilineContent]) := by
    show p.read none = _
    unfold read expected
    rw [hrows]
    rfl
  exact report_of_fault hread

/-- **The contents of a block** are reported line by line, and leave the parser within it. -/
theorem reportAll_content {content : List String} (hinside : p.state.afterBlock? = some t)
    (hindent : p.indent = some w) (hwithin : ∀ line ∈ content, Within w line) :
    ∃ q, p.reportAll content = ⟨content.map fun line => .data (cut w line), q, none⟩ ∧ q.state = p.state ∧
      q.indent = some w := by
  induction content generalizing p with
  | nil => exact ⟨p, rfl, rfl, hindent⟩
  | cons line content ih =>
    obtain ⟨hline, hcontent⟩ := List.forall_mem_cons.mp hwithin
    obtain ⟨q, hreport, hstate, hindent⟩ := report_content hinside hindent hline
    obtain ⟨q', hreports, hstate', hindent'⟩ := ih (p := q) (by rwa [hstate]) hindent hcontent
    refine ⟨q', ?_, hstate'.trans hstate, hindent'⟩
    rw [reportAll, hreport, Transcript.andThen_of_none rfl]
    dsimp only
    rw [hreports]
    rfl

/-- **An opening delimiter and contents** leave the parser within the block. -/
theorem reportAll_opening {opening : String} {content : List String} (hstate : p.state = k.states.step)
    (hclass : LineClass.ofLine opening = .delimiter) (hline : '\n' ∉ opening.toList)
    (hwithin : ∀ line ∈ content, Within (width opening) line) :
    ∃ q, p.reportAll (opening :: content) =
        ⟨.startMultiline (width opening) :: content.map fun line => .data (cut (width opening) line), q,
          none⟩ ∧
      q.state = k.states.multiline ∧ q.indent = some (width opening) := by
  obtain ⟨q, hreport, hopened, hindent⟩ := report_opening hstate hclass hline
  have hinside : q.state.afterBlock? = some k.states.header := by rw [hopened, afterBlock?_multiline]
  obtain ⟨q', hreports, hstate', hindent'⟩ := reportAll_content hinside hindent hwithin
  refine ⟨q', ?_, hstate'.trans hopened, hindent'⟩
  rw [reportAll, hreport, Transcript.andThen_of_none rfl]
  dsimp only
  rw [hreports]
  rfl

/-- **A block** is reported from one delimiter to the other, with the texts that its width leaves of its
lines, and ends its step. -/
theorem reportAll_block {opening closing : String} {lineOf : String → String} {texts : List String}
    (hstate : p.state = k.states.step) (hopens : Delimits w opening) (hline : '\n' ∉ opening.toList)
    (hlineOf : ∀ text ∈ texts, Within w (lineOf text) ∧ cut w (lineOf text) = text)
    (hcloses : Delimits w closing) :
    ∃ q, p.reportAll (opening :: texts.map lineOf ++ [closing]) = ⟨Event.ofBlock w texts, q, none⟩ ∧
      q.state = k.states.header := by
  obtain ⟨hclass, rfl⟩ := hopens
  have hwithin : ∀ line ∈ texts.map lineOf, Within (width opening) line := by
    intro line hmem
    obtain ⟨text, htext, rfl⟩ := List.mem_map.mp hmem
    exact (hlineOf text htext).1
  have hdata : (texts.map lineOf).map (fun line => Event.data (cut (width opening) line)) =
      texts.map .data := by
    rw [List.map_map]
    exact List.map_congr_left fun text htext => congrArg Event.data (hlineOf text htext).2
  obtain ⟨q, hreports, hopened, hindent⟩ := reportAll_opening hstate hclass hline hwithin
  have hinside : q.state.afterBlock? = some k.states.header := by rw [hopened, afterBlock?_multiline]
  obtain ⟨q', hreport, hended⟩ := report_closing hinside hindent hcloses
  refine ⟨q', ?_, hended⟩
  rw [reportAll_append, hreports, hdata, Transcript.andThen_of_none rfl]
  dsimp only
  rw [reportAll, hreport, Transcript.andThen_of_none rfl]
  rfl

end Parser

/-! ## Sessions -/

variable {σ ε : Type} {h : Handler σ ε}

namespace Session

/-- Lines that are fed without failure, with what is reported about them. -/
structure Takes (h : Handler σ ε) (s : Session (σ × List Event)) (lines : List String) (events : List Event)
    (fed : Session (σ × List Event)) : Prop where
  feeds : feedAll h.recording lines s = (fed, .ok ())
  reports : fed.state.2 = s.state.2 ++ events

/-- How the lines go on behind the contents of a block of width `n`: a delimiter of that width closes the
block and leads to the state `after`, or a line that is not blank is indented less and fails, or there are no
more lines, and then the end of input fails. -/
inductive EndsBlock (h : Handler σ ε) (n : Nat) (after : State) (s : Session (σ × List Event)) :
    List String → Prop where
  | closed {closing : String} {more : List String} {ended : Session (σ × List Event)} : Delimits n closing →
      s.Takes h [closing] [.finishMultiline, .finishStep] ended → ended.parser.state = after →
      EndsBlock h n after s (closing :: more)
  | dedented {line : String} {more : List String} {failed : Session (σ × List Event)} :
      isBlankText line = false → width line < n → failed.state = s.state →
      feedAll h.recording (line :: more) s =
        (failed, .error (.fault (.dedent (s.parser.lineNumber + 1) n line))) →
      EndsBlock h n after s (line :: more)
  | unterminated {failed : Session (σ × List Event)} : failed.state = s.state →
      feed h.recording s none =
        (failed, .error (.fault (.unexpectedEnd s.parser.state [.multilineClose, .multilineContent]))) →
      EndsBlock h n after s []

variable {s : Session (σ × List Event)} {lines : List String} {events : List Event} {q : Parser}

/-- A handler that refuses nothing takes lines without fault. -/
theorem exists_takes (accepting : h.Accepting) (hreports : s.parser.reportAll lines = ⟨events, q, none⟩) :
    ∃ fed, s.Takes h lines events fed ∧ fed.parser = q := by
  have hfollows := feedAll_follows (h := h.recording) lines s
  obtain ⟨hparser, hevents, houtcome⟩ := hfollows.recording accepting
  rw [hreports] at hparser hevents houtcome
  exact ⟨_, ⟨Prod.ext rfl houtcome, hevents⟩, hparser⟩

/-- A session that meets a fault and no event before it keeps the state of its handler. -/
theorem eq_error_of_follows {ended : Session (σ × List Event) × ReadOutcome ε}
    {fault : ParseFault} (hfollows : Follows h.recording s ⟨[], q, some fault⟩ ended) :
    ended.1.state = s.state ∧ ended = (ended.1, .error (.fault fault)) := by
  obtain ⟨-, hstate, houtcome⟩ := hfollows.of_ok (Handler.answerAll_nil h.recording s.state)
  exact ⟨hstate, Prod.ext rfl houtcome⟩

/-- **A step line** leaves the parser behind a step of one of the kinds of blocks. -/
theorem exists_state_of_startStep (accepting : h.Accepting) {line : String}
    {before : Session (σ × List Event)} {keyword : Keyword} {text : String} {closing : List Event}
    (hfed : feed h.recording before (some line) = (s, .ok ()))
    (hstep : s.state.2 = before.state.2 ++ (closing ++ [.startStep keyword text])) :
    ∃ k : BlockKind, s.parser.state = k.states.step := by
  have hfollows := feed_follows (h := h.recording) (some line) before
  rw [hfed] at hfollows
  obtain ⟨hparser, hevents, -⟩ := hfollows.recording accepting
  have hevents : (before.parser.report (some line)).events = closing ++ [.startStep keyword text] :=
    List.append_cancel_left (hevents.symm.trans hstep)
  have hmem : .startStep keyword text ∈ (before.parser.report (some line)).events := by
    rw [hevents]
    exact List.mem_append_right closing (List.mem_singleton.mpr rfl)
  rw [show s.parser = _ from hparser]
  rcases before.parser.report_cases (some line) with ⟨fault, -, hreport⟩ | ⟨blank, -, -, -, hreport⟩ |
    ⟨row, parts, events, hrow, -, hreports, hreport⟩
  · rw [hreport] at hmem
    cases hmem
  · rw [hreport] at hmem
    cases List.mem_singleton.mp hmem
  · rw [hreport] at hmem ⊢
    obtain ⟨a, ha, hevent⟩ := exists_left_of_mem hreports hmem
    obtain rfl := Action.eq_of_event_startStep hevent
    rcases next_of_startStep _ row hrow ha with hnext | hnext | hnext
    · exact ⟨.background, hnext⟩
    · exact ⟨.scenario, hnext⟩
    · exact ⟨.outline, hnext⟩

variable {k : BlockKind} {opening : String}

/-- **Whatever follows an opening delimiter** is content up to where the block ends. -/
theorem exists_endsBlock (accepting : h.Accepting) (hstate : s.parser.state = k.states.step)
    (hclass : LineClass.ofLine opening = .delimiter) (hline : '\n' ∉ opening.toList) (lines : List String) :
    ∃ content rest fed, lines = content ++ rest ∧ (∀ line ∈ content, Within (width opening) line) ∧
      s.Takes h (opening :: content)
        (.startMultiline (width opening) :: content.map fun line => .data (cut (width opening) line)) fed ∧
      fed.parser.state = k.states.multiline ∧ fed.EndsBlock h (width opening) k.states.header rest := by
  obtain ⟨content, rest, rfl, hwithin, hrest⟩ := exists_content (width opening) lines
  obtain ⟨q, hreports, hopened, hindent⟩ := Parser.reportAll_opening hstate hclass hline hwithin
  obtain ⟨fed, htakes, rfl⟩ := exists_takes accepting hreports
  refine ⟨content, rest, fed, rfl, hwithin, htakes, hopened, ?_⟩
  have hinside : fed.parser.state.afterBlock? = some k.states.header := by
    rw [hopened, afterBlock?_multiline]
  cases rest with
  | nil =>
    have hfollows := feed_follows (h := h.recording) none fed
    rw [Parser.report_none_within hinside] at hfollows
    obtain ⟨hsame, hfailed⟩ := eq_error_of_follows hfollows
    exact .unterminated hsame hfailed
  | cons line more =>
    rcases not_within.mp (hrest line more rfl) with hcloses | ⟨hblank, hnarrow⟩
    · obtain ⟨q, hreport, hended⟩ := Parser.report_closing hinside hindent hcloses
      have hone : fed.parser.reportAll [line] = ⟨[.finishMultiline, .finishStep], q, none⟩ := by
        rw [Parser.reportAll, hreport]
        rfl
      obtain ⟨ended, hcloses', rfl⟩ := exists_takes accepting hone
      exact .closed hcloses hcloses' hended
    · have hfollows := feedAll_follows (h := h.recording) (line :: more) fed
      rw [Parser.reportAll, Parser.report_dedented hinside hindent hblank hnarrow,
        Transcript.andThen_of_some rfl] at hfollows
      obtain ⟨hsame, hfailed⟩ := eq_error_of_follows hfollows
      exact .dedented hblank hnarrow hsame hfailed

/-- **A block carries any texts** that are no delimiters: they come back from behind the blanks. -/
theorem exists_takes_block (accepting : h.Accepting) (hstate : s.parser.state = k.states.step)
    {margin : String} {texts : List String} (hmargin : isBlankText margin = true)
    (hline : '\n' ∉ margin.toList) (htexts : ∀ text ∈ texts, ¬ BareDelimiter text) :
    ∃ fed, s.Takes h (blockLines margin texts) (Event.ofBlock margin.length texts) fed ∧
      fed.parser.state = k.states.header := by
  have hdelimits : Delimits margin.length (margin ++ quotes) := delimits_of_margin hmargin
  have hlineOf : ∀ text ∈ texts, Within margin.length (margin ++ text) ∧
      cut margin.length (margin ++ text) = text :=
    fun text htext => within_of_text hmargin (htexts text htext)
  obtain ⟨q, hreports, hended⟩ :=
    Parser.reportAll_block hstate hdelimits (notMem_opening hline) hlineOf hdelimits
  obtain ⟨fed, htakes, rfl⟩ := exists_takes accepting hreports
  exact ⟨fed, htakes, hended⟩

end Session

end Acceptance
