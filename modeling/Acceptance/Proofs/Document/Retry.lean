import Acceptance.Proofs.Document.Faults
import Acceptance.Proofs.Document.Place

/-!
# Lines that fail

A session may go on after a line that failed, because the document is at fault there or because the handler
has refused an event. The state of the parser and the line that it recognised last are then those before the
line. The indentation of a multiline block is noted and forgotten before the handler is asked, so it is not
always restored (`Session.parser_of_failed_feed`): a delimiter that would have closed a block is content when
it is read again, and all other lines are read as if they had not failed
(`Session.leaves_state_of_failed_feed`).
-/

set_option autoImplicit false

namespace Acceptance

open Acceptance.Grammar

variable {σ ε : Type}

namespace Reading

/-- Whether a line is read as the end of a multiline block. -/
def Closes : Reading → Prop
  | fires row _ => row.matcher = .multilineClose
  | blank _ | fault _ => False

/-- The indentation that a reading leaves if it fails, given the one noted before: what opens a block has
noted its indentation, and what closes one has forgotten it. -/
def indentLeft (indent : Option Nat) : Reading → Option Nat
  | fires ⟨.multilineOpen, _, _⟩ parts => some (parts.headD "").length
  | fires ⟨.multilineClose, _, _⟩ _ => none
  | fires _ _ | blank _ | fault _ => indent

/-- A line that opens and closes no block leaves the indentation as it was. -/
theorem indentLeft_of_ne {row : Transition} (hopen : row.matcher ≠ .multilineOpen)
    (hclose : row.matcher ≠ .multilineClose) (parts : List String) (indent : Option Nat) :
    (fires row parts).indentLeft indent = indent := by
  obtain ⟨matcher, actions, next⟩ := row
  cases matcher with
  | multilineOpen => exact absurd rfl hopen
  | multilineClose => exact absurd rfl hclose
  | _ => rfl

end Reading

/-- The handler that keeps every event but one, which it refuses. -/
def Handler.refusing (refused : Event) : Handler (List Event) Event :=
  ⟨fun seen event =>
    if event = refused then { state := seen, refusal := some event } else { state := seen ++ [event] }⟩

namespace Session

variable {h : Handler σ ε} {s : Session σ} {line : Option String} {failure : ReadFailure ε}

/-- Telling a handler of an event does not touch the parser. -/
theorem parser_send (h : Handler σ ε) (s : Session σ) (event : Event) :
    (send h s event).1.parser = s.parser := by
  unfold send
  dsimp only
  split <;> rfl

/-- What is done at once in a session, and then goes on in the same parser, leaves that parser. -/
theorem parser_goOn {p : Parser} {ended : Session σ × ReadOutcome ε}
    {go : Session σ → Session σ × ReadOutcome ε} (hended : ended.1.parser = p)
    (hgo : ∀ s : Session σ, s.parser = p → (go s).1.parser = p) : (goOn ended go).1.parser = p := by
  obtain ⟨s, failure | ⟨⟩⟩ := ended
  · exact hended
  · exact hgo s hended

/-- The actions of a row are told one after the other. -/
theorem fire_cons {parts : List String} {a : Action} {event : Event}
    (hevent : a.event parts = .ok event) (actions : List Action) (h : Handler σ ε) (s : Session σ) :
    fire h parts (a :: actions) s =
      goOn (send h { s with parser :=
        { s.parser with indent := Parser.indentAfter s.parser.indent event } } event)
        (fire h parts actions) := by
  rw [fire, hevent]
  dsimp only
  obtain ⟨sent, failure | ⟨⟩⟩ := send h _ event <;> rfl

/-- Actions that begin and end no multiline block leave the parser as it is, also where they are refused. -/
theorem parser_fire {parts : List String} {actions : List Action}
    (hactions : ∀ a ∈ actions, a ≠ .startMultiline ∧ a ≠ .finishMultiline) (h : Handler σ ε)
    (s : Session σ) : (fire h parts actions s).1.parser = s.parser := by
  induction actions generalizing s with
  | nil => rfl
  | cons a actions ih =>
    obtain ⟨hfirst, hrest⟩ := List.forall_mem_cons.mp hactions
    cases hevent : a.event parts with
    | error fault =>
      rw [fire, hevent]
    | ok event =>
      rw [fire_cons hevent, Parser.indentAfter_of_event hfirst hevent]
      exact parser_goOn (parser_send h s event) fun sent hsent => (ih hrest sent).trans hsent

/-- The beginning of a multiline block notes its indentation, also where it is refused. -/
theorem parser_fire_startMultiline (h : Handler σ ε) (parts : List String) (s : Session σ) :
    (fire h parts [.startMultiline] s).1.parser =
      { s.parser with indent := some (parts.headD "").length } := by
  rw [fire_cons rfl]
  exact parser_goOn (parser_send h _ _) fun sent hsent => hsent

/-- The end of a multiline block forgets the indentation, also where it or the end of the step is refused. -/
theorem parser_fire_finishMultiline (h : Handler σ ε) (parts : List String) (s : Session σ) :
    (fire h parts [.finishMultiline, .finishStep] s).1.parser = { s.parser with indent := none } := by
  rw [fire_cons rfl]
  exact parser_goOn (parser_send h _ _) fun sent hsent => (parser_fire (by decide) h sent).trans hsent

/-- **What a line that fails leaves**: the parser with the line counted, and in the place of the indentation
what the reading leaves there. -/
theorem parser_of_failed_feed (hfailed : (feed h s line).2 = .error failure) :
    (feed h s line).1.parser =
      { s.parser.count line with
        indent := ((s.parser.count line).read line).indentLeft s.parser.indent } := by
  have hcounted (indent : Option Nat) (hindent : indent = s.parser.indent) :
      s.parser.count line = { s.parser.count line with indent := indent } := by
    rw [hindent, ← Parser.indent_count s.parser line]
  cases hread : (s.parser.count line).read line with
  | fault fault =>
    unfold feed
    dsimp only
    rw [hread]
    exact hcounted _ rfl
  | blank text =>
    unfold feed
    dsimp only
    rw [hread]
    exact (parser_send h _ _).trans (hcounted _ rfl)
  | fires row parts =>
    let counted : Session σ :=
      ⟨s.parser.count line, s.state, s.log ++ [(s.parser.count line).traceRecord row]⟩
    have hfed : (feed h s line).1.parser = (fire h parts row.actions counted).1.parser := by
      unfold feed at hfailed ⊢
      dsimp only at hfailed ⊢
      rw [hread] at hfailed ⊢
      dsimp only at hfailed ⊢
      generalize fire h parts row.actions counted = fired at hfailed ⊢
      obtain ⟨fired, failure | ⟨⟩⟩ := fired
      · rfl
      · cases hfailed
    have hrow := (Parser.mem_and_accepts_of_read hread).1
    rw [hfed]
    obtain ⟨matcher, actions, next⟩ := row
    rcases indentation_of_row _ _ hrow with ⟨hmatcher, hactions, -⟩ | ⟨hmatcher, hactions, -⟩ |
      ⟨hopen, hclose, hactions, -⟩
    · dsimp only at hmatcher hactions
      subst hmatcher hactions
      exact parser_fire_startMultiline h parts counted
    · dsimp only at hmatcher hactions
      subst hmatcher hactions
      exact parser_fire_finishMultiline h parts counted
    · rw [parser_fire hactions, Reading.indentLeft_of_ne hopen hclose]
      exact hcounted _ rfl

/-- A parser without an indentation takes any line in a multiline block for content. -/
theorem read_of_no_indent {p : Parser} (hinside : p.state.afterBlock? ≠ none) (hindent : p.indent = none)
    (text : String) :
    p.read (some text) = .fires ⟨.multilineContent, [.multilineData], p.state⟩ [text] := by
  obtain ⟨t, ht⟩ := Option.ne_none_iff_exists'.mp hinside
  obtain ⟨hrows, -⟩ := p.state.inside_of_afterBlock? t ht
  have hclose : p.partsOf .multilineClose text = .ok none := by
    unfold Parser.partsOf
    dsimp only
    rw [hindent]
    split <;> rfl
  have hcontent : p.partsOf .multilineContent text = .ok (some [text]) := by
    unfold Parser.partsOf Parser.contentParts
    rw [hindent]
    dsimp only [Option.getD_none]
    rw [if_neg (by simp), List.drop_zero, String.ofList_toList]
    rfl
  unfold Parser.read
  rw [hrows, multilineRows, Parser.firstRow]
  dsimp only
  rw [hclose]
  dsimp only
  rw [Parser.firstRow]
  dsimp only
  rw [hcontent]

/-- Unless the reading closes a block, the parser that it leaves when it fails is at the same place, and notes
the same indentation when the line is read again. -/
theorem samePlace_of_indentLeft {p left : Parser} (hstate : left.state = p.state)
    (hindent : left.indent = ((p.count line).read line).indentLeft p.indent)
    (hcloses : ¬ ((p.count line).read line).Closes) :
    p.SamePlace left ∧ (left.report line).parser.indent = (p.report line).parser.indent := by
  have hsame (heq : left.indent = p.indent) :
      p.SamePlace left ∧ (left.report line).parser.indent = (p.report line).parser.indent := by
    have hplace : p.SamePlace left := ⟨hstate, .inl heq⟩
    refine ⟨hplace, ?_⟩
    rw [Parser.indent_report, Parser.indent_report, (hplace.report line).1, heq]
  cases hread : (p.count line).read line with
  | fault fault =>
    rw [hread] at hindent
    exact hsame hindent
  | blank text =>
    rw [hread] at hindent
    exact hsame hindent
  | fires row parts =>
    rw [hread] at hindent hcloses
    have hrow := (Parser.mem_and_accepts_of_read hread).1
    rw [Parser.state_count] at hrow
    rcases indentation_of_row _ _ hrow with ⟨-, hactions, houtside⟩ | ⟨hmatcher, -⟩ | ⟨hopen, hclose, -⟩
    · -- the indentation that has been noted does not count, and it is noted again
      have hplace : p.SamePlace left := ⟨hstate, .inr houtside⟩
      refine ⟨hplace, ?_⟩
      obtain ⟨events, hevents, hreport⟩ := Parser.report_of_fires hread
      have hsame := (hplace.report line).1
      rw [hactions] at hevents
      rw [Parser.indent_report, Parser.indent_report, hsame, hreport]
      cases hevents with
      | cons hevent hnil =>
        cases hnil
        cases hevent
        rfl
    · exact absurd hmatcher hcloses
    · exact hsame (hindent.trans (Reading.indentLeft_of_ne hopen hclose parts p.indent))

/-- **A line that fails leaves the state and the latest match as they were**, whatever the session has read
before, and whether the document is at fault or the handler refuses. The line is counted. The indentation is
the one that its reading leaves: it changes where a delimiter is refused that opens or closes a multiline
block. Once nothing is refused, the same line is read the same and leads to the same place as if it had not
failed, unless it closes a block. Then it is content, and the block stays open. -/
theorem leaves_state_of_failed_feed (h : Handler σ ε) (s : Session σ) (line : Option String)
    {failure : ReadFailure ε} (hfailed : (feed h s line).2 = .error failure) :
    let before := s.parser.count line
    let left := (feed h s line).1.parser
    left.state = s.parser.state ∧ left.lastMatch = s.parser.lastMatch ∧
      left.lineNumber = before.lineNumber ∧
      left.indent = (before.read line).indentLeft s.parser.indent ∧
      (¬ (before.read line).Closes →
        (left.count line).read line = (before.read line).atLine (left.count line).lineNumber ∧
        ∀ {τ δ : Type} (g : Handler τ δ), g.Accepting → ∀ state log,
          let again := (feed g ⟨left, state, log⟩ line).1
          let fresh := (feed g ⟨s.parser, state, log⟩ line).1
          again.parser.state = fresh.parser.state ∧ again.parser.lastMatch = fresh.parser.lastMatch ∧
            again.parser.indent = fresh.parser.indent ∧ again.state = fresh.state) ∧
      ((before.read line).Closes → ∃ text, line = some text ∧
        (left.count line).read line =
          .fires ⟨.multilineContent, [.multilineData], s.parser.state⟩ [text]) := by
  intro before left
  have hleft : left = { before with indent := (before.read line).indentLeft s.parser.indent } :=
    parser_of_failed_feed hfailed
  have hstate : left.state = s.parser.state := by rw [hleft]; exact Parser.state_count s.parser line
  have hlast : left.lastMatch = s.parser.lastMatch := by
    rw [hleft]
    exact Parser.lastMatch_count s.parser line
  have hindent : left.indent = (before.read line).indentLeft s.parser.indent := by rw [hleft]
  refine ⟨hstate, hlast, by rw [hleft], hindent, fun hopen => ?_, fun hcloses => ?_⟩
  · obtain ⟨hplace, hnoted⟩ := samePlace_of_indentLeft hstate hindent hopen
    obtain ⟨hevents, -, ⟨hnext, -⟩, hmatch⟩ := hplace.report line
    refine ⟨(hplace.count line).read line, fun g accepting state log => ?_⟩
    obtain ⟨hagain, hseen, -⟩ := (feed_follows line ⟨left, state, log⟩).of_ok
      (accepting.answerAll_eq_ok _ _)
    obtain ⟨hfresh, hshown, -⟩ := (feed_follows line ⟨s.parser, state, log⟩).of_ok
      (accepting.answerAll_eq_ok _ _)
    dsimp only at hagain hseen hfresh hshown ⊢
    rw [hagain, hseen, hfresh, hshown, hevents]
    exact ⟨hnext, hmatch hlast, hnoted, rfl⟩
  · cases hread : before.read line with
    | fires row parts =>
      obtain ⟨hrow, haccepts⟩ := Parser.mem_and_accepts_of_read hread
      rw [hread] at hindent hcloses
      obtain ⟨matcher, actions, next⟩ := row
      obtain rfl : matcher = .multilineClose := hcloses
      rw [Parser.state_count] at hrow
      have hinside : s.parser.state.afterBlock? ≠ none := fun houtside =>
        (s.parser.state.matcher_ne_of_afterBlock? houtside _ hrow).1 rfl
      cases line with
      | none => cases haccepts.1
      | some text =>
        refine ⟨text, rfl, ?_⟩
        rw [← hstate] at hinside ⊢
        rw [← Parser.state_count left (some text)] at hinside ⊢
        exact read_of_no_indent hinside ((Parser.indent_count left _).trans hindent) text
    | blank text =>
      rw [hread] at hcloses
      exact hcloses.elim
    | fault fault =>
      rw [hread] at hcloses
      exact hcloses.elim

/-- A delimiter that opens a block, refused and then read again. -/
theorem leaves_state_refused_opening :
    let h := Handler.refusing (.startMultiline 2)
    let s := (fed h ⟨{}, [], []⟩ "f" ["Feature: f", "Scenario: s", "Given x"]).1
    let left := (feed h s (some "  \"\"\"")).1.parser
    (feed h s (some "  \"\"\"")).2 = .error (.refused (.startMultiline 2)) ∧
      left.state = s.parser.state ∧ left.lastMatch = s.parser.lastMatch ∧ left.indent = some 2 ∧
      (feed recorder ⟨left, [], []⟩ (some "  \"\"\"")).1.parser.state =
        (feed recorder ⟨s.parser, [], []⟩ (some "  \"\"\"")).1.parser.state ∧
      (feed recorder ⟨s.parser, [], []⟩ (some "  \"\"\"")).1.parser.state = .scenarioMultiline := by
  intro h s left
  have hfailed : (feed h s (some "  \"\"\"")).2 = .error (.refused (.startMultiline 2)) := by rfl
  have hread : ((s.parser.count (some "  \"\"\"")).read (some "  \"\"\"")) =
      .fires ⟨.multilineOpen, [.startMultiline], .scenarioMultiline⟩ ["  "] := by rfl
  obtain ⟨hstate, hlast, -, hindent, hretry, -⟩ :=
    leaves_state_of_failed_feed h s (some "  \"\"\"") hfailed
  rw [hread] at hindent
  have hopens : ¬ ((s.parser.count (some "  \"\"\"")).read (some "  \"\"\"")).Closes := by
    rw [hread]
    exact nofun
  obtain ⟨-, hagain⟩ := hretry hopens
  obtain ⟨hsame, -⟩ := hagain recorder (fun _ _ => rfl) [] []
  have hopened : (feed recorder ⟨s.parser, [], []⟩ (some "  \"\"\"")).1.parser.state =
      .scenarioMultiline := by rfl
  unfold left
  exact ⟨hfailed, hstate, hlast, hindent, hsame, hopened⟩

/-- **A refused end of a block does not leave the indentation**: the delimiter that would have closed the
block is content when it is read again, and a line that is indented less than the block is content too. -/
theorem not_restored_refused_closing :
    let h := Handler.refusing .finishMultiline
    let s := (fed h ⟨{}, [], []⟩ "f" ["Feature: f", "Scenario: s", "Given x", "  \"\"\""]).1
    let left := (feed h s (some "  \"\"\"")).1.parser
    (feed h s (some "  \"\"\"")).2 = .error (.refused .finishMultiline) ∧
      s.parser.indent = some 2 ∧ left.indent = none ∧
      (feed recorder ⟨s.parser, [], []⟩ (some "  \"\"\"")).1.parser.state = .scenario ∧
      (feed recorder ⟨left, [], []⟩ (some "  \"\"\"")).1.parser.state = .scenarioMultiline ∧
      (feed recorder ⟨left, [], []⟩ (some "  \"\"\"")).1.state = [.data "  \"\"\""] ∧
      (feed recorder ⟨s.parser, [], []⟩ (some "y")).2 = .error (.fault (.dedent 5 2 "y")) ∧
      (feed recorder ⟨left, [], []⟩ (some "y")).2 = .ok () := by
  exact ⟨rfl, rfl, rfl, rfl, rfl, rfl, rfl, rfl⟩

end Session

end Acceptance
