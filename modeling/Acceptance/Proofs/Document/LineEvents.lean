import Acceptance.Proofs.Document.Faults
import Acceptance.Proofs.Document.Place

/-!
# What is reported about each line

Every line of a document is reported once, in order. A row of the grammar has closing actions for what the
line ends, and one action for the line itself, which depends on the class of the line; a line without a row is
blank and reported as it is. So the events about lines, among all the events of a reading, stand in a row with
the lines (`Session.reports_lines_of_accepting`).
-/

set_option autoImplicit false

namespace Acceptance

open Acceptance.Grammar

/-! ## Events about lines -/

/-- What an event is about. -/
inductive Role where
  /-- A line of the document. -/
  | line
  /-- The end of a construct that other lines have made. -/
  | closing
  /-- The beginning of the document or of a description, which the event about the line follows. -/
  | opening
  deriving DecidableEq, Repr

/-- The role of an event: it tells a line, or that something begins or ends. -/
def Event.role : Event → Role
  | .startFeature _ | .startBackground _ | .startScenario _ | .startOutline _ | .startExamples _
  | .startStep _ _ | .startMultiline _ | .finishMultiline | .startTable _ | .tableData _ | .tags _
  | .comment _ | .data _ | .whitespace _ => .line
  | .finishParse | .finishFeature | .finishDescription | .finishBackground | .finishScenario
  | .finishOutline | .finishExamples | .finishStep | .finishTable => .closing
  | .startParse _ | .startDescription => .opening

/-- The events about lines, in order. -/
def Event.aboutLines (events : List Event) : List Event :=
  events.filter (·.role = .line)

/-- The width of the multiline block that events have begun and not ended. -/
def Event.openWidth (events : List Event) : Option Nat :=
  events.foldl Parser.indentAfter none

namespace Grammar

/-- The role of the events that an action makes. -/
def Action.role : Action → Role
  | .startFeature | .startBackground | .startScenario | .startOutline | .startExamples | .startStep
  | .startMultiline | .multilineData | .finishMultiline | .startTable | .tableData | .tags | .comment
  | .data => .line
  | .finishFeature | .finishDescription | .finishBackground | .finishScenario | .finishOutline
  | .finishExamples | .finishStep | .finishTable => .closing
  | .startDescription => .opening

/-- The actions that report a line of a class. -/
def Matcher.lineActions : Matcher → List Action
  | .endOfInput => []
  | .comment => [.comment]
  | .tags => [.tags]
  | .feature => [.startFeature]
  | .background => [.startBackground]
  | .scenario => [.startScenario]
  | .outline => [.startOutline]
  | .examples => [.startExamples]
  | .step => [.startStep]
  | .multilineOpen => [.startMultiline]
  | .multilineClose => [.finishMultiline]
  | .multilineContent => [.multilineData]
  | .tableRow => [.startTable, .tableData]
  | .text => [.data]

/-- An event has the role of the action that has made it. -/
theorem Action.role_event {parts : List String} {a : Action} {event : Event}
    (h : a.event parts = .ok event) : event.role = a.role := by
  cases a with
  | startStep =>
    obtain ⟨keyword, text, rfl⟩ := Action.eq_startStep_of_event h
    rfl
  | _ => cases h; rfl

/-- The events about lines are those that the actions about lines make. -/
theorem Reports.aboutLines {parts : List String} {actions : List Action} {events : List Event}
    (h : Reports parts actions events) :
    Reports parts (actions.filter (·.role = .line)) (Event.aboutLines events) := by
  induction h with
  | nil => exact .nil
  | @cons a event actions events hevent hrest ih =>
    have hrole := Action.role_event hevent
    by_cases hline : a.role = .line
    · rw [Event.aboutLines, List.filter_cons_of_pos (by simpa using hline),
        List.filter_cons_of_pos (by simpa [hrole] using hline)]
      exact .cons hevent ih
    · rw [Event.aboutLines, List.filter_cons_of_neg (by simpa using hline),
        List.filter_cons_of_neg (by simpa [hrole] using hline)]
      exact ih

/-- **Every row for lines has one action for its line**, and that belongs to the class of the line. -/
theorem exists_lineAction : ∀ s : State, ∀ row ∈ standard.rows s, row.matcher ≠ .endOfInput →
    ∃ a ∈ row.matcher.lineActions, row.actions.filter (·.role = .line) = [a] := by
  intro s
  cases s <;> decide

/-- At the end of input things end, and nothing is reported of a line. -/
theorem role_of_endOfInput : ∀ s : State, ∀ row ∈ standard.rows s, row.matcher = .endOfInput →
    ∀ a ∈ row.actions, a.role = .closing := by
  intro s
  cases s <;> decide

end Grammar

/-- An event about a line, taken from the line and from the indentation of the open block: it reports the
parts that a class of lines finds in the line, or the line as it is if that is blank. -/
inductive Event.TakenFrom (indent : Option Nat) (line : String) : Event → Prop where
  | parts {m : Matcher} {a : Action} {parts : List String} {event : Event} :
      a ∈ m.lineActions →
      ({ indent := indent } : Parser).partsOf m line = .ok (some parts) →
      a.event parts = .ok event →
      TakenFrom indent line event
  | blank : Text.isBlankText line = true → TakenFrom indent line (.whitespace line)

namespace Parser

variable {p q : Parser} {m : Matcher} {line : String} {parts : List String}

/-- The parts of a line depend on nothing but the line and the indentation noted. -/
theorem partsOf_of_indent (hindent : p.indent = q.indent) (h : p.partsOf m line = .ok (some parts)) :
    q.partsOf m line = .ok (some parts) := by
  rw [partsOf_atLine (.inl hindent.symm), h]
  rfl

/-- **One line** is reported by one event about it. -/
theorem aboutLines_report (hok : (p.report (some line)).fault = none) :
    ∃ event, Event.aboutLines (p.report (some line)).events = [event] ∧
      event.TakenFrom p.indent line := by
  rcases p.report_cases (some line) with ⟨fault, -, hreport⟩ | ⟨text, htext, hblank, -, hreport⟩ |
    ⟨row, parts, events, hrow, haccepts, hevents, hreport⟩
  · rw [hreport] at hok
    cases hok
  · obtain rfl := Option.some.inj htext
    rw [hreport]
    exact ⟨.whitespace line, rfl, .blank hblank⟩
  · rw [hreport]
    have hparts : (p.count (some line)).partsOf row.matcher line = .ok (some parts) := haccepts
    have hmatcher : row.matcher ≠ .endOfInput := by
      intro hend
      rw [hend, partsOf] at hparts
      cases hparts
    obtain ⟨a, ha, hactions⟩ := exists_lineAction p.state row hrow hmatcher
    have habout := hevents.aboutLines
    rw [hactions] at habout
    cases hlist : Event.aboutLines events with
    | nil =>
      rw [hlist] at habout
      cases habout
    | cons event rest =>
      rw [hlist] at habout
      cases habout with
      | cons hevent hrest =>
        cases hrest
        refine ⟨event, rfl, .parts ha (partsOf_of_indent ?_ hparts) hevent⟩
        exact indent_count p (some line)

/-- **The end of input** reports nothing but ends. -/
theorem role_of_report_none : ∀ event ∈ (p.report none).events, event.role = .closing := by
  rcases p.report_cases none with ⟨fault, -, hreport⟩ | ⟨text, htext, -⟩ |
    ⟨row, parts, events, hrow, haccepts, hevents, hreport⟩
  · rw [hreport]
    simp
  · cases htext
  · rw [hreport]
    intro event hevent
    obtain ⟨a, ha, haction⟩ := exists_left_of_mem hevents hevent
    rw [Action.role_event haction]
    exact role_of_endOfInput p.state row hrow haccepts.1 a ha

end Parser

namespace Session

variable {σ ε : Type} {h : Handler σ ε} {source : String} {lines : List String}

/-- A line that is taken is reported by one event, among others that end what came before it. -/
theorem exists_chunk_of_feed (accepting : h.Accepting) {s next : Session (σ × List Event)} {line : String}
    (hfeed : feed h.recording s (some line) = (next, .ok ())) :
    ∃ chunk event, next.state.2 = s.state.2 ++ chunk ∧ Event.aboutLines chunk = [event] ∧
      event.TakenFrom s.parser.indent line := by
  have hfollows := feed_follows (h := h.recording) (some line) s
  rw [hfeed] at hfollows
  obtain ⟨-, hevents, houtcome⟩ := hfollows.recording accepting
  have hok : (s.parser.report (some line)).fault = none := Transcript.outcome_eq_ok.mp houtcome.symm
  obtain ⟨event, habout, htaken⟩ := Parser.aboutLines_report hok
  exact ⟨_, event, hevents, habout, htaken⟩

/-- Events that report the first lines of a document: there are as many events about lines as lines, and the
one about a line stands at its place and was added when the line was read. -/
structure ReportsLines (h : Handler σ ε) (s : Session (σ × List Event)) (source : String)
    (lines : List String) (count : Nat) (events : List Event) : Prop where
  length_eq : (Event.aboutLines events).length = count
  each : ∀ k line, k < count → lines[k]? = some line →
    ∃ before after chunk event,
      s.fed h.recording source (lines.take k) = (before, .ok ()) ∧
      s.fed h.recording source (lines.take (k + 1)) = (after, .ok ()) ∧
      after.state.2 = before.state.2 ++ chunk ∧
      Event.aboutLines chunk = [event] ∧
      (Event.aboutLines events)[k]? = some event ∧
      event.TakenFrom (Event.openWidth before.state.2) line

/-- The indentation that a parser keeps is that of the block which the events have opened and not closed. -/
theorem indent_of_fed (accepting : h.Accepting) {s reached : Session (σ × List Event)}
    (hnew : s.state.2 = []) (hreached : s.fed h.recording source lines = (reached, .ok ())) :
    reached.parser.indent = Event.openWidth reached.state.2 := by
  have hfollows := fed_follows (h := h.recording) source lines s
  rw [hreached] at hfollows
  obtain ⟨hparser, hevents, -⟩ := hfollows.recording accepting
  rw [Transcript.andThen_of_none rfl] at hparser hevents
  rw [hnew] at hevents
  rw [show reached.parser = _ from hparser, show reached.state.2 = _ from hevents]
  exact Parser.indent_reportAll {} lines

/-- **Lines are reported one by one**, by induction on their number: the next line adds one event about
itself to those about the lines before it. -/
theorem reportsLines_of_fed (accepting : h.Accepting) {s : Session (σ × List Event)}
    (hnew : s.state.2 = []) {count : Nat} (hcount : count ≤ lines.length)
    {reached : Session (σ × List Event)}
    (hreached : s.fed h.recording source (lines.take count) = (reached, .ok ())) :
    ReportsLines h s source lines count reached.state.2 := by
  induction count generalizing reached with
  | zero =>
    obtain ⟨started, hbegin, hstarted⟩ := goOn_eq_ok.mp hreached
    obtain rfl : started = reached := congrArg Prod.fst hstarted
    have hfollows : Follows h.recording s { events := [.startParse source], parser := {} }
        (begin h.recording s source) := send_follows (.startParse source) { s with parser := {} }
    rw [hbegin] at hfollows
    obtain ⟨-, hevents, -⟩ := hfollows.recording accepting
    rw [hnew] at hevents
    refine ⟨?_, fun k line hk => absurd hk (Nat.not_lt_zero k)⟩
    rw [show started.state.2 = _ from hevents]
    rfl
  | succ count ih =>
    obtain ⟨line, hline⟩ : ∃ line, lines[count]? = some line :=
      ⟨lines[count], List.getElem?_eq_getElem (by omega)⟩
    have htake : lines.take (count + 1) = lines.take count ++ [line] := by
      rw [List.take_add_one, hline, Option.toList_some]
    have hnext := hreached
    rw [htake, fed_append] at hnext
    obtain ⟨before, hbefore, hlast⟩ := goOn_eq_ok.mp hnext
    rw [feedAll_cons] at hlast
    obtain ⟨after, hfeed, hafter⟩ := goOn_eq_ok.mp hlast
    obtain rfl : after = reached := congrArg Prod.fst hafter
    obtain ⟨chunk, event, hevents, habout, htaken⟩ := exists_chunk_of_feed accepting hfeed
    obtain ⟨hlength, heach⟩ := ih (by omega) hbefore
    have happend : Event.aboutLines after.state.2 = Event.aboutLines before.state.2 ++ [event] := by
      rw [hevents, ← habout]
      exact List.filter_append _ _
    constructor
    · rw [happend, List.length_append, hlength, List.length_singleton]
    · intro k text hk htext
      rcases Nat.lt_succ_iff_lt_or_eq.mp hk with hearlier | rfl
      · obtain ⟨first, second, piece, report, hfirst, hsecond, hpiece, hreport, hplace, hfrom⟩ :=
          heach k text hearlier htext
        refine ⟨first, second, piece, report, hfirst, hsecond, hpiece, hreport, ?_, hfrom⟩
        rw [happend, List.getElem?_append_left (by omega)]
        exact hplace
      · obtain rfl := Option.some.inj (hline.symm.trans htext)
        rw [indent_of_fed accepting hnew hbefore] at htaken
        refine ⟨before, after, chunk, event, hbefore, hreached, hevents, habout, ?_, htaken⟩
        rw [happend, List.getElem?_append_right (by omega), hlength, Nat.sub_self]
        rfl

/-- **The end of a document** is reported by nothing but ends. -/
theorem exists_closing_of_finish (accepting : h.Accepting) {s ended : Session (σ × List Event)}
    (hfinish : finish h.recording s = (ended, .ok ())) :
    ∃ closing, ended.state.2 = s.state.2 ++ closing ∧ ∀ event ∈ closing, event.role = .closing := by
  rw [finish_eq_goOn] at hfinish
  obtain ⟨last, hlast, hsend⟩ := goOn_eq_ok.mp hfinish
  have hend := feed_follows (h := h.recording) none s
  have hparse := send_follows (h := h.recording) .finishParse last
  rw [hlast] at hend
  rw [hsend] at hparse
  obtain ⟨-, hclosing, -⟩ := hend.recording accepting
  obtain ⟨-, hfinished, -⟩ := hparse.recording accepting
  refine ⟨(s.parser.report none).events ++ [.finishParse], ?_, fun event hevent => ?_⟩
  · rw [show ended.state.2 = _ from hfinished, show last.state.2 = _ from hclosing, List.append_assoc]
  · rcases List.mem_append.mp hevent with hrow | hlast
    · exact Parser.role_of_report_none event hrow
    · rw [List.mem_singleton.mp hlast]
      rfl

/-- Events that end things do not change what is reported of lines. -/
theorem ReportsLines.append {s : Session (σ × List Event)} {count : Nat} {events closing : List Event}
    (reports : ReportsLines h s source lines count events)
    (hclosing : ∀ event ∈ closing, event.role = .closing) :
    ReportsLines h s source lines count (events ++ closing) := by
  have hnone : Event.aboutLines closing = [] := by
    refine List.filter_eq_nil_iff.mpr fun event hevent => ?_
    rw [hclosing event hevent]
    decide
  have happend : Event.aboutLines (events ++ closing) = Event.aboutLines events := by
    rw [Event.aboutLines, List.filter_append, ← Event.aboutLines, ← Event.aboutLines, hnone,
      List.append_nil]
  constructor
  · rw [happend]
    exact reports.length_eq
  · rw [happend]
    exact reports.each

/-- **Every line is reported once, in order**, to a handler that refuses nothing. A reading that succeeds has
reported all its lines, and adds nothing but ends when the input ends. A reading that fails at a line has
reported the lines before it, and one that fails at the end of input has reported all of them. -/
theorem reports_lines_of_accepting (accepting : h.Accepting) (p : Parser) (state : σ) (log : Log)
    (source : String) (lines : List String) :
    let s : Session (σ × List Event) := ⟨p, (state, []), log⟩
    let ended := s.parseLines h.recording source lines
    (ended.2 = .ok () →
      ReportsLines h s source lines lines.length ended.1.state.2 ∧
      ∃ reached closing, s.fed h.recording source lines = (reached, .ok ()) ∧
        ended.1.state.2 = reached.state.2 ++ closing ∧ ∀ event ∈ closing, event.role = .closing) ∧
    ∀ fault, ended.2 = .error (.fault fault) →
      (∀ number, fault.lineNumber? = some number →
        0 < number ∧ number ≤ lines.length ∧
          ReportsLines h s source lines (number - 1) ended.1.state.2) ∧
      (fault.lineNumber? = none → ReportsLines h s source lines lines.length ended.1.state.2) := by
  intro s ended
  have hall {reached : Session (σ × List Event)}
      (hreached : s.fed h.recording source lines = (reached, .ok ())) :
      ReportsLines h s source lines lines.length reached.state.2 := by
    refine reportsLines_of_fed accepting rfl le_rfl ?_
    rw [List.take_length]
    exact hreached
  constructor
  · intro hok
    have hended : s.parseLines h.recording source lines = (ended.1, .ok ()) := Prod.ext rfl hok
    rw [parseLines_eq_goOn] at hended
    obtain ⟨reached, hreached, hfinish⟩ := goOn_eq_ok.mp hended
    obtain ⟨closing, hevents, hclosing⟩ := exists_closing_of_finish accepting hfinish
    refine ⟨?_, reached, closing, hreached, hevents, hclosing⟩
    rw [hevents]
    exact (hall hreached).append hclosing
  · intro fault hfault
    constructor
    · intro number hnumber
      obtain ⟨line, reached, hstops, -⟩ := exists_stopsAt_of_lineNumber hfault hnumber
      have hevents : ended.1.state.2 = reached.state.2 := by rw [show ended.1 = _ from hstops.stopped]
      obtain ⟨hpos, hline⟩ := hstops.located
      obtain ⟨hlt, -⟩ := List.getElem?_eq_some_iff.mp hline
      rw [hevents]
      exact ⟨hpos, by omega, reportsLines_of_fed accepting rfl (by omega) hstops.accepted⟩
    · intro hnumber
      obtain ⟨reached, hreached, -, hended⟩ := exists_fed_of_lineNumber hfault hnumber
      rw [show ended.1 = _ from hended]
      exact hall hreached

/-- A document with a table and a multiline block whose lines are all reported, and one that stops at its
fourth line. -/
theorem reports_lines_table_and_block :
    let s : Session (List Event × List Event) := ⟨{}, ([], []), []⟩
    let sound := ["@a", "Feature: f", "  text", "", "  Scenario: s", "    Given x", "      | k |",
      "    And y", "    \"\"\"", "    # z", "", "    \"\"\""]
    let broken := ["Feature: f", "  Scenario: s", "    Given x", "y", "  @a"]
    let read := s.parseLines recorder.recording "f" sound
    let stopped := s.parseLines recorder.recording "f" broken
    recorder.Accepting ∧
      (read.2 = .ok () ∧ ReportsLines recorder s "f" sound 12 read.1.state.2) ∧
      ∃ fault, stopped.2 = .error (.fault fault) ∧ fault.lineNumber? = some 4 ∧
        ReportsLines recorder s "f" broken 3 stopped.1.state.2 := by
  intro s sound broken read stopped
  have accepting : recorder.Accepting := fun _ _ => rfl
  have hread : read.2 = .ok () := by rfl
  have hstopped : stopped.2 = .error (.fault (.unexpectedLine 4 .scenarioStep "y"
      [.comment, .step, .multilineOpen, .tableRow, .tags, .background, .scenario, .outline,
        .endOfInput])) := by rfl
  have hsound := (reports_lines_of_accepting accepting {} [] [] "f" sound).1 hread
  have hbroken := (reports_lines_of_accepting accepting {} [] [] "f" broken).2 _ hstopped
  exact ⟨accepting, ⟨hread, hsound.1⟩, _, hstopped, rfl, (hbroken.1 4 rfl).2.2⟩

end Session

end Acceptance
