import Mathlib.Data.List.Forall2
import Acceptance.Proofs.Document.Reading

/-!
# Transcripts

What a parser reports about a document depends on the lines alone. A `Transcript` is what is reported, the
parser that is left, and the fault that ended the reading if there was one; `Transcript.ofLines` computes it
without a handler. A session hands its transcript to its handler event by event, which is what
`Session.Follows` says. It is proved for every function of a session, and `Session.parse_follows` is the top:
the one theorem about sessions that the rest of the development rests on.
-/

set_option autoImplicit false

namespace Acceptance

open Acceptance.Grammar

variable {σ ε : Type}

/-! ## Handlers and lists of events -/

namespace Handler

/-- The state of a handler after an event, or its reason to refuse it. -/
def answer (h : Handler σ ε) (state : σ) (event : Event) : Except ε σ :=
  match (h.handle state event).refusal with
  | some reason => .error reason
  | none => .ok (h.handle state event).state

/-- The state of a handler after events, or its reason to refuse the first one that it refuses. -/
def answerAll (h : Handler σ ε) (state : σ) (events : List Event) : Except ε σ :=
  events.foldlM h.answer state

/-- A handler that refuses nothing. -/
def Accepting (h : Handler σ ε) : Prop :=
  ∀ state event, (h.handle state event).refusal = none

/-- Without events the state stays. -/
@[simp] theorem answerAll_nil (h : Handler σ ε) (state : σ) : h.answerAll state [] = .ok state :=
  rfl

/-- An event that is taken hands its state on to the next one. -/
theorem answerAll_cons_of_ok {h : Handler σ ε} {state next : σ} {event : Event} {events : List Event}
    (hok : h.answer state event = .ok next) :
    h.answerAll state (event :: events) = h.answerAll next events := by
  rw [answerAll, List.foldlM_cons, hok]
  rfl

/-- An event that is refused is the last one. -/
theorem answerAll_cons_of_error {h : Handler σ ε} {state : σ} {event : Event} {events : List Event}
    {reason : ε} (herror : h.answer state event = .error reason) :
    h.answerAll state (event :: events) = .error reason := by
  rw [answerAll, List.foldlM_cons, herror]
  rfl

/-- Events that are taken hand their state on to the others. -/
theorem answerAll_append_of_ok {h : Handler σ ε} {state next : σ} {first second : List Event}
    (hok : h.answerAll state first = .ok next) :
    h.answerAll state (first ++ second) = h.answerAll next second := by
  rw [answerAll, List.foldlM_append, ← answerAll, hok]
  rfl

/-- A refusal among the first events is that of all of them. -/
theorem answerAll_append_of_error {h : Handler σ ε} {state : σ} {first second : List Event}
    {reason : ε} (herror : h.answerAll state first = .error reason) :
    h.answerAll state (first ++ second) = .error reason := by
  rw [answerAll, List.foldlM_append, ← answerAll, herror]
  rfl

/-- Events are taken if the first one is, and then the others. -/
theorem answerAll_cons_eq_ok {h : Handler σ ε} {state last : σ} {event : Event} {events : List Event} :
    h.answerAll state (event :: events) = .ok last ↔
      ∃ next, h.answer state event = .ok next ∧ h.answerAll next events = .ok last := by
  cases hanswer : h.answer state event with
  | ok next => simp [answerAll_cons_of_ok hanswer]
  | error reason => simp [answerAll_cons_of_error hanswer]

/-- Events are taken if the first ones are, and then the others. -/
theorem answerAll_append_eq_ok {h : Handler σ ε} {state last : σ} {first second : List Event} :
    h.answerAll state (first ++ second) = .ok last ↔
      ∃ next, h.answerAll state first = .ok next ∧ h.answerAll next second = .ok last := by
  cases hfirst : h.answerAll state first with
  | ok next => simp [answerAll_append_of_ok hfirst]
  | error reason => simp [answerAll_append_of_error hfirst]

/-- **A handler that refuses nothing** comes through every list of events. -/
theorem Accepting.answerAll_eq_ok {h : Handler σ ε} (accepting : h.Accepting) (state : σ)
    (events : List Event) :
    h.answerAll state events = .ok (events.foldl (fun st e => (h.handle st e).state) state) := by
  induction events generalizing state with
  | nil => rfl
  | cons event events ih =>
    have hok : h.answer state event = .ok (h.handle state event).state := by
      rw [answer, accepting state event]
    rw [answerAll_cons_of_ok hok, ih, List.foldl_cons]

end Handler

/-- The handler that passes every event on and keeps it. -/
def Handler.recording (h : Handler σ ε) : Handler (σ × List Event) ε :=
  ⟨fun (state, seen) event =>
    let reply := h.handle state event
    { state := (reply.state, seen ++ [event]), log := reply.log, refusal := reply.refusal }⟩

/-- A handler that refuses nothing is shown every event, in order. -/
theorem Handler.Accepting.answerAll_recording {h : Handler σ ε} (accepting : h.Accepting) (state : σ)
    (seen events : List Event) :
    ∃ last, h.recording.answerAll (state, seen) events = .ok (last, seen ++ events) := by
  induction events generalizing state seen with
  | nil => exact ⟨state, by rw [answerAll_nil, List.append_nil]⟩
  | cons event events ih =>
    have hok : h.recording.answer (state, seen) event =
        .ok ((h.handle state event).state, seen ++ [event]) := by
      simp only [answer, recording, accepting state event]
    obtain ⟨last, hlast⟩ := ih (h.handle state event).state (seen ++ [event])
    refine ⟨last, ?_⟩
    rw [answerAll_cons_of_ok hok, hlast, List.append_assoc, List.singleton_append]

/-! ## What a parser reports -/

/-- What is reported, the parser that is left, and the fault that ended the reading. -/
structure Transcript where
  events : List Event
  parser : Parser
  fault : Option ParseFault := none

namespace Transcript

/-- Go on from the parser that is left, unless there was a fault. -/
def andThen (t : Transcript) (next : Parser → Transcript) : Transcript :=
  match t.fault with
  | some _ => t
  | none => { next t.parser with events := t.events ++ (next t.parser).events }

/-- How a reading with the transcript ends, if nothing is refused. -/
def outcome (t : Transcript) : ReadOutcome ε :=
  match t.fault with
  | some fault => .error (.fault fault)
  | none => .ok ()

/-- A transcript ends well just where it has no fault. -/
theorem outcome_eq_ok {t : Transcript} : (t.outcome : ReadOutcome ε) = .ok () ↔ t.fault = none := by
  unfold outcome
  cases t.fault <;> simp

/-- Going on does not take events back. -/
theorem events_prefix_andThen (t : Transcript) (next : Parser → Transcript) :
    t.events <+: (t.andThen next).events := by
  unfold andThen
  split
  · exact List.prefix_rfl
  · exact List.prefix_append _ _

/-- Without a fault a transcript goes on from its parser. -/
theorem andThen_of_none {t : Transcript} (h : t.fault = none) (next : Parser → Transcript) :
    t.andThen next = { next t.parser with events := t.events ++ (next t.parser).events } := by
  simp only [andThen, h]

/-- A transcript with a fault does not go on. -/
theorem andThen_of_some {t : Transcript} {fault : ParseFault} (h : t.fault = some fault)
    (next : Parser → Transcript) : t.andThen next = t := by
  simp only [andThen, h]

/-- An event is one of the first part of a transcript, or comes behind it. -/
theorem mem_events_andThen {t : Transcript} {next : Parser → Transcript} {event : Event}
    (h : event ∈ (t.andThen next).events) : event ∈ t.events ∨ event ∈ (next t.parser).events := by
  unfold andThen at h
  split at h
  · exact .inl h
  · exact List.mem_append.mp h

/-- A transcript has no fault if none of its parts has. -/
theorem fault_andThen_eq_none {t : Transcript} {next : Parser → Transcript} :
    (t.andThen next).fault = none ↔ t.fault = none ∧ (next t.parser).fault = none := by
  cases h : t.fault with
  | none => simp [andThen_of_none h]
  | some fault => simp [andThen_of_some h, h]

end Transcript

namespace Parser

/-- The transcript of actions that fire on the parts of a line. -/
def fire (p : Parser) (parts : List String) : List Action → Transcript
  | [] => { events := [], parser := p }
  | action :: actions =>
    match action.event parts with
    | .error fault => { events := [], parser := p, fault := some (.keyword fault) }
    | .ok event =>
      Transcript.andThen
        { events := [event], parser := { p with indent := indentAfter p.indent event } }
        fun p => p.fire parts actions

/-- The transcript of one line, or of the end of input. -/
def report (p : Parser) (line : Option String) : Transcript :=
  let p := p.count line
  match p.read line with
  | .fault fault => { events := [], parser := p, fault := some fault }
  | .blank text => { events := [.whitespace text], parser := p }
  | .fires row parts =>
    (p.fire parts row.actions).andThen fun p =>
      { events := [], parser := { p with state := row.next, lastMatch := some ⟨row.matcher, parts⟩ } }

/-- The transcript of lines, up to the first fault. -/
def reportAll (p : Parser) : List String → Transcript
  | [] => { events := [], parser := p }
  | line :: lines => (p.report (some line)).andThen fun p => p.reportAll lines

end Parser

/-- The transcript of a document given by its lines, and possibly the reason why there are no more of
them. -/
def Transcript.ofLines (source : String) (lines : List String) (unreadable : Option String) :
    Transcript :=
  Transcript.andThen { events := [.startParse source], parser := {} } fun p =>
    (p.reportAll lines).andThen fun p =>
      match unreadable with
      | some reason => { events := [], parser := p, fault := some (.unreadable source reason) }
      | none => (p.report none).andThen fun p => { events := [.finishParse], parser := p }

section Members

variable {α β : Type} {R : α → β → Prop} {as : List α} {bs : List β}

/-- A member on the right has one related to it on the left. -/
theorem exists_left_of_mem (h : List.Forall₂ R as bs) {b : β} (hb : b ∈ bs) : ∃ a ∈ as, R a b := by
  induction h with
  | nil => cases hb
  | @cons a first _ _ hR _ ih =>
    rcases List.mem_cons.mp hb with rfl | hb
    · exact ⟨a, List.mem_cons_self, hR⟩
    · obtain ⟨a', ha', hR'⟩ := ih hb
      exact ⟨a', List.mem_cons_of_mem a ha', hR'⟩

/-- A member on the left has one related to it on the right. -/
theorem exists_right_of_mem (h : List.Forall₂ R as bs) {a : α} (ha : a ∈ as) : ∃ b ∈ bs, R a b :=
  exists_left_of_mem h.flip ha

end Members

/-- The events that actions report about the parts of a line, one for each. -/
def Grammar.Reports (parts : List String) (actions : List Action) (events : List Event) : Prop :=
  List.Forall₂ (fun action event => action.event parts = .ok event) actions events

/-- Actions that can all make an event report their events. -/
theorem Grammar.exists_reports {parts : List String} {actions : List Action}
    (h : ∀ a ∈ actions, ∃ event, a.event parts = .ok event) :
    ∃ events, Reports parts actions events := by
  induction actions with
  | nil => exact ⟨[], .nil⟩
  | cons a actions ih =>
    obtain ⟨event, hevent⟩ := h a (by simp)
    obtain ⟨rest, hrest⟩ := ih fun b hb => h b (List.mem_cons_of_mem _ hb)
    exact ⟨event :: rest, .cons hevent hrest⟩

namespace Parser

/-- Actions that have their events fire without fault, and change nothing but the indentation noted. -/
theorem fire_of_reports {parts : List String} {actions : List Action} {events : List Event}
    (h : Reports parts actions events) (p : Parser) :
    p.fire parts actions =
      { events := events, parser := { p with indent := events.foldl indentAfter p.indent } } := by
  induction h generalizing p with
  | nil => rfl
  | cons hevent _ ih =>
    rw [fire, hevent]
    dsimp only
    rw [Transcript.andThen_of_none rfl, ih]
    rfl

/-- Counting a line leaves the state. -/
@[simp] theorem state_count (p : Parser) (line : Option String) : (p.count line).state = p.state := by
  unfold count
  split <;> rfl

/-- Counting a line leaves the indentation. -/
@[simp] theorem indent_count (p : Parser) (line : Option String) :
    (p.count line).indent = p.indent := by
  unfold count
  split <;> rfl

/-- A line with a fault reports no event. -/
theorem report_of_fault {p : Parser} {line : Option String} {fault : ParseFault}
    (hread : (p.count line).read line = .fault fault) :
    p.report line = { events := [], parser := p.count line, fault := some fault } := by
  unfold report
  dsimp only
  rw [hread]

/-- A blank line is reported as such. -/
theorem report_of_blank {p : Parser} {line : Option String} {text : String}
    (hread : (p.count line).read line = .blank text) :
    p.report line = { events := [.whitespace text], parser := p.count line } := by
  unfold report
  dsimp only
  rw [hread]

/-- A line that a row takes reports the events of its actions. -/
theorem report_of_fires {p : Parser} {line : Option String} {row : Transition} {parts : List String}
    (hread : (p.count line).read line = .fires row parts) :
    ∃ events, Reports parts row.actions events ∧
      p.report line =
        { events := events
          parser := { p.count line with
            state := row.next
            indent := events.foldl indentAfter p.indent
            lastMatch := some ⟨row.matcher, parts⟩ } } := by
  obtain ⟨events, hevents⟩ := exists_reports (exists_event_of_read hread)
  refine ⟨events, hevents, ?_⟩
  unfold report
  dsimp only
  rw [hread]
  dsimp only
  rw [fire_of_reports hevents, Transcript.andThen_of_none rfl, List.append_nil, indent_count]

/-- **A report is one of three**: a fault without events, a blank line, or the events of a row that
fires. -/
theorem report_cases (p : Parser) (line : Option String) :
    (∃ fault, (p.count line).read line = .fault fault ∧
        p.report line = { events := [], parser := p.count line, fault := some fault }) ∨
      (∃ text, line = some text ∧ Text.isBlankText text = true ∧
        (∀ row ∈ standard.rows p.state, row.matcher ≠ .multilineContent) ∧
        p.report line = { events := [.whitespace text], parser := p.count line }) ∨
      ∃ row parts events, row ∈ standard.rows p.state ∧ (p.count line).Accepts row parts line ∧
        Reports parts row.actions events ∧
        p.report line =
          { events := events
            parser := { p.count line with
              state := row.next
              indent := events.foldl indentAfter p.indent
              lastMatch := some ⟨row.matcher, parts⟩ } } := by
  cases hread : (p.count line).read line with
  | fault fault => exact .inl ⟨fault, rfl, report_of_fault hread⟩
  | blank text =>
    obtain ⟨hline, hblank, hcontent⟩ := eq_some_of_read_blank hread
    exact .inr (.inl ⟨text, hline, hblank, by simpa using hcontent, report_of_blank hread⟩)
  | fires row parts =>
    obtain ⟨hrow, haccepts⟩ := mem_and_accepts_of_read hread
    obtain ⟨events, hevents, hreport⟩ := report_of_fires hread
    exact .inr (.inr ⟨row, parts, events, by simpa using hrow, haccepts, hevents, hreport⟩)

end Parser

/-- The end of input ends the document in every state that has a row for it. -/
theorem Grammar.next_of_endOfInput : ∀ s : State, ∀ row ∈ standard.rows s,
    row.matcher = .endOfInput → row.next = .ended := by
  intro s
  cases s <;> decide

/-- At the end of input a parser ends, if there is no fault. -/
theorem Parser.state_report_none {p : Parser} (h : (p.report none).fault = none) :
    (p.report none).parser.state = .ended := by
  rcases p.report_cases none with ⟨fault, -, hreport⟩ | ⟨text, hline, -⟩ |
    ⟨row, parts, events, hrow, haccepts, -, hreport⟩
  · rw [hreport] at h
    cases h
  · cases hline
  · rw [hreport]
    exact next_of_endOfInput p.state row hrow haccepts.1

/-- **A document without fault**: its transcript is the transcript of its lines and of the end of input,
between the beginning and the end of the document. -/
theorem Transcript.ofLines_of_fault_eq_none {source : String} {lines : List String}
    {unreadable : Option String} (h : (ofLines source lines unreadable).fault = none) :
    ∃ body closing : Transcript,
      body = ({} : Parser).reportAll lines ∧ body.fault = none ∧
      closing = body.parser.report none ∧ closing.fault = none ∧
      ofLines source lines unreadable =
        { events := .startParse source :: (body.events ++ closing.events) ++ [.finishParse]
          parser := closing.parser } := by
  unfold ofLines at h ⊢
  obtain ⟨-, h⟩ := fault_andThen_eq_none.mp h
  obtain ⟨hbody, h⟩ := fault_andThen_eq_none.mp h
  cases unreadable with
  | some reason => cases h
  | none =>
    obtain ⟨hclosing, -⟩ := fault_andThen_eq_none.mp h
    refine ⟨_, _, rfl, hbody, rfl, hclosing, ?_⟩
    rw [andThen_of_none rfl, andThen_of_none hbody]
    dsimp only at hclosing ⊢
    rw [andThen_of_none hclosing]
    simp

/-! ## What runs along with a transcript -/

/-- Something that runs along with the events of a document, and fits the state of the parser after each
line. -/
structure Tracks {α : Type} (run : α → List Event → α → Prop) (fits : α → State → Prop) : Prop where
  nil : ∀ a, run a [] a
  append : ∀ {a b c : α} {first second : List Event}, run a first b → run b second c →
    run a (first ++ second) c
  row : ∀ {a : α} {s : State} {row : Transition} {parts : List String} {events : List Event}, fits a s →
    row ∈ standard.rows s → Reports parts row.actions events → ∃ b, run a events b ∧ fits b row.next
  blank : ∀ {a : α} {s : State} (line : String), fits a s →
    (∀ row ∈ standard.rows s, row.matcher ≠ .multilineContent) →
    ∃ b, run a [.whitespace line] b ∧ fits b s

namespace Tracks

variable {α : Type} {run : α → List Event → α → Prop} {fits : α → State → Prop}

/-- **One line**, or the end of input. -/
theorem report (tracks : Tracks run fits) {a : α} {p : Parser} (ha : fits a p.state)
    (line : Option String) :
    ∃ b, run a (p.report line).events b ∧ fits b (p.report line).parser.state := by
  rcases p.report_cases line with ⟨fault, -, hreport⟩ | ⟨text, -, -, hcontent, hreport⟩ |
    ⟨row, parts, events, hrow, -, hevents, hreport⟩
  · rw [hreport, Parser.state_count]
    exact ⟨a, tracks.nil a, ha⟩
  · rw [hreport, Parser.state_count]
    exact tracks.blank text ha hcontent
  · rw [hreport]
    exact tracks.row ha hrow hevents

/-- What one part of a transcript leaves is where the next one begins. -/
theorem andThen (tracks : Tracks run fits) {a : α} {t : Transcript} {next : Parser → Transcript}
    (first : ∃ b, run a t.events b ∧ fits b t.parser.state)
    (rest : t.fault = none → ∀ b : α, fits b t.parser.state →
      ∃ c, run b (next t.parser).events c ∧ fits c (next t.parser).parser.state) :
    ∃ c, run a (t.andThen next).events c ∧ fits c (t.andThen next).parser.state := by
  cases hfault : t.fault with
  | some fault =>
    rw [Transcript.andThen_of_some hfault]
    exact first
  | none =>
    rw [Transcript.andThen_of_none hfault]
    obtain ⟨b, hfirst, hb⟩ := first
    obtain ⟨c, hrest, hc⟩ := rest hfault b hb
    exact ⟨c, tracks.append hfirst hrest, hc⟩

/-- **Lines.** -/
theorem reportAll (tracks : Tracks run fits) {a : α} {p : Parser} (ha : fits a p.state)
    (lines : List String) :
    ∃ b, run a (p.reportAll lines).events b ∧ fits b (p.reportAll lines).parser.state := by
  induction lines generalizing p a with
  | nil => exact ⟨a, tracks.nil a, ha⟩
  | cons line lines ih =>
    refine tracks.andThen (tracks.report ha (some line)) fun _ b hb => ?_
    exact ih hb

/-- A document begins with its own event, and then its lines come. -/
theorem startParse (tracks : Tracks run fits) {a : α} {source : String}
    (first : ∃ b, run a [.startParse source] b ∧ fits b .start) (lines : List String) :
    ∃ b, run a (.startParse source :: (({} : Parser).reportAll lines).events) b ∧
      fits b (({} : Parser).reportAll lines).parser.state := by
  obtain ⟨b, hfirst, hb⟩ := first
  obtain ⟨c, hlines, hc⟩ := tracks.reportAll (p := {}) hb lines
  exact ⟨c, tracks.append hfirst hlines, hc⟩

/-- **Documents.** -/
theorem ofLines (tracks : Tracks run fits) {a : α} {source : String}
    (first : ∃ b, run a [.startParse source] b ∧ fits b .start)
    (last : ∀ b : α, fits b .ended → ∃ c, run b [.finishParse] c ∧ fits c .ended)
    (lines : List String) (unreadable : Option String) :
    ∃ b, run a (Transcript.ofLines source lines unreadable).events b ∧
      fits b (Transcript.ofLines source lines unreadable).parser.state := by
  refine tracks.andThen first fun _ b hb => ?_
  refine tracks.andThen (tracks.reportAll hb lines) fun _ c hc => ?_
  cases unreadable with
  | some reason => exact ⟨_, tracks.nil _, hc⟩
  | none =>
    refine tracks.andThen (tracks.report hc none) fun hclosing d hd => ?_
    rw [Parser.state_report_none hclosing] at hd ⊢
    exact last d hd

end Tracks

/-! ## Sessions follow the transcript -/

namespace Session

variable {h : Handler σ ε} {s : Session σ} {t : Transcript}

/-- A session that ended as its transcript says: where the handler accepts all events, with the parser and
the outcome of the transcript, and else with the first refusal. -/
def Follows (h : Handler σ ε) (s : Session σ) (t : Transcript) (ended : Session σ × ReadOutcome ε) :
    Prop :=
  match h.answerAll s.state t.events with
  | .ok state => ended.1.parser = t.parser ∧ ended.1.state = state ∧ ended.2 = t.outcome
  | .error reason => ended.2 = .error (.refused reason)

/-- A session that takes all events of a transcript ends as that does. -/
theorem Follows.of_ok {ended : Session σ × ReadOutcome ε} (follows : Follows h s t ended) {state : σ}
    (hok : h.answerAll s.state t.events = .ok state) :
    ended.1.parser = t.parser ∧ ended.1.state = state ∧ ended.2 = t.outcome := by
  simpa only [Follows, hok] using follows

/-- A session that refuses an event of a transcript ends with that. -/
theorem Follows.of_error {ended : Session σ × ReadOutcome ε} (follows : Follows h s t ended)
    {reason : ε} (herror : h.answerAll s.state t.events = .error reason) :
    ended.2 = .error (.refused reason) := by
  simpa only [Follows, herror] using follows

/-- Where a session succeeds, its handler has accepted all events of its transcript. -/
theorem Follows.of_outcome {ended : Session σ × ReadOutcome ε} (follows : Follows h s t ended)
    (hok : ended.2 = .ok ()) :
    h.answerAll s.state t.events = .ok ended.1.state ∧ ended.1.parser = t.parser ∧ t.fault = none := by
  cases hanswers : h.answerAll s.state t.events with
  | error reason =>
    rw [follows.of_error hanswers] at hok
    cases hok
  | ok state =>
    obtain ⟨hparser, hstate, houtcome⟩ := follows.of_ok hanswers
    exact ⟨congrArg Except.ok hstate.symm, hparser,
      Transcript.outcome_eq_ok.mp (houtcome.symm.trans hok)⟩

/-- Without events a session ends as the transcript does. -/
theorem follows_nil (fault : Option ParseFault) :
    Follows h s ⟨[], s.parser, fault⟩ (s, Transcript.outcome ⟨[], s.parser, fault⟩) := by
  simp only [Follows, Handler.answerAll_nil, and_self]

/-- Go on with a session that has not failed. -/
def goOn (ended : Session σ × ReadOutcome ε) (go : Session σ → Session σ × ReadOutcome ε) :
    Session σ × ReadOutcome ε :=
  match ended with
  | (s, .ok ()) => go s
  | (s, .error failure) => (s, .error failure)

/-- Going on after a success, written as a case distinction. -/
theorem match_eq_goOn (ended : Session σ × ReadOutcome ε)
    (go : Session σ → Session σ × ReadOutcome ε) :
    (match ended with
    | (s, .error failure) => (s, .error failure)
    | (s, .ok ()) => go s) = goOn ended go := by
  obtain ⟨s, failure | ⟨⟩⟩ := ended <;> rfl

/-- **Sequencing**: what goes on after a session that follows its transcript follows the transcript that
goes on. -/
theorem Follows.goOn {ended : Session σ × ReadOutcome ε} (next : Parser → Transcript)
    (go : Session σ → Session σ × ReadOutcome ε) (first : Follows h s t ended)
    (rest : ∀ s' : Session σ, Follows h s' (next s'.parser) (go s')) :
    Follows h s (t.andThen next) (goOn ended go) := by
  obtain ⟨s', outcome⟩ := ended
  cases hanswer : h.answerAll s.state t.events with
  | error reason =>
    have houtcome : outcome = .error (.refused reason) := first.of_error hanswer
    have herror : h.answerAll s.state (t.andThen next).events = .error reason := by
      obtain ⟨more, hmore⟩ := t.events_prefix_andThen next
      rw [← hmore, Handler.answerAll_append_of_error hanswer]
    simp only [Follows, herror, houtcome, Session.goOn]
  | ok state =>
    obtain ⟨hparser, hstate, houtcome⟩ := first.of_ok hanswer
    dsimp only at hparser hstate houtcome
    cases hfault : t.fault with
    | some fault =>
      have hended : outcome = .error (.fault fault) := by
        rw [houtcome, Transcript.outcome, hfault]
      rw [Transcript.andThen_of_some hfault]
      subst hended
      exact first
    | none =>
      have hended : outcome = .ok () := by
        rw [houtcome, Transcript.outcome, hfault]
      have hrest := rest s'
      rw [hended, Session.goOn]
      unfold Follows at hrest ⊢
      rw [Transcript.andThen_of_none hfault, Handler.answerAll_append_of_ok hanswer]
      rw [hstate, hparser] at hrest
      exact hrest

/-- Telling a handler of an event follows the transcript of that event. -/
theorem send_follows (event : Event) (s : Session σ) :
    Follows h s { events := [event], parser := s.parser } (s.send h event) := by
  unfold Follows
  cases hrefusal : (h.handle s.state event).refusal with
  | some reason =>
    have herror : h.answer s.state event = .error reason := by rw [Handler.answer, hrefusal]
    rw [Handler.answerAll_cons_of_error herror]
    simp only [send, hrefusal]
  | none =>
    have hok : h.answer s.state event = .ok (h.handle s.state event).state := by
      rw [Handler.answer, hrefusal]
    rw [Handler.answerAll_cons_of_ok hok, Handler.answerAll_nil]
    simp only [send, hrefusal, and_self, Transcript.outcome]

/-- Firing a row follows the transcript of its actions. -/
theorem fire_follows (parts : List String) (actions : List Action) (s : Session σ) :
    Follows h s (s.parser.fire parts actions) (fire h parts actions s) := by
  induction actions generalizing s with
  | nil => exact follows_nil none
  | cons action actions ih =>
    unfold fire Parser.fire
    cases action.event parts with
    | error fault => exact follows_nil (some (.keyword fault))
    | ok event =>
      -- the indentation is noted before the handler is asked
      let noted : Session σ :=
        { s with parser := { s.parser with indent := Parser.indentAfter s.parser.indent event } }
      have hsend : Follows h noted { events := [event], parser := noted.parser } (send h noted event) :=
        send_follows event noted
      exact hsend.goOn (fun p => p.fire parts actions) _ ih

/-- **One line**, or the end of input. -/
theorem feed_follows (line : Option String) (s : Session σ) :
    Follows h s (s.parser.report line) (feed h s line) := by
  unfold feed Parser.report
  dsimp only
  cases (s.parser.count line).read line with
  | fault fault =>
    exact follows_nil (h := h) (s := { s with parser := s.parser.count line }) (some fault)
  | blank text =>
    exact send_follows (.whitespace text) { s with parser := s.parser.count line }
  | fires row parts =>
    let counted : Session σ :=
      ⟨s.parser.count line, s.state, s.log ++ [(s.parser.count line).traceRecord row]⟩
    have hfire : Follows h s (counted.parser.fire parts row.actions)
        (fire h parts row.actions counted) := fire_follows parts row.actions counted
    let move (p : Parser) : Parser :=
      { p with state := row.next, lastMatch := some ⟨row.matcher, parts⟩ }
    have hmoved := hfire.goOn (fun p => { events := [], parser := move p })
      (fun s => ({ s with parser := move s.parser }, .ok ())) fun s' => ⟨rfl, rfl, rfl⟩
    rw [← match_eq_goOn] at hmoved
    exact hmoved

/-- **Lines**, up to the first failure. -/
theorem feedAll_follows (lines : List String) (s : Session σ) :
    Follows h s (s.parser.reportAll lines) (feedAll h lines s) := by
  induction lines generalizing s with
  | nil => exact follows_nil none
  | cons line lines ih =>
    exact (feed_follows (some line) s).goOn (fun p => p.reportAll lines) _ ih

/-- A document is its beginning, its lines, and its end unless there are no more lines. -/
theorem parse_eq_goOn (source : String) (lines : List String) (unreadable : Option String)
    (s : Session σ) :
    s.parse h source lines unreadable =
      goOn (begin h s source) fun s => goOn (feedAll h lines s) fun s =>
        match unreadable with
        | some reason => (s, .error (.fault (.unreadable source reason)))
        | none => finish h s := by
  unfold parse
  obtain ⟨started, failure | ⟨⟩⟩ := begin h s source
  · rfl
  · dsimp only [goOn]
    obtain ⟨fed, failure | ⟨⟩⟩ := feedAll h lines started <;> rfl

/-- **Documents**: a session that parses a document follows the transcript of the document. -/
theorem parse_follows (source : String) (lines : List String) (unreadable : Option String)
    (s : Session σ) :
    Follows h s (Transcript.ofLines source lines unreadable) (s.parse h source lines unreadable) := by
  have hbegin : Follows h s { events := [.startParse source], parser := {} } (begin h s source) :=
    send_follows (.startParse source) { s with parser := {} }
  rw [parse_eq_goOn]
  refine hbegin.goOn (fun p => (p.reportAll lines).andThen _) _ fun started => ?_
  refine (feedAll_follows lines started).goOn _ _ fun fed => ?_
  cases unreadable with
  | some reason => exact follows_nil (some (.unreadable source reason))
  | none =>
    exact (feed_follows none fed).goOn (fun p => { events := [.finishParse], parser := p }) _
      (send_follows .finishParse)

/-- A recording session whose handler refuses nothing has kept the events of its transcript. -/
theorem Follows.recording (accepting : h.Accepting) {s : Session (σ × List Event)}
    {ended : Session (σ × List Event) × ReadOutcome ε} (follows : Follows h.recording s t ended) :
    ended.1.parser = t.parser ∧ ended.1.state.2 = s.state.2 ++ t.events ∧ ended.2 = t.outcome := by
  obtain ⟨last, hlast⟩ := accepting.answerAll_recording s.state.1 s.state.2 t.events
  obtain ⟨hparser, hstate, houtcome⟩ := follows.of_ok hlast
  exact ⟨hparser, by rw [hstate], houtcome⟩

/-- How a document is read, by one of the three entry points: its lines, its text, or a stream. -/
inductive Parsed (h : Handler σ ε) (s : Session σ) : Session σ × ReadOutcome ε → Prop where
  | lines (source : String) (lines : List String) : Parsed h s (s.parseLines h source lines)
  | text (text : String) : Parsed h s (s.parseText h text)
  | stream (source : String) (stream : Stream) : Parsed h s (s.parseStream h source stream)

/-- **Entry points**: however a document is read, its session follows a transcript of lines. -/
theorem Parsed.follows {ended : Session σ × ReadOutcome ε} (parsed : Parsed h s ended) :
    ∃ source lines unreadable, Follows h s (Transcript.ofLines source lines unreadable) ended := by
  cases parsed with
  | lines source lines => exact ⟨source, lines, none, parse_follows source lines none s⟩
  | text text => exact ⟨textSource, linesOf text, none, parse_follows textSource (linesOf text) none s⟩
  | stream source stream =>
    exact ⟨source, stream.lines.1, stream.lines.2,
      parse_follows source stream.lines.1 stream.lines.2 s⟩

end Session

end Acceptance
