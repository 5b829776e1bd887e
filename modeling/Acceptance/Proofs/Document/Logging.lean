import Acceptance.Proofs.Document.Transcript

/-!
# What a session logs

A session logs what its handler says about the events of the transcript, in their order, and between these
records traces of the rows that fire. So apart from traces, the log of a session that succeeds is told by the
transcript and the handler alone (`Session.parse_logs`).
-/

set_option autoImplicit false

namespace Acceptance

open Acceptance.Grammar

variable {σ ε : Type}

/-- What a handler says about events, one after the other. -/
def Handler.logAll (h : Handler σ ε) : σ → List Event → Log
  | _, [] => []
  | state, event :: events =>
    (h.handle state event).log ++ h.logAll (h.handle state event).state events

/-- What is logged about events is logged in their order. -/
theorem Handler.logAll_append {h : Handler σ ε} {state next : σ} {first second : List Event}
    (hok : h.answerAll state first = .ok next) :
    h.logAll state (first ++ second) = h.logAll state first ++ h.logAll next second := by
  induction first generalizing state with
  | nil =>
    cases hok
    rfl
  | cons event first ih =>
    obtain ⟨middle, hanswer, hrest⟩ := answerAll_cons_eq_ok.mp hok
    have hmiddle : (h.handle state event).state = middle := by
      unfold answer at hanswer
      split at hanswer
      · cases hanswer
      · exact Except.ok.inj hanswer
    rw [List.cons_append, logAll, logAll, hmiddle, ih hrest, List.append_assoc]

namespace Session

variable {h : Handler σ ε} {s : Session σ} {t : Transcript} {ended : Session σ × ReadOutcome ε}

/-- A session whose log grows by what its handler says about the events of a transcript, apart from traces,
if it succeeds. -/
def Logs (h : Handler σ ε) (s : Session σ) (t : Transcript) (ended : Session σ × ReadOutcome ε) :
    Prop :=
  ended.2 = .ok () →
    Log.upTo ended.1.log .debug = s.log.upTo .debug ++ (h.logAll s.state t.events).upTo .debug

/-- Without events nothing is logged. -/
theorem logs_nil (t : Transcript) (hevents : t.events = []) (outcome : ReadOutcome ε) :
    Logs h s t (s, outcome) := by
  intro _
  rw [hevents]
  exact (List.append_nil _).symm

/-- **Sequencing** for the log. -/
theorem Logs.goOn (next : Parser → Transcript) (go : Session σ → Session σ × ReadOutcome ε)
    (first : Logs h s t ended) (follows : Follows h s t ended)
    (rest : ∀ s' : Session σ, Logs h s' (next s'.parser) (go s')) :
    Logs h s (t.andThen next) (Session.goOn ended go) := by
  obtain ⟨s', failure | ⟨⟩⟩ := ended
  · intro hok
    cases hok
  · intro hok
    obtain ⟨hanswers, hparser, hfault⟩ := follows.of_outcome rfl
    have hrest := rest s' hok
    rw [first rfl] at hrest
    rw [Transcript.andThen_of_none hfault, Handler.logAll_append hanswers, Log.upTo_append,
      ← List.append_assoc, ← hparser]
    exact hrest

/-- An event is logged once, by the handler that is told of it. -/
theorem send_logs (event : Event) (s : Session σ) (p : Parser) :
    Logs h s { events := [event], parser := p } (s.send h event) := by
  intro _
  have hlog : (s.send h event).1.log = s.log ++ (h.handle s.state event).log := by
    unfold send
    dsimp only
    split <;> rfl
  rw [hlog, Log.upTo_append, Handler.logAll, Handler.logAll, List.append_nil]

/-- A line is logged as its events are, up to the one that is refused. -/
theorem fire_logs (parts : List String) (actions : List Action) (s : Session σ) :
    Logs h s (s.parser.fire parts actions) (fire h parts actions s) := by
  induction actions generalizing s with
  | nil => exact logs_nil _ rfl _
  | cons action actions ih =>
    unfold fire Parser.fire
    cases action.event parts with
    | error fault => exact logs_nil _ rfl _
    | ok event =>
      let noted : Session σ :=
        { s with parser := { s.parser with indent := Parser.indentAfter s.parser.indent event } }
      have hfollows : Follows h noted { events := [event], parser := noted.parser }
          (send h noted event) := send_follows event noted
      have hlogs : Logs h noted { events := [event], parser := noted.parser } (send h noted event) :=
        send_logs event noted noted.parser
      exact hlogs.goOn (fun p => p.fire parts actions) _ hfollows ih

/-- **One line**, or the end of input. The row that fires is traced, and nothing else is added. -/
theorem feed_logs (line : Option String) (s : Session σ) :
    Logs h s (s.parser.report line) (feed h s line) := by
  unfold feed Parser.report
  dsimp only
  cases (s.parser.count line).read line with
  | fault fault =>
    intro hok
    cases hok
  | blank text => exact send_logs (.whitespace text) { s with parser := s.parser.count line } _
  | fires row parts =>
    let counted : Session σ :=
      ⟨s.parser.count line, s.state, s.log ++ [(s.parser.count line).traceRecord row]⟩
    -- the record of the row is a trace, below the level at which logs are compared
    have hcounted : Log.upTo counted.log .debug = s.log.upTo .debug := by
      rw [Log.upTo_append]
      exact List.append_nil _
    have hfire : Logs h counted (counted.parser.fire parts row.actions)
        (fire h parts row.actions counted) := fire_logs parts row.actions counted
    let move (p : Parser) : Parser :=
      { p with state := row.next, lastMatch := some ⟨row.matcher, parts⟩ }
    have hmoved := hfire.goOn (fun p => { events := [], parser := move p })
      (fun s => ({ s with parser := move s.parser }, .ok ())) (fire_follows parts row.actions counted)
      fun s' _ => (List.append_nil _).symm
    rw [← match_eq_goOn] at hmoved
    intro hok
    rw [← hcounted]
    exact hmoved hok

/-- **Lines**, up to the first failure. -/
theorem feedAll_logs (lines : List String) (s : Session σ) :
    Logs h s (s.parser.reportAll lines) (feedAll h lines s) := by
  induction lines generalizing s with
  | nil => exact logs_nil _ rfl _
  | cons line lines ih =>
    exact (feed_logs (some line) s).goOn (fun p => p.reportAll lines) _ (feed_follows (some line) s) ih

/-- **Documents**: apart from traces, a session that succeeds logs what its handler says about the events of
the transcript. -/
theorem parse_logs (source : String) (lines : List String) (unreadable : Option String) (s : Session σ) :
    Logs h s (Transcript.ofLines source lines unreadable) (s.parse h source lines unreadable) := by
  have hfollows : Follows h s { events := [.startParse source], parser := {} } (begin h s source) :=
    send_follows (.startParse source) { s with parser := {} }
  have hbegin : Logs h s { events := [.startParse source], parser := {} } (begin h s source) :=
    send_logs (.startParse source) { s with parser := {} } {}
  rw [parse_eq_goOn]
  refine hbegin.goOn (fun p => (p.reportAll lines).andThen _) _ hfollows fun started => ?_
  refine (feedAll_logs lines started).goOn _ _ (feedAll_follows lines started) fun fed => ?_
  cases unreadable with
  | some reason =>
    intro hok
    cases hok
  | none =>
    exact (feed_logs none fed).goOn (fun p => { events := [.finishParse], parser := p }) _
      (feed_follows none fed) fun s' => send_logs .finishParse s' s'.parser

end Session

end Acceptance
