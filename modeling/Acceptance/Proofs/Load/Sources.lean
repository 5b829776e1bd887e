import Acceptance.Proofs.Document.Streams
import Acceptance.Proofs.Load.Draft

/-!
# Documents by name

A document is read from a text or from a stream, and a stream has a name. The name of a document stands in
what is logged about it, and nowhere in its suite: drafts of the same events differ in it at most
(`Draft.answerAll_of_unnamed`). So a stream of the bytes of a text gives the suite of the text, or the same
fault (`Loader.loadStream_eq_loadText`).
-/

set_option autoImplicit false

namespace Acceptance

variable {W : Type}

namespace Logged

variable {ε α β γ : Type}

/-- Sequences agree up to what is forgotten if their second parts do. -/
theorem map_result_bind {x : Logged ε α} {f g : α → Logged ε β} {forget : β → γ}
    (h : ∀ a, (f a).result.map forget = (g a).result.map forget) :
    (x.bind f).result.map forget = (x.bind g).result.map forget := by
  unfold bind
  cases x.result with
  | error reason => rfl
  | ok a => exact h a

end Logged

namespace Draft

variable {config : NamingConfig} {r : Registry W}

/-- A draft without the name of its document. -/
def unnamed (d : Draft W) : Draft W :=
  { d with source := "" }

/-- **Every event** does the same to a draft without the name of its document. -/
theorem map_handle_unnamed (d : Draft W) (event : Event) :
    (d.unnamed.handle config r event).result.map unnamed = (d.handle config r event).result.map unnamed := by
  obtain ⟨source, tags, feature, lines, background, current, outline, examples, step, multilines, table,
    suite⟩ := d
  cases event with
  | finishFeature => cases feature <;> rfl
  | finishScenario =>
    cases current with
    | none => rfl
    | some scenario =>
      dsimp only [handle, unnamed]
      rw [addScenario_result, addScenario_result]
      rfl
  | finishExamples =>
    dsimp only [handle, closeExamples, unnamed]
    split
    · refine Logged.map_result_bind fun scenarios => ?_
      rw [addScenarios_result, addScenarios_result]
      rfl
    · rfl
  | finishStep =>
    cases step with
    | none => rfl
    | some step =>
      refine Logged.map_result_bind fun made => ?_
      cases multilines with
      | some lines => rfl
      | none => cases table <;> rfl
  | tableData cells =>
    cases table with
    | none => rfl
    | some table =>
      dsimp only [handle, unnamed]
      cases table.addRow cells <;> rfl
  | _ => rfl

/-- **Any events** make the same of drafts that differ in the name of their document at most. -/
theorem answerAll_of_unnamed {d other : Draft W} (h : d.unnamed = other.unnamed) (events : List Event) :
    ((builder config r).answerAll d events).map unnamed =
      ((builder config r).answerAll other events).map unnamed := by
  induction events generalizing d other with
  | nil => exact congrArg Except.ok h
  | cons event events ih =>
    have hevent : ((builder config r).answer d event).map unnamed =
        ((builder config r).answer other event).map unnamed := by
      rw [answer_builder_eq, answer_builder_eq, ← map_handle_unnamed d, h, map_handle_unnamed other]
    cases hd : (builder config r).answer d event with
    | error reason =>
      rw [hd] at hevent
      cases hother : (builder config r).answer other event with
      | error reason' =>
        rw [hother] at hevent
        rw [Handler.answerAll_cons_of_error hd, Handler.answerAll_cons_of_error hother]
        exact hevent
      | ok next' =>
        rw [hother] at hevent
        cases hevent
    | ok next =>
      rw [hd] at hevent
      cases hother : (builder config r).answer other event with
      | error reason' =>
        rw [hother] at hevent
        cases hevent
      | ok next' =>
        rw [hother] at hevent
        rw [Handler.answerAll_cons_of_ok hd, Handler.answerAll_cons_of_ok hother]
        exact ih (Except.ok.inj hevent)

end Draft

/-- A transcript has the name of its document in the first event only. -/
theorem Transcript.exists_ofLines (lines : List String) :
    ∃ body parser fault, ∀ source,
      ofLines source lines none = ⟨.startParse source :: body, parser, fault⟩ := by
  let rest : Transcript := (({} : Parser).reportAll lines).andThen fun p =>
    (p.report none).andThen fun p => { events := [.finishParse], parser := p }
  exact ⟨rest.events, rest.parser, rest.fault, fun _ => rfl⟩

namespace Loader

variable {l : Loader W}

/-- What a session gives depends on the transcript that it follows, and not on the name of the source. -/
theorem result_of_follows {s : Session (Draft W)} {t : Transcript}
    {ended : Session (Draft W) × ReadOutcome LoadFault}
    (follows : Session.Follows (Draft.builder l.config l.registry) s t ended) :
    (result ended).result =
      match ((Draft.builder l.config l.registry).answerAll s.state t.events).map Draft.unnamed, t.fault with
      | .error fault, _ => .error fault
      | .ok _, some fault => .error (.parse fault)
      | .ok d, none => .ok d.suite := by
  obtain ⟨s', outcome⟩ := ended
  cases hanswers : (Draft.builder l.config l.registry).answerAll s.state t.events with
  | error reason =>
    obtain rfl : outcome = .error (.refused reason) := follows.of_error hanswers
    rfl
  | ok d =>
    obtain ⟨-, hstate, houtcome⟩ := follows.of_ok hanswers
    dsimp only at hstate houtcome
    subst houtcome hstate
    unfold Transcript.outcome
    cases t.fault <;> rfl

/-- **The name of a document** makes no difference to what is loaded. -/
theorem result_of_source (first second : String) (lines : List String) :
    (result (Session.parseLines (Draft.builder l.config l.registry) { state := {} } first lines)).result =
      (result (Session.parseLines (Draft.builder l.config l.registry) { state := {} } second
        lines)).result := by
  obtain ⟨body, parser, fault, hlines⟩ := Transcript.exists_ofLines lines
  have hresult (source : String) :=
    result_of_follows (l := l) (Session.parse_follows source lines none { state := {} })
  have hanswers (source : String) : (Draft.builder l.config l.registry).answerAll ({} : Draft W)
      (.startParse source :: body) = (Draft.builder l.config l.registry).answerAll { source := source } body :=
    Handler.answerAll_cons_of_ok rfl
  unfold Session.parseLines
  rw [hresult first, hresult second, hlines, hlines]
  dsimp only
  have hsame : ((Draft.builder l.config l.registry).answerAll { source := first } body).map Draft.unnamed =
      ((Draft.builder l.config l.registry).answerAll { source := second } body).map Draft.unnamed := by
    apply Draft.answerAll_of_unnamed
    rfl
  rw [hanswers, hanswers, hsame]

/-- A stream of valid bytes that does not fail is loaded as its text is. -/
theorem loadStream_eq_loadText {stream : Stream} {text : String} (hends : stream.failure = none)
    (htext : Stream.decode stream.bytes = some text) (source : String) :
    (l.loadStream source stream).result = (l.loadText text).result := by
  unfold loadStream loadText Session.parseStream Session.parseText
  rw [Stream.lines_of_decode hends htext]
  exact result_of_source source Session.textSource (linesOf text)

end Loader

/-- **Texts and streams agree**, for every handler and for every loader. A stream of the bytes of a text is
read as the lines of the text are, to the same end, and gives the same suite or fault. Any other stream breaks
off: it is read as the lines before that are, up to the first failure among them, and else it fails because it
cannot be read on. -/
theorem Stream.agrees_with_text {σ ε : Type} (h : Handler σ ε) (s : Session σ) (l : Loader W)
    (source : String) (stream : Stream) :
    (∀ text, stream.failure = none → decode stream.bytes = some text →
      s.parseStream h source stream = s.parseLines h source (linesOf text) ∧
        (l.loadStream source stream).result = (l.loadText text).result) ∧
    (stream.failure ≠ none ∨ decode stream.bytes = none → ∃ texts reason, stream.Breaks texts reason) ∧
    ∀ texts reason, stream.Breaks texts reason →
      s.parseLines h source texts = Session.goOn (s.fed h source texts) (Session.finish h) ∧
      (∀ reached, s.fed h source texts = (reached, .ok ()) →
        s.parseStream h source stream = (reached, .error (.fault (.unreadable source reason)))) ∧
      ∀ failure, (s.fed h source texts).2 = .error failure →
        s.parseStream h source stream = s.parseLines h source texts := by
  refine ⟨fun text hends htext => ⟨?_, Loader.loadStream_eq_loadText hends htext source⟩, exists_breaks,
    fun texts reason hbreaks => ⟨Session.parseLines_eq_goOn, ?_⟩⟩
  · unfold Session.parseStream
    rw [lines_of_decode hends htext]
    rfl
  · have hstream : s.parseStream h source stream =
        Session.goOn (s.fed h source texts) fun s => (s, .error (.fault (.unreadable source reason))) := by
      unfold Session.parseStream
      rw [lines_of_breaks hbreaks]
      exact Session.parse_of_unreadable reason
    rw [hstream]
    constructor
    · intro reached hreached
      rw [hreached]
      rfl
    · intro failure hfailed
      rw [Session.parseLines_eq_goOn, Session.goOn_of_error hfailed, Session.goOn_of_error hfailed]

/-- A text with a character of two bytes and two carriage returns, a stream that is not valid behind its first
line, and one whose first line is a fault before the stream fails. -/
theorem Stream.agrees_valid_invalid_failing :
    let s : Session (List Event) := ⟨{}, [], []⟩
    let l : Loader Unit := ⟨.empty, {}⟩
    let sound : Stream := ⟨[35, 32, 195, 169, 13, 10, 35, 13], none⟩
    let invalid : Stream := ⟨[35, 10, 255, 10], none⟩
    let failing : Stream := ⟨[120, 13, 10, 35], some "gone"⟩
    decode sound.bytes = some "# é\r\n#\r" ∧
      s.parseStream recorder "f" sound = s.parseLines recorder "f" (linesOf "# é\r\n#\r") ∧
      (l.loadStream "f" sound).result = (l.loadText "# é\r\n#\r").result ∧
      decode invalid.bytes = none ∧ invalid.Breaks ["#"] invalidText ∧
      (∃ reached, s.fed recorder "f" ["#"] = (reached, .ok ()) ∧
        s.parseStream recorder "f" invalid = (reached, .error (.fault (.unreadable "f" invalidText)))) ∧
      failing.Breaks ["x"] "gone" ∧
      s.parseStream recorder "f" failing = s.parseLines recorder "f" ["x"] := by
  intro s l sound invalid failing
  have hsound : decode sound.bytes = some "# é\r\n#\r" := by
    rw [decode_eq_some_iff]
    decide
  have hinvalid : invalid.Breaks ["#"] invalidText := by
    have hsplits : Splits 10 invalid.bytes ([[35]] ++ [255] :: []) [] := ⟨rfl, by decide, by decide⟩
    refine .invalid hsplits (.cons (.plain ?_ (by decide)) .nil) (by decide) rfl
    rw [decode_eq_some_iff]
    decide
  have hfailing : failing.Breaks ["x"] "gone" := by
    have hsplits : Splits 10 failing.bytes [[120, 13]] [35] := ⟨rfl, by decide, by decide⟩
    refine .failed hsplits (.cons (.withReturn ?_) .nil) rfl
    rw [decode_eq_some_iff]
    decide
  obtain ⟨hparse, hload⟩ := (agrees_with_text recorder s l "f" sound).1 _ rfl hsound
  obtain ⟨-, hread, -⟩ := (agrees_with_text recorder s l "f" invalid).2.2 _ _ hinvalid
  obtain ⟨-, -, hfails⟩ := (agrees_with_text recorder s l "f" failing).2.2 _ _ hfailing
  exact ⟨hsound, hparse, hload, by decide, hinvalid, ⟨_, rfl, hread _ rfl⟩, hfailing, hfails _ rfl⟩

end Acceptance
