import Acceptance.Proofs.Document.Progress
import Acceptance.Proofs.Load.Draft

/-!
# Documents loaded in parts

What a loader makes of a document it makes line by line. `Loader.build` is what the transcript of any part
makes of a draft: the parser and the draft behind it, or what went wrong first. The transcript of a document
is put together from those of its parts, and so is what is built (`Loader.build_andThen`). So a loader that
has come through the first lines goes on with the others from the parser and the draft that it has reached
(`Loader.loadRest_append`).
-/

set_option autoImplicit false

namespace Acceptance

variable {W : Type}

namespace Loader

variable {l : Loader W} {d : Draft W} {p : Parser}

/-- What a transcript makes of a draft: the parser that is left and the draft behind all events, or what went
wrong first, a refusal of an event or the fault of the transcript. -/
def build (l : Loader W) (d : Draft W) (t : Transcript) : Except LoadFault (Parser × Draft W) :=
  match (Draft.builder l.config l.registry).answerAll d t.events, t.fault with
  | .error fault, _ => .error fault
  | .ok _, some fault => .error (.parse fault)
  | .ok built, none => .ok (t.parser, built)

/-- A refusal among the events comes before any fault. -/
theorem build_of_refusal {t : Transcript} {fault : LoadFault}
    (h : (Draft.builder l.config l.registry).answerAll d t.events = .error fault) :
    l.build d t = .error fault := by
  unfold build
  rw [h]

/-- Where all events are taken, the fault of a transcript is met. -/
theorem build_of_fault {t : Transcript} {built : Draft W} {fault : ParseFault}
    (h : (Draft.builder l.config l.registry).answerAll d t.events = .ok built) (hfault : t.fault = some fault) :
    l.build d t = .error (.parse fault) := by
  unfold build
  rw [h, hfault]

/-- Where all events are taken and there is no fault, there is a parser and a draft. -/
theorem build_of_ok {t : Transcript} {built : Draft W}
    (h : (Draft.builder l.config l.registry).answerAll d t.events = .ok built) (hfault : t.fault = none) :
    l.build d t = .ok (t.parser, built) := by
  unfold build
  rw [h, hfault]

/-- Something is built just where all events are taken and there is no fault. -/
theorem build_eq_ok {t : Transcript} {q : Parser} {built : Draft W} :
    l.build d t = .ok (q, built) ↔
      (Draft.builder l.config l.registry).answerAll d t.events = .ok built ∧ t.fault = none ∧
        t.parser = q := by
  cases hanswers : (Draft.builder l.config l.registry).answerAll d t.events with
  | error fault => simp [build_of_refusal hanswers]
  | ok other =>
    cases hfault : t.fault with
    | some fault => simp [build_of_fault hanswers hfault]
    | none => simp [build_of_ok hanswers hfault, and_comm]

/-- **Sequencing**: what goes on builds on what has been built. -/
theorem build_andThen (t : Transcript) (next : Parser → Transcript) :
    l.build d (t.andThen next) = (l.build d t).bind fun reached => l.build reached.2 (next reached.1) := by
  cases hanswers : (Draft.builder l.config l.registry).answerAll d t.events with
  | error fault =>
    obtain ⟨more, hmore⟩ := t.events_prefix_andThen next
    rw [build_of_refusal hanswers, build_of_refusal (hmore ▸ Handler.answerAll_append_of_error hanswers)]
    rfl
  | ok built =>
    cases hfault : t.fault with
    | some fault =>
      rw [Transcript.andThen_of_some hfault, build_of_fault hanswers hfault]
      rfl
    | none =>
      rw [Transcript.andThen_of_none hfault, build_of_ok hanswers hfault]
      unfold build
      dsimp only [Except.bind]
      rw [Handler.answerAll_append_of_ok hanswers]

/-- A session gives what its transcript builds. -/
theorem result_eq_build {s : Session (Draft W)} {t : Transcript}
    {ended : Session (Draft W) × ReadOutcome LoadFault}
    (follows : Session.Follows (Draft.builder l.config l.registry) s t ended) :
    (result ended).result = (l.build s.state t).map (·.2.suite) := by
  obtain ⟨reached, outcome⟩ := ended
  cases hanswers : (Draft.builder l.config l.registry).answerAll s.state t.events with
  | error reason =>
    obtain rfl : outcome = .error (.refused reason) := follows.of_error hanswers
    rw [build_of_refusal hanswers]
    rfl
  | ok built =>
    obtain ⟨-, hstate, houtcome⟩ := follows.of_ok hanswers
    dsimp only at hstate houtcome
    subst houtcome hstate
    unfold Transcript.outcome
    cases hfault : t.fault with
    | some fault =>
      rw [build_of_fault hanswers hfault]
      rfl
    | none =>
      rw [build_of_ok hanswers hfault]
      rfl

/-- The suite of a document of which some lines have been read, given the parser and the draft reached. -/
def loadRest (l : Loader W) (p : Parser) (d : Draft W) (lines : List String) :
    Except LoadFault (Suite W) :=
  (l.build d ((p.reportAll lines).andThen fun q => q.report none)).map (·.2.suite)

/-- At the end of a document there is the end of input only. -/
theorem loadRest_nil : l.loadRest p d [] = (l.build d (p.report none)).map (·.2.suite) := by
  rfl

/-- **A loader goes on** from the parser and the draft that it has reached. -/
theorem loadRest_append (first second : List String) :
    l.loadRest p d (first ++ second) =
      (l.build d (p.reportAll first)).bind fun reached => l.loadRest reached.1 reached.2 second := by
  unfold loadRest
  rw [Parser.reportAll_append, Transcript.andThen_assoc, build_andThen]
  cases l.build d (p.reportAll first) <;> rfl

/-- The first of the lines that are left is built, and then the others. -/
theorem loadRest_cons (line : String) (lines : List String) :
    l.loadRest p d (line :: lines) =
      (l.build d (p.report (some line))).bind fun reached => l.loadRest reached.1 reached.2 lines := by
  unfold loadRest
  rw [Parser.reportAll, Transcript.andThen_assoc, build_andThen]
  cases l.build d (p.report (some line)) <;> rfl

/-- A suite of the lines that are left is that of a draft which all of them build. -/
theorem loadRest_eq_ok {lines : List String} {suite : Suite W} (h : l.loadRest p d lines = .ok suite) :
    ∃ (q : Parser) (built : Draft W),
      l.build d ((p.reportAll lines).andThen fun q => q.report none) = .ok (q, built) ∧ built.suite = suite := by
  unfold loadRest at h
  cases hbuild : l.build d ((p.reportAll lines).andThen fun q => q.report none) with
  | error fault =>
    rw [hbuild] at h
    cases h
  | ok reached =>
    rw [hbuild] at h
    exact ⟨reached.1, reached.2, rfl, Except.ok.inj h⟩

/-- A suite of the lines that are left comes through the first one. -/
theorem loadRest_cons_eq_ok {line : String} {lines : List String} {suite : Suite W}
    (h : l.loadRest p d (line :: lines) = .ok suite) :
    ∃ next : Draft W, l.build d (p.report (some line)) = .ok ((p.report (some line)).parser, next) ∧
      l.loadRest (p.report (some line)).parser next lines = .ok suite := by
  rw [loadRest_cons] at h
  cases hbuild : l.build d (p.report (some line)) with
  | error fault =>
    rw [hbuild] at h
    cases h
  | ok reached =>
    rw [hbuild] at h
    obtain ⟨-, -, hparser⟩ := build_eq_ok.mp hbuild
    refine ⟨reached.2, ?_, ?_⟩ <;> rw [hparser]
    exact h

/-- A document begins with a draft that has nothing but its name. -/
theorem build_startParse (source : String) :
    l.build {} { events := [.startParse source], parser := p } = .ok (p, { source := source }) := by
  have hanswer : (Draft.builder l.config l.registry).answer ({} : Draft W) (.startParse source) =
      .ok { source := source } := by rfl
  have hanswers : (Draft.builder l.config l.registry).answerAll ({} : Draft W) [.startParse source] =
      .ok { source := source } := by
    rw [Handler.answerAll_cons_of_ok hanswer, Handler.answerAll_nil]
  exact build_of_ok hanswers rfl

/-- **The suite of a text** is that of its lines, for a new parser and a draft with nothing but its name. -/
theorem result_loadText (text : String) :
    (l.loadText text).result = l.loadRest {} { source := Session.textSource } (linesOf text) := by
  have hresult : (l.loadText text).result =
      (l.build {} (Transcript.ofLines Session.textSource (linesOf text) none)).map (·.2.suite) := by
    unfold loadText Session.parseText Session.parseLines
    exact result_eq_build (Session.parse_follows Session.textSource (linesOf text) none { state := {} })
  rw [hresult, Transcript.ofLines, build_andThen, build_startParse, loadRest]
  dsimp only [Except.bind]
  rw [← Transcript.andThen_assoc, build_andThen]
  cases l.build { source := Session.textSource }
    ((({} : Parser).reportAll (linesOf text)).andThen fun q => q.report none) <;> rfl

end Loader

end Acceptance
