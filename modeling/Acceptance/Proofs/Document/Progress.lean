import Acceptance.Proofs.Document.Transcript

/-!
# Documents read in part

`Session.fed` is a session that has begun a document and read lines of it. A reading of more lines goes on
from there (`Session.fed_append`), and the end of a document comes behind all of its lines. So a failure at a
line is decided by the lines up to it: a session that has failed stays as it is, whatever lines come next.
-/

set_option autoImplicit false

namespace Acceptance

open Acceptance.Grammar

variable {σ ε : Type}

/-! ## Parts of transcripts -/

/-- It does not matter how parts of a transcript are grouped. -/
theorem Transcript.andThen_assoc (t : Transcript) (first second : Parser → Transcript) :
    (t.andThen first).andThen second = t.andThen fun p => (first p).andThen second := by
  obtain ⟨events, p, fault⟩ := t
  cases fault with
  | some fault => rfl
  | none =>
    unfold andThen
    dsimp only
    obtain ⟨more, q, fault⟩ := first p
    cases fault with
    | some fault => rfl
    | none =>
      dsimp only
      rw [List.append_assoc]

/-- To go on with nothing changes nothing. -/
theorem Transcript.andThen_nothing (t : Transcript) : (t.andThen fun p => { events := [], parser := p }) = t := by
  obtain ⟨events, p, fault⟩ := t
  cases fault with
  | some fault => rfl
  | none =>
    unfold andThen
    dsimp only
    rw [List.append_nil]

/-! ## Parsers that have read lines -/

namespace Grammar

/-- Nothing but the end of input ends a document. -/
theorem next_ne_ended : ∀ s : State, ∀ row ∈ standard.rows s,
    row.matcher ≠ .endOfInput → row.next ≠ .ended := by
  intro s
  cases s <;> decide

end Grammar

namespace Parser

/-- A line that is no fault is counted, and does not end the document. -/
theorem report_of_line {p : Parser} {line : String} (hok : (p.report (some line)).fault = none) :
    (p.report (some line)).parser.lineNumber = p.lineNumber + 1 ∧
      (p.state ≠ .ended → (p.report (some line)).parser.state ≠ .ended) := by
  have hcount : (p.count (some line)).lineNumber = p.lineNumber + 1 := rfl
  rcases p.report_cases (some line) with ⟨fault, -, hreport⟩ | ⟨text, -, -, -, hreport⟩ |
    ⟨row, parts, events, hrow, haccepts, -, hreport⟩
  · rw [hreport] at hok
    cases hok
  · rw [hreport]
    refine ⟨hcount, fun hstate => ?_⟩
    rw [state_count]
    exact hstate
  · rw [hreport]
    refine ⟨hcount, fun _ => ?_⟩
    have hmatcher : row.matcher ≠ .endOfInput := by
      intro hend
      rw [Accepts, hend, partsOf] at haccepts
      cases haccepts
    exact next_ne_ended p.state row hrow hmatcher

/-- Lines without fault are counted, and do not end the document. -/
theorem reportAll_of_lines {p : Parser} {lines : List String} (hok : (p.reportAll lines).fault = none) :
    (p.reportAll lines).parser.lineNumber = p.lineNumber + lines.length ∧
      (p.state ≠ .ended → (p.reportAll lines).parser.state ≠ .ended) := by
  induction lines generalizing p with
  | nil => exact ⟨rfl, id⟩
  | cons line lines ih =>
    rw [reportAll] at hok ⊢
    obtain ⟨hfirst, hrest⟩ := Transcript.fault_andThen_eq_none.mp hok
    rw [Transcript.andThen_of_none hfirst]
    obtain ⟨hnumber, hstate⟩ := report_of_line hfirst
    obtain ⟨hnumbers, hstates⟩ := ih hrest
    refine ⟨?_, fun hstart => hstates (hstate hstart)⟩
    dsimp only
    rw [hnumbers, hnumber, List.length_cons]
    omega

/-- Lines are read on from where the parser stands behind the ones before. -/
theorem reportAll_append (p : Parser) (first second : List String) :
    p.reportAll (first ++ second) = (p.reportAll first).andThen fun q => q.reportAll second := by
  induction first generalizing p with
  | nil => rfl
  | cons line first ih =>
    rw [List.cons_append, reportAll, reportAll, Transcript.andThen_assoc]
    congr 1
    funext q
    exact ih q

/-- The indentation noted is told by the events. -/
theorem indent_report (p : Parser) (line : Option String) :
    (p.report line).parser.indent = (p.report line).events.foldl indentAfter p.indent := by
  rcases p.report_cases line with ⟨fault, -, hreport⟩ | ⟨text, -, -, -, hreport⟩ |
    ⟨row, parts, events, -, -, -, hreport⟩
  · rw [hreport, indent_count]
    rfl
  · rw [hreport, indent_count]
    rfl
  · rw [hreport]

/-- The indentation that is left behind lines is told by their events. -/
theorem indent_reportAll (p : Parser) (lines : List String) :
    (p.reportAll lines).parser.indent = (p.reportAll lines).events.foldl indentAfter p.indent := by
  induction lines generalizing p with
  | nil => rfl
  | cons line lines ih =>
    rw [reportAll]
    cases hfault : (p.report (some line)).fault with
    | some fault =>
      rw [Transcript.andThen_of_some hfault]
      exact indent_report p (some line)
    | none =>
      rw [Transcript.andThen_of_none hfault]
      dsimp only
      rw [ih, indent_report, List.foldl_append]

end Parser

namespace Session

variable {h : Handler σ ε} {s : Session σ} {source : String} {lines : List String}

/-! ## Going on -/

/-- After a success a session goes on. -/
theorem goOn_of_ok {ended : Session σ × ReadOutcome ε} (hok : ended.2 = .ok ())
    (go : Session σ → Session σ × ReadOutcome ε) : goOn ended go = go ended.1 := by
  obtain ⟨s, outcome⟩ := ended
  obtain rfl : outcome = .ok () := hok
  rfl

/-- After a failure a session does not go on. -/
theorem goOn_of_error {ended : Session σ × ReadOutcome ε} {failure : ReadFailure ε}
    (hfailed : ended.2 = .error failure) (go : Session σ → Session σ × ReadOutcome ε) :
    goOn ended go = ended := by
  obtain ⟨s, outcome⟩ := ended
  obtain rfl : outcome = .error failure := hfailed
  rfl

/-- A session that has gone on and ended well has done so from a session that ended well. -/
theorem goOn_eq_ok {ended : Session σ × ReadOutcome ε} {go : Session σ → Session σ × ReadOutcome ε}
    {last : Session σ} :
    goOn ended go = (last, .ok ()) ↔ ∃ s, ended = (s, .ok ()) ∧ go s = (last, .ok ()) := by
  obtain ⟨s, failure | ⟨⟩⟩ := ended
  · simp [goOn]
  · simp [goOn]

/-- It does not matter how the parts that a session goes on with are grouped. -/
theorem goOn_assoc (ended : Session σ × ReadOutcome ε)
    (first second : Session σ → Session σ × ReadOutcome ε) :
    goOn (goOn ended first) second = goOn ended fun s => goOn (first s) second := by
  obtain ⟨s, failure | ⟨⟩⟩ := ended <;> rfl

/-- Lines are fed one after the other. -/
theorem feedAll_cons (line : String) (lines : List String) (s : Session σ) :
    feedAll h (line :: lines) s = goOn (feed h s (some line)) (feedAll h lines) := by
  rw [feedAll]
  obtain ⟨fed, failure | ⟨⟩⟩ := feed h s (some line) <;> rfl

/-- Lines are fed to the end of the first ones, and the others from there. -/
theorem feedAll_append (first second : List String) (s : Session σ) :
    feedAll h (first ++ second) s = goOn (feedAll h first s) (feedAll h second) := by
  induction first generalizing s with
  | nil => rfl
  | cons line first ih =>
    rw [List.cons_append, feedAll_cons, feedAll_cons, goOn_assoc]
    congr 1
    funext fed
    exact ih fed

/-- **The failing line**: lines that fail do so at one of them, behind lines that were read. -/
theorem exists_line_of_feedAll {failure : ReadFailure ε} (hfailed : (feedAll h lines s).2 = .error failure) :
    ∃ before line behind reached, lines = before ++ line :: behind ∧
      feedAll h before s = (reached, .ok ()) ∧ feed h reached (some line) = feedAll h lines s := by
  induction lines generalizing s with
  | nil => cases hfailed
  | cons line lines ih =>
    rw [feedAll_cons] at hfailed ⊢
    cases hline : (feed h s (some line)).2 with
    | error _ => exact ⟨[], line, lines, s, rfl, rfl, (goOn_of_error hline _).symm⟩
    | ok _ =>
      rw [goOn_of_ok hline] at hfailed ⊢
      obtain ⟨before, last, behind, reached, rfl, hbefore, hlast⟩ := ih hfailed
      refine ⟨line :: before, last, behind, reached, rfl, ?_, hlast⟩
      rw [feedAll_cons, goOn_of_ok hline, hbefore]

/-- A session is finished by the end of input, and is then told that the document is over. -/
theorem finish_eq_goOn (s : Session σ) :
    finish h s = goOn (feed h s none) fun s => send h s .finishParse := by
  unfold finish
  obtain ⟨ended, failure | ⟨⟩⟩ := feed h s none <;> rfl

/-! ## A document begun -/

/-- A session that has begun a document and read lines of it, up to the first failure. -/
def fed (h : Handler σ ε) (s : Session σ) (source : String) (lines : List String) :
    Session σ × ReadOutcome ε :=
  goOn (begin h s source) (feedAll h lines)

/-- The first lines of a document can be fed on their own, and the others after them. -/
theorem fed_append (first second : List String) :
    s.fed h source (first ++ second) = goOn (s.fed h source first) (feedAll h second) := by
  unfold fed
  rw [goOn_assoc]
  congr 1
  funext started
  exact feedAll_append first second started

/-- A reading of lines ends the document behind them. -/
theorem parseLines_eq_goOn : s.parseLines h source lines = goOn (s.fed h source lines) (finish h) := by
  rw [parseLines, parse_eq_goOn, fed, goOn_assoc]

/-- A reading that runs out of lines too early fails behind those that there are. -/
theorem parse_of_unreadable (reason : String) :
    s.parse h source lines (some reason) =
      goOn (s.fed h source lines) fun s => (s, .error (.fault (.unreadable source reason))) := by
  rw [parse_eq_goOn, fed, goOn_assoc]

/-- **What follows a failure is not read.** -/
theorem parseLines_append_of_error {failure : ReadFailure ε}
    (hfailed : (s.fed h source lines).2 = .error failure) (others : List String) :
    s.parseLines h source (lines ++ others) = s.fed h source lines := by
  have hmore : s.fed h source (lines ++ others) = s.fed h source lines := by
    rw [fed_append, goOn_of_error hfailed]
  rw [parseLines_eq_goOn, hmore, goOn_of_error hfailed]

/-- What a session makes of the first lines of a document follows their transcript. -/
theorem fed_follows (source : String) (lines : List String) (s : Session σ) : Follows h s
    (Transcript.andThen { events := [.startParse source], parser := {} } fun p => p.reportAll lines)
    (s.fed h source lines) := by
  have hbegin : Follows h s { events := [.startParse source], parser := {} } (begin h s source) :=
    send_follows (.startParse source) { s with parser := {} }
  exact hbegin.goOn (fun p => p.reportAll lines) _ fun started => feedAll_follows lines started

/-- Lines that were read without failure leave the parser as their transcript says: their number is counted,
and the document has not ended. -/
theorem parser_of_fed {reached : Session σ} (hreached : s.fed h source lines = (reached, .ok ())) :
    reached.parser.lineNumber = lines.length ∧ reached.parser.state ≠ .ended := by
  have hfollows := fed_follows (h := h) source lines s
  rw [hreached] at hfollows
  obtain ⟨-, hparser, hok⟩ := hfollows.of_outcome rfl
  rw [Transcript.andThen_of_none rfl] at hparser hok
  obtain ⟨hnumber, hstate⟩ := Parser.reportAll_of_lines hok
  rw [show reached.parser = _ from hparser]
  have hstart : ({} : Parser).state ≠ .ended := by decide
  refine ⟨?_, hstate hstart⟩
  rw [hnumber]
  exact Nat.zero_add _

end Session

end Acceptance
