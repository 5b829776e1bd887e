import Acceptance.Proofs.Document.Faults
import Acceptance.Proofs.Document.Place

/-!
# Comments and blank lines

Comments and blank lines take a parser nowhere outside of multiline blocks: it is at the same place behind them
(`Parser.report_comment`, `Parser.report_blank`). What comes next is then reported as if they were not there,
and a fault differs in the number of its line (`Parser.SamePlace.reportRest`).
-/

set_option autoImplicit false

namespace Acceptance

open Acceptance.Grammar

/-! ## Numbers of lines -/

/-- Transcripts of the same events that end at the same place or with the same fault, the numbers of lines
apart. -/
structure Transcript.Renumbered (f : Nat → Nat) (t t' : Transcript) : Prop where
  events_eq : t'.events = t.events
  fault_eq : t'.fault = t.fault.map (ParseFault.renumber f)
  place : t.parser.SamePlace t'.parser

/-- Transcripts that differ in line numbers go on to differ in these only. -/
theorem Transcript.Renumbered.andThen {f : Nat → Nat} {t t' : Transcript} {next next' : Parser → Transcript}
    (h : Renumbered f t t')
    (hnext : t.fault = none → t'.fault = none → Renumbered f (next t.parser) (next' t'.parser)) :
    Renumbered f (t.andThen next) (t'.andThen next') := by
  have hfault := h.fault_eq
  cases ht : t.fault with
  | some fault =>
    rw [ht, Option.map_some] at hfault
    rw [andThen_of_some ht, andThen_of_some hfault]
    exact h
  | none =>
    rw [ht, Option.map_none] at hfault
    rw [andThen_of_none ht, andThen_of_none hfault]
    obtain ⟨hevents, hlast, hplace⟩ := hnext ht hfault
    exact ⟨by dsimp only; rw [h.events_eq, hevents], hlast, hplace⟩

namespace Parser

variable {p q : Parser} {line : Option String} {lines : List String} {fault : ParseFault} {f : Nat → Nat}
  {k : Nat}

/-- The line number behind a line is that of the line. -/
theorem lineNumber_report (p : Parser) (line : Option String) :
    (p.report line).parser.lineNumber = (p.count line).lineNumber := by
  rcases p.report_cases line with ⟨fault, -, hreport⟩ | ⟨text, -, -, -, hreport⟩ |
    ⟨row, parts, events, -, -, -, hreport⟩ <;> rw [hreport]

/-- The fault of a line has the number of the line. -/
theorem lineNumber?_of_report (h : (p.report line).fault = some fault) :
    fault.lineNumber? = line.map fun _ => p.lineNumber + 1 := by
  have hnumber : (p.count line).Faults line fault := by
    rcases p.report_cases line with ⟨other, hread, hreport⟩ | ⟨text, -, -, -, hreport⟩ |
      ⟨row, parts, events, -, -, -, hreport⟩
    · rw [hreport] at h
      exact Option.some.inj h ▸ faults_of_read hread
    · rw [hreport] at h
      cases h
    · rw [hreport] at h
      cases h
  rw [hnumber.lineNumber?_eq]
  cases line <;> rfl

/-- The fault of lines has the number of one of them. -/
theorem lineNumber_of_reportAll (h : (p.reportAll lines).fault = some fault) :
    ∀ number, fault.lineNumber? = some number →
      p.lineNumber < number ∧ number ≤ p.lineNumber + lines.length := by
  induction lines generalizing p with
  | nil => cases h
  | cons line lines ih =>
    intro number hnumber
    rw [reportAll] at h
    cases hfirst : (p.report (some line)).fault with
    | some other =>
      rw [Transcript.andThen_of_some hfirst, hfirst] at h
      obtain rfl := Option.some.inj h
      rw [lineNumber?_of_report hfirst] at hnumber
      obtain rfl := Option.some.inj hnumber
      simp
    | none =>
      rw [Transcript.andThen_of_none hfirst] at h
      have hcount : (p.report (some line)).parser.lineNumber = p.lineNumber + 1 := lineNumber_report p _
      obtain ⟨hlow, hhigh⟩ := ih h number hnumber
      rw [hcount] at hlow hhigh
      rw [List.length_cons]
      omega

/-- Parsers at the same place report one line alike, where the numbers beyond the lines read fit. -/
theorem SamePlace.report_renumbered (h : SamePlace p q) (hnumber : q.lineNumber = p.lineNumber + k)
    (hf : ∀ number, p.lineNumber < number → f number = number + k) (line : Option String) :
    (p.report line).Renumbered f (q.report line) := by
  obtain ⟨hevents, hfault, hplace, -⟩ := h.report line
  refine ⟨hevents, hfault.trans ?_, hplace⟩
  cases hp : (p.report line).fault with
  | none => rfl
  | some fault =>
    refine congrArg some (ParseFault.renumber_congr fun number hnumbered => ?_)
    rw [lineNumber?_of_report hp] at hnumbered
    cases line with
    | none => cases hnumbered
    | some text =>
      obtain rfl := Option.some.inj hnumbered
      rw [hf _ (Nat.lt_succ_self _)]
      show q.lineNumber + 1 = p.lineNumber + 1 + k
      omega

/-- **Parsers at the same place report lines alike**, by induction on the lines. -/
theorem SamePlace.reportAll (h : SamePlace p q) (hnumber : q.lineNumber = p.lineNumber + k)
    (hf : ∀ number, p.lineNumber < number → f number = number + k) (lines : List String) :
    (p.reportAll lines).Renumbered f (q.reportAll lines) := by
  induction lines generalizing p q with
  | nil => exact ⟨rfl, rfl, h⟩
  | cons line lines ih =>
    have hp : (p.report (some line)).parser.lineNumber = p.lineNumber + 1 := lineNumber_report p _
    have hq : (q.report (some line)).parser.lineNumber = q.lineNumber + 1 := lineNumber_report q _
    have hline := h.report_renumbered hnumber hf (some line)
    refine hline.andThen fun _ _ => ih hline.place ?_ fun number hbeyond => hf number ?_
    · rw [hq, hp, hnumber, Nat.add_right_comm]
    · rw [hp] at hbeyond
      omega

/-- **Parsers at the same place come to the same end**: the rest of a document is reported alike. -/
theorem SamePlace.reportRest (h : SamePlace p q) (hnumber : q.lineNumber = p.lineNumber + k)
    (hf : ∀ number, p.lineNumber < number → f number = number + k) (lines : List String) :
    ((p.reportAll lines).andThen fun p => p.report none).Renumbered f
      ((q.reportAll lines).andThen fun q => q.report none) := by
  have hlines := h.reportAll hnumber hf lines
  refine hlines.andThen fun hp hq => hlines.place.report_renumbered ?_ (fun number hbeyond => hf number ?_) none
  · rw [(reportAll_of_lines hp).1, (reportAll_of_lines hq).1, hnumber, Nat.add_right_comm]
  · rw [(reportAll_of_lines hp).1] at hbeyond
    omega

end Parser

/-! ## Remarks -/

namespace Grammar

/-- Outside blocks a comment is looked for first. -/
theorem rows_of_comment : ∀ s : State, s.afterBlock? = none → s ≠ .ended →
    (standard.rows s).head? = some (commentIn s) := by
  intro s
  cases s <;> decide

/-- No matcher takes blank lines. -/
theorem Matcher.takes_blank : ∀ m : Matcher, m.takes .blank = false := by
  intro m
  cases m <;> decide

/-- Whether the lines of a class are comments or blank lines. -/
def LineClass.isRemark : LineClass → Bool
  | comment | blank => true
  | _ => false

/-- The classes of remarks are comments and blank lines. -/
theorem LineClass.isRemark_iff {c : LineClass} : c.isRemark = true ↔ c = .comment ∨ c = .blank := by
  cases c <;> simp [isRemark]

/-- Whether the lines of a class end a description. -/
def LineClass.endsDescription : LineClass → Bool
  | tags | background | scenario | outline => true
  | _ => false

/-- **What ends a description** reports its end first. -/
theorem row_of_endsDescription : ∀ c : LineClass, c.endsDescription = true →
    ∃ row ∈ standard.rows .description,
      (standard.rows .description).find? (fun row => row.matcher.takes c) = some row ∧
        row.actions.head? = some .finishDescription := by
  intro c
  cases c <;> decide

/-- Whether nothing but comments and blank lines is left of a description before the given lines end it. -/
def EndsDescription (lines : List String) : Prop :=
  ∀ line, lines.find? (fun line => !(LineClass.ofLine line).isRemark) = some line →
    (LineClass.ofLine line).endsDescription = true

end Grammar

namespace Parser

variable {p : Parser} {line : String}

/-- **A comment** is reported as one, and takes the parser nowhere. -/
theorem report_comment (houtside : p.state.afterBlock? = none) (hended : p.state ≠ .ended)
    (hclass : LineClass.ofLine line = .comment) :
    (∃ text, (p.report (some line)).events = [.comment text]) ∧ (p.report (some line)).fault = none ∧
      p.SamePlace (p.report (some line)).parser := by
  have hsome : (Matcher.comment.parts? line).isSome = true := (LineClass.ofLine_eq_iff rfl line).mp hclass
  obtain ⟨captured, hcaptured⟩ := Option.isSome_iff_exists.mp hsome
  have hparts : (p.count (some line)).partsOf .comment line = .ok (some (captured.map Text.trimmed)) := by
    unfold partsOf
    dsimp only
    rw [hcaptured, Option.map_some]
  have hread : (p.count (some line)).read (some line) =
      .fires (commentIn p.state) (captured.map Text.trimmed) := by
    obtain ⟨rows, hrows⟩ := List.head?_eq_some_iff.mp (rows_of_comment p.state houtside hended)
    rw [read, state_count, hrows, firstRow]
    dsimp only [commentIn]
    rw [hparts]
  obtain ⟨events, hevents, hreport⟩ := report_of_fires hread
  rw [hreport]
  cases hevents with
  | cons hevent hnil =>
    cases hnil
    cases hevent
    exact ⟨⟨_, rfl⟩, rfl, rfl, .inl rfl⟩

/-- **A blank line** is reported as it is, and takes the parser nowhere. -/
theorem report_blank (houtside : p.state.afterBlock? = none) (hline : '\n' ∉ line.toList)
    (hclass : LineClass.ofLine line = .blank) :
    (p.report (some line)).events = [.whitespace line] ∧ (p.report (some line)).fault = none ∧
      p.SamePlace (p.report (some line)).parser := by
  have hread : (p.count (some line)).read (some line) = .blank line := by
    obtain ⟨parts, hfirst⟩ := firstRow_eq (p := p.count (some line))
      (p.state.matcher_ne_of_afterBlock? houtside) hline
    have hnone : (standard.rows p.state).find? (fun row => row.matcher.takes (.ofLine line)) = none := by
      rw [hclass]
      exact List.find?_eq_none.mpr fun row _ => by simp [Matcher.takes_blank]
    rw [read, state_count, hfirst, hnone]
    exact if_pos (LineClass.ofLine_eq_blank.mp hclass)
  rw [report_of_blank hread]
  exact ⟨rfl, rfl, state_count p _, .inl (indent_count p _)⟩

/-- Where a line ends a description, that is reported first. -/
theorem events_of_finishDescription {line : Option String} {row : Transition} {parts : List String}
    (hread : (p.count line).read line = .fires row parts)
    (hactions : row.actions.head? = some .finishDescription) :
    ∃ rest, (p.report line).events = .finishDescription :: rest := by
  obtain ⟨actions, hactions⟩ := List.head?_eq_some_iff.mp hactions
  obtain ⟨events, hevents, hreport⟩ := report_of_fires hread
  rw [hactions] at hevents
  rw [hreport]
  cases hevents with
  | cons hevent _ =>
    cases hevent
    exact ⟨_, rfl⟩

/-- **The end of a description** is reported first at a line that ends it. -/
theorem report_endsDescription (hstate : p.state = .description) (hline : '\n' ∉ line.toList)
    (hclass : (LineClass.ofLine line).endsDescription = true) :
    ∃ rest, (p.report (some line)).events = .finishDescription :: rest := by
  obtain ⟨row, -, hfind, hactions⟩ := row_of_endsDescription _ hclass
  obtain ⟨parts, hfirst⟩ := firstRow_eq (p := p.count (some line))
    (State.description.matcher_ne_of_afterBlock? rfl) hline
  have hread : (p.count (some line)).read (some line) = .fires row parts := by
    rw [read, state_count, hstate, hfirst, hfind]
    rfl
  exact events_of_finishDescription hread hactions

/-- The end of input ends a description too. -/
theorem report_none_of_description (hstate : p.state = .description) :
    ∃ rest, (p.report none).events = .finishDescription :: rest := by
  have hread : (p.count none).read none =
      .fires ⟨.endOfInput, [.finishDescription, .finishFeature], .ended⟩ [] := by
    rw [read, state_count, hstate]
    rfl
  exact events_of_finishDescription hread rfl

end Parser

end Acceptance
