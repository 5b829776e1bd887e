import Acceptance.Proofs.Document.Recognition

/-!
# What a parser reads by

The state of a parser decides what a line means to it, and within a multiline block the indentation of the
block does too. The number of lines that have been read shows in faults and nowhere else, and the line that
was recognised last shows nowhere. So parsers at the same place (`Parser.SamePlace`) report the same about a
line, their faults differ in the number of the line at most, and they are at the same place behind it
(`Parser.SamePlace.report`).
-/

set_option autoImplicit false

namespace Acceptance

open Acceptance.Grammar

namespace ParseFault

/-- The same fault, with the number of its line, if it has one, given by a function. -/
def renumber (f : Nat → Nat) : ParseFault → ParseFault
  | unexpectedLine number state line expected => unexpectedLine (f number) state line expected
  | dedent number indent line => dedent (f number) indent line
  | fault => fault

/-- The same fault at a line with another number. -/
def atLine (number : Nat) : ParseFault → ParseFault :=
  renumber fun _ => number

/-- Only the line number of a fault counts for a change of line numbers. -/
theorem renumber_congr {f g : Nat → Nat} {fault : ParseFault}
    (h : ∀ number, fault.lineNumber? = some number → f number = g number) :
    fault.renumber f = fault.renumber g := by
  cases fault with
  | unexpectedLine number state line expected => rw [renumber, renumber, h number rfl]
  | dedent number indent line => rw [renumber, renumber, h number rfl]
  | _ => rfl

/-- A fault whose line numbers stay is the same. -/
theorem renumber_id (fault : ParseFault) : fault.renumber id = fault := by
  cases fault <;> rfl

end ParseFault

/-- The same reading of a line with another number. -/
def Reading.atLine (number : Nat) : Reading → Reading
  | .fault f => .fault (f.atLine number)
  | reading => reading

namespace Grammar

/-- Actions report the same events of the same parts. -/
theorem Reports.unique {parts : List String} {actions : List Action} {events events' : List Event}
    (h : Reports parts actions events) (h' : Reports parts actions events') : events = events' := by
  refine List.right_unique_forall₂' (fun action event event' hevent hevent' => ?_) h h'
  exact Except.ok.inj (hevent.symm.trans hevent')

/-- **The rows that note an indentation** open a multiline block, and those that forget one close it. -/
theorem indentation_of_row : ∀ s : State, ∀ row ∈ standard.rows s,
    (row.matcher = .multilineOpen ∧ row.actions = [.startMultiline] ∧ s.afterBlock? = none) ∨
      (row.matcher = .multilineClose ∧ row.actions = [.finishMultiline, .finishStep] ∧
        s.afterBlock? = some row.next) ∨
      (row.matcher ≠ .multilineOpen ∧ row.matcher ≠ .multilineClose ∧
        (∀ a ∈ row.actions, a ≠ .startMultiline ∧ a ≠ .finishMultiline) ∧
        (s.afterBlock? = none → row.next.afterBlock? = none)) := by
  intro s
  cases s <;> decide

end Grammar

namespace Parser

variable {p q : Parser} {m : Matcher} {rows : List Transition}

/-- Counting a line does not touch the last match. -/
theorem lastMatch_count (p : Parser) (line : Option String) : (p.count line).lastMatch = p.lastMatch := by
  cases line <;> rfl

/-- An event about anything but the bounds of a multiline block leaves the indentation as it is. -/
theorem indentAfter_of_event {a : Action} {parts : List String} {event : Event}
    (ha : a ≠ .startMultiline ∧ a ≠ .finishMultiline) (hevent : a.event parts = .ok event)
    (indent : Option Nat) : indentAfter indent event = indent := by
  cases a with
  | startMultiline => exact absurd rfl ha.1
  | finishMultiline => exact absurd rfl ha.2
  | startStep =>
    obtain ⟨keyword, text, rfl⟩ := Action.eq_startStep_of_event hevent
    rfl
  | _ =>
    cases hevent
    rfl

/-- Where no block opens or closes, the indentation stays. -/
theorem foldl_indentAfter {parts : List String} {actions : List Action} {events : List Event}
    (hactions : ∀ a ∈ actions, a ≠ .startMultiline ∧ a ≠ .finishMultiline)
    (h : Reports parts actions events) (indent : Option Nat) :
    events.foldl indentAfter indent = indent := by
  induction h with
  | nil => rfl
  | cons hevent _ ih =>
    obtain ⟨hfirst, hrest⟩ := List.forall_mem_cons.mp hactions
    rw [List.foldl_cons, indentAfter_of_event hfirst hevent]
    exact ih hrest

/-! ## The same place -/

/-- Parsers in the same state that have noted the same indentation, if they are in a multiline block. -/
def SamePlace (p q : Parser) : Prop :=
  q.state = p.state ∧ (q.indent = p.indent ∨ p.state.afterBlock? = none)

/-- Parsers at one place are at one place with all others there. -/
theorem SamePlace.trans {r : Parser} (h : SamePlace p q) (h' : SamePlace q r) : SamePlace p r := by
  obtain ⟨hstate, hindent⟩ := h
  obtain ⟨hstate', hindent'⟩ := h'
  rw [hstate] at hstate' hindent'
  refine ⟨hstate', ?_⟩
  rcases hindent with hindent | houtside
  · exact hindent'.imp_left fun heq => heq.trans hindent
  · exact .inr houtside

/-- Parsers at one place stay so when each counts a line. -/
theorem SamePlace.count (h : SamePlace p q) (line : Option String) :
    SamePlace (p.count line) (q.count line) := by
  unfold SamePlace
  rw [state_count, state_count, indent_count, indent_count]
  exact h

/-- A matcher takes the same parts at any line number, if it does not depend on the indentation. -/
theorem partsOf_atLine (h : q.indent = p.indent ∨ m ≠ .multilineClose ∧ m ≠ .multilineContent)
    (text : String) :
    q.partsOf m text = (p.partsOf m text).mapError (ParseFault.atLine q.lineNumber) := by
  cases m with
  | multilineContent =>
    have hindent : q.indent = p.indent := h.resolve_right fun hm => hm.2 rfl
    unfold partsOf contentParts
    dsimp only
    rw [hindent]
    split <;> rfl
  | multilineClose =>
    have hindent : q.indent = p.indent := h.resolve_right fun hm => hm.1 rfl
    unfold partsOf
    dsimp only
    rw [hindent]
    split <;> rfl
  | _ => rfl

/-- The same row takes a line at any line number, if the matchers do not depend on the indentation. -/
theorem firstRow_atLine (h : q.indent = p.indent ∨
      ∀ row ∈ rows, row.matcher ≠ .multilineClose ∧ row.matcher ≠ .multilineContent)
    (line : Option String) :
    q.firstRow line rows = (p.firstRow line rows).mapError (ParseFault.atLine q.lineNumber) := by
  induction rows with
  | nil => rfl
  | cons row rows ih =>
    have hrow : q.indent = p.indent ∨ row.matcher ≠ .multilineClose ∧ row.matcher ≠ .multilineContent :=
      h.imp_right fun hrows => hrows row List.mem_cons_self
    have hrest := ih (h.imp_right fun hrows other hother => hrows other (List.mem_cons_of_mem _ hother))
    unfold firstRow
    cases line with
    | none =>
      dsimp only
      split
      · rfl
      · exact hrest
    | some text =>
      dsimp only
      rw [partsOf_atLine hrow]
      cases p.partsOf row.matcher text with
      | error fault => rfl
      | ok parts =>
        cases parts with
        | some parts => rfl
        | none => exact hrest

/-- **Parsers at the same place** take a line for the same. -/
theorem SamePlace.read (h : SamePlace p q) (line : Option String) :
    q.read line = (p.read line).atLine q.lineNumber := by
  obtain ⟨hstate, hindent⟩ := h
  have hfirst := firstRow_atLine (q := q) (hindent.imp_right p.state.matcher_ne_of_afterBlock?) line
  have hexpected : q.expected = p.expected := by rw [expected, expected, hstate]
  unfold Parser.read
  rw [hexpected, hstate, hfirst]
  cases p.firstRow line (standard.rows p.state) with
  | error fault => rfl
  | ok found =>
    cases found with
    | some found => rfl
    | none =>
      cases line with
      | some text =>
        dsimp only [Except.mapError]
        split <;> rfl
      | none => rfl

/-- **Parsers at the same place report the same** about a line, and are at the same place behind it. What
fires is then what they have recognised last. -/
theorem SamePlace.report (h : SamePlace p q) (line : Option String) :
    (q.report line).events = (p.report line).events ∧
      (q.report line).fault =
        (p.report line).fault.map (ParseFault.atLine (q.count line).lineNumber) ∧
      SamePlace (p.report line).parser (q.report line).parser ∧
      (q.lastMatch = p.lastMatch →
        (q.report line).parser.lastMatch = (p.report line).parser.lastMatch) := by
  have hplace := h.count line
  have hread := hplace.read line
  cases hp : (p.count line).read line with
  | fault fault =>
    rw [hp] at hread
    rw [report_of_fault hp, report_of_fault hread]
    exact ⟨rfl, rfl, hplace, fun heq => by rw [lastMatch_count, lastMatch_count, heq]⟩
  | blank text =>
    rw [hp] at hread
    rw [report_of_blank hp, report_of_blank hread]
    exact ⟨rfl, rfl, hplace, fun heq => by rw [lastMatch_count, lastMatch_count, heq]⟩
  | fires row parts =>
    rw [hp] at hread
    obtain ⟨events, hevents, hreport⟩ := report_of_fires hp
    obtain ⟨events', hevents', hreport'⟩ := report_of_fires hread
    obtain rfl := hevents.unique hevents'
    rw [hreport, hreport']
    refine ⟨rfl, rfl, ⟨rfl, ?_⟩, fun _ => rfl⟩
    have hrow := (mem_and_accepts_of_read hp).1
    rw [state_count] at hrow
    rcases indentation_of_row p.state row hrow with ⟨-, hactions, -⟩ | ⟨-, hactions, -⟩ |
      ⟨-, -, hactions, hnext⟩
    · rw [hactions] at hevents
      cases hevents with
      | cons hevent hnil =>
        cases hnil
        cases hevent
        exact .inl rfl
    · rw [hactions] at hevents
      cases hevents with
      | cons hfirst hrest =>
        cases hrest with
        | cons hsecond hnil =>
          cases hnil
          cases hfirst
          cases hsecond
          exact .inl rfl
    · dsimp only
      rw [foldl_indentAfter hactions hevents, foldl_indentAfter hactions hevents]
      exact h.2.imp_right hnext

end Parser

end Acceptance
