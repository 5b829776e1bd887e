import Acceptance.Document.Parser
import Acceptance.Proofs.Document.StepLine

/-!
# What a line can mean

One line, or the end of input, means one of three things to a parser: a row of its state fires, the line is
blank, or it is a fault. This file says once what each of the three takes, and that a row that fires has an
event for each of its actions.
-/

set_option autoImplicit false

namespace Acceptance

open Acceptance.Grammar

namespace Parser

variable {p : Parser} {line : Option String} {rows : List Transition} {row : Transition}
  {parts : List String}

/-- Whether a row accepts a line with the given parts: the end of input has a row of its own, and a line is
of the class of the row. -/
def Accepts (p : Parser) (row : Transition) (parts : List String) : Option String → Prop
  | none => row.matcher = .endOfInput ∧ parts = []
  | some text => p.partsOf row.matcher text = .ok (some parts)

/-- The row that is found is one of those given, and takes the line. -/
theorem mem_and_accepts_of_firstRow (h : p.firstRow line rows = .ok (some (row, parts))) :
    row ∈ rows ∧ p.Accepts row parts line := by
  induction rows with
  | nil => simp [firstRow] at h
  | cons first rows ih =>
    cases line with
    | none =>
      simp only [firstRow] at h
      split at h
      · next hend =>
        cases h
        exact ⟨by simp, hend, rfl⟩
      · exact ⟨List.mem_cons_of_mem _ (ih h).1, (ih h).2⟩
    | some text =>
      simp only [firstRow] at h
      split at h
      · cases h
      · next hparts =>
        cases h
        exact ⟨by simp, hparts⟩
      · exact ⟨List.mem_cons_of_mem _ (ih h).1, (ih h).2⟩

/-- **What fires** is a row of the state that accepts the line. -/
theorem mem_and_accepts_of_read (h : p.read line = .fires row parts) :
    row ∈ standard.rows p.state ∧ p.Accepts row parts line := by
  simp only [read] at h
  split at h
  · cases h
  · next hfirst =>
    cases h
    exact mem_and_accepts_of_firstRow hfirst
  · repeat' split at h
    all_goals cases h

/-- Any line is content of a multiline block or a fault, so that no line is left over where content may
stand. -/
theorem matcher_ne_of_firstRow {text : String} (h : p.firstRow (some text) rows = .ok none) :
    ∀ row ∈ rows, row.matcher ≠ .multilineContent := by
  induction rows with
  | nil => simp
  | cons first rows ih =>
    simp only [firstRow] at h
    split at h
    · cases h
    · cases h
    · next hparts =>
      refine List.forall_mem_cons.mpr ⟨fun hcontent => ?_, ih h⟩
      rw [hcontent, partsOf] at hparts
      cases hcontent : p.contentParts text <;> rw [hcontent] at hparts <;> cases hparts

/-- Only a line is read as blank, and only where it has no character other than blanks and is no content of
a multiline block. -/
theorem eq_some_of_read_blank {text : String} (h : p.read line = .blank text) :
    line = some text ∧ Text.isBlankText text = true ∧
      ∀ row ∈ standard.rows p.state, row.matcher ≠ .multilineContent := by
  simp only [read] at h
  split at h
  · cases h
  · cases h
  · next hfirst =>
    split at h
    · split at h
      · next hblank =>
        cases h
        exact ⟨rfl, hblank, matcher_ne_of_firstRow hfirst⟩
      · cases h
    · cases h

end Parser

namespace Grammar

/-- Steps begin with lines that are read as steps. -/
theorem matcher_of_startStep_mem : ∀ s : State, ∀ row ∈ standard.rows s,
    .startStep ∈ row.actions → row.matcher = .step := by
  intro s
  cases s <;> decide

/-- The action that begins a step makes no other event. -/
theorem Action.eq_startStep_of_event {parts : List String} {event : Event}
    (h : Action.startStep.event parts = .ok event) : ∃ keyword text, event = .startStep keyword text := by
  unfold Action.event at h
  cases hread : Keyword.read (parts.headD "") with
  | error fault =>
    rw [hread] at h
    cases h
  | ok keyword =>
    rw [hread] at h
    cases h
    exact ⟨keyword, _, rfl⟩

/-- An action makes its event of any parts, but for a step, which needs a keyword. -/
theorem Action.exists_event {parts : List String} (a : Action)
    (h : a = .startStep → ∃ k, Keyword.read (parts.headD "") = .ok k) :
    ∃ event, a.event parts = .ok event := by
  cases a with
  | startStep =>
    obtain ⟨k, hk⟩ := h rfl
    refine ⟨.startStep k (parts.tail.headD ""), ?_⟩
    rw [Action.event, hk]
  | _ => exact ⟨_, rfl⟩

end Grammar

/-- **A row that fires has an event for each of its actions**: no line is recognised as a step without a
keyword. -/
theorem Parser.exists_event_of_read {p : Parser} {line : Option String} {row : Transition}
    {parts : List String} (h : p.read line = .fires row parts) :
    ∀ a ∈ row.actions, ∃ event, a.event parts = .ok event := by
  obtain ⟨hrow, haccepts⟩ := mem_and_accepts_of_read h
  intro a ha
  refine a.exists_event fun hstart => ?_
  have hmatcher := matcher_of_startStep_mem p.state row hrow (hstart ▸ ha)
  cases line with
  | none => simp [Accepts, hmatcher] at haccepts
  | some text =>
    simp only [Accepts, hmatcher, partsOf, Except.ok.injEq, Option.map_eq_some_iff] at haccepts
    obtain ⟨captured, hcaptured, rfl⟩ := haccepts
    exact read_headD_of_step hcaptured

end Acceptance
