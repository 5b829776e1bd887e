import Mathlib.Computability.RegularExpressions
import Acceptance.Grammar.Standard
import Acceptance.Proofs.Document.LineClass

/-!
# The language of documents

What a document may be, as a regular expression over the classes of its lines. A multiline block counts as
one symbol; blank lines, and comments outside of multiline blocks, count for nothing. Every state of the
grammar has a residual: the expression for what may follow. The rows of the grammar take residuals to
residuals (`State.derivative_residual`), which makes the state machine and the expression the same.
-/

set_option autoImplicit false

namespace Acceptance.Grammar

open Computability

/-- What a document is made of: lines by their classes, and multiline blocks. -/
inductive Symbol where
  | line (c : LineClass)
  | block
  deriving DecidableEq, Repr

/-- The symbol of a line outside of multiline blocks. Blank lines and comments do not count. -/
def LineClass.symbol? (c : LineClass) : Option Symbol :=
  if c = .blank ∨ c = .comment then none else some (.line c)

/-- Comments are no symbols of a document: no class of lines gives one. -/
theorem LineClass.symbol?_ne_comment : ∀ c : LineClass, c.symbol? ≠ some (.line .comment) := by
  intro c
  cases c <;> decide

/-! ## Documents as an expression -/

namespace Document

/-- One line of a class. -/
def line (c : LineClass) : RegularExpression Symbol :=
  .char (.line c)

/-- One multiline block. -/
def block : RegularExpression Symbol :=
  .char .block

/-- A line of a description. -/
def description : RegularExpression Symbol :=
  line .feature + line .examples + line .step + line .delimiter + line .tableRow + line .other

/-- The rows of a table, one at least. -/
def table : RegularExpression Symbol :=
  line .tableRow * .star (line .tableRow)

/-- What may follow the line of a step and belongs to the step. -/
def attachment : RegularExpression Symbol :=
  1 + table + block

/-- A step with its table or its multiline block, if it has one. -/
def stepGroup : RegularExpression Symbol :=
  line .step * attachment

/-- An examples block with the tags before it. -/
def examplesBlock : RegularExpression Symbol :=
  .star (line .tags) * line .examples * table

/-- What follows the description: tags and blocks in any order. -/
def body : RegularExpression Symbol :=
  .star (line .tags + line .background * .star stepGroup + line .scenario * .star stepGroup +
    line .outline * .star stepGroup * .star examplesBlock)

/-- A document: tags, and then a feature if there is one. -/
def document : RegularExpression Symbol :=
  .star (line .tags) + .star (line .tags) * line .feature * .star description * body

end Document

open Document

/-- What may follow in a state. Within a multiline block no symbol begins, and after the end of input
nothing follows. -/
def State.residual : State → RegularExpression Symbol
  | .start => document
  | .feature | .description => .star Document.description * body
  | .featureBody => body
  | .background | .scenario => .star stepGroup * body
  | .backgroundStep | .scenarioStep => attachment * (.star stepGroup * body)
  | .backgroundTable | .scenarioTable => .star (line .tableRow) * (.star stepGroup * body)
  | .outline => .star stepGroup * (.star examplesBlock * body)
  | .outlineStep => attachment * (.star stepGroup * (.star examplesBlock * body))
  | .outlineTable => .star (line .tableRow) * (.star stepGroup * (.star examplesBlock * body))
  | .afterOutline => .star examplesBlock * body
  | .examples => table * (.star examplesBlock * body)
  | .examplesTable => .star (line .tableRow) * (.star examplesBlock * body)
  | .backgroundMultiline | .scenarioMultiline | .outlineMultiline | .ended => 0

/-! ## The grammar on symbols -/

/-- The state after a line of a class, by the first row that takes the class. -/
def State.next? (s : State) (c : LineClass) : Option State :=
  ((standard.rows s).find? fun row => row.matcher.takes c).map (·.next)

/-- The state to which the end of a multiline block leads, in a state within one. -/
def State.afterBlock? (s : State) : Option State :=
  ((standard.rows s).find? fun row => row.matcher == .multilineClose).map (·.next)

/-- The state after a symbol. -/
def State.after? (s : State) : Symbol → Option State
  | .line c => s.next? c
  | .block => (s.next? .delimiter).bind State.afterBlock?

/-- The state after a line of a class that is a symbol of its own, or does not count. -/
def State.step? (s : State) (c : LineClass) : Option State :=
  match c.symbol? with
  | none => some s
  | some a => s.after? a

/-- Outside blocks a blank line changes nothing, and any other line goes where the grammar says. -/
theorem State.step?_eq : ∀ (s : State) (c : LineClass), s.afterBlock? = none → s ≠ .ended →
    s.step? c = if c = .blank then some s else s.next? c := by
  intro s c
  cases s <;> cases c <;> decide

/-! ## Derivatives -/

section Derivatives

open RegularExpression

variable (P Q : RegularExpression Symbol) (a : Symbol)

/-- What an expression leaves behind a symbol, as a language. -/
def derivative : Language Symbol :=
  (P.deriv a).matches'

/-- What may follow a symbol is matched by the derivative. -/
theorem cons_mem_matches' {w : List Symbol} : a :: w ∈ P.matches' ↔ w ∈ derivative P a := by
  unfold derivative
  rw [← rmatch_iff_matches', ← rmatch_iff_matches', rmatch]

/-- Either of two expressions may go on. -/
theorem derivative_add : derivative (P + Q) a = derivative P a + derivative Q a :=
  rfl

/-- A single symbol goes on with nothing. -/
theorem derivative_char (b : Symbol) : derivative (char b) a = if a = b then 1 else 0 := by
  unfold derivative
  by_cases h : a = b
  · rw [h, deriv_char_self, if_pos rfl, matches'_epsilon]
  · rw [deriv_char_of_ne (Ne.symm h), if_neg h, matches'_zero]

/-- A symbol belongs to the first factor, if that is not empty. -/
theorem derivative_mul (h : P.matchEpsilon = false) :
    derivative (P * Q) a = derivative P a * Q.matches' := by
  change RegularExpression.matches' (if P.matchEpsilon then _ else _) = _
  rw [h, if_neg Bool.false_ne_true]
  rfl

/-- A symbol belongs to either factor, if the first one may be empty. -/
theorem derivative_mul_of_matchEpsilon (h : P.matchEpsilon = true) :
    derivative (P * Q) a = derivative P a * Q.matches' + derivative Q a := by
  change RegularExpression.matches' (if P.matchEpsilon then _ else _) = _
  rw [h, if_pos rfl]
  rfl

/-- A repetition goes on with the rest of a round, or with what follows it. -/
theorem derivative_star_mul :
    derivative (star P * Q) a = derivative P a * (star P * Q).matches' + derivative Q a := by
  rw [derivative_mul_of_matchEpsilon _ _ _ rfl, matches'_mul, ← mul_assoc]
  rfl

/-- A repetition has one more round or is over. -/
theorem matches'_star_mul :
    (star P * Q).matches' = P.matches' * (star P * Q).matches' + Q.matches' := by
  rw [matches'_mul, matches'_star, ← mul_assoc, add_comm]
  nth_rewrite 1 [← one_add_mul_kstar]
  rw [add_mul, one_mul]

namespace Document

/-- A line of a class goes on with nothing. -/
theorem derivative_line (c : LineClass) : derivative (line c) a = if a = .line c then 1 else 0 :=
  derivative_char a (.line c)

/-- Repeated lines of a class go on with more of them, or with what follows. -/
theorem derivative_lines_mul (c : LineClass) :
    derivative (star (line c) * P) a =
      (if a = .line c then (star (line c) * P).matches' else 0) + derivative P a := by
  rw [derivative_star_mul, derivative_line, ite_mul, one_mul, zero_mul]

/-- A table begins with a row, and goes on with more rows or with what follows it. -/
theorem derivative_table_mul :
    derivative (table * P) a =
      if a = .line .tableRow then (star (line .tableRow) * P).matches' else 0 := by
  rw [derivative_mul _ _ _ rfl, table, derivative_mul _ _ _ rfl, derivative_line, ite_mul, ite_mul,
    one_mul, zero_mul, zero_mul, matches'_mul]

/-- What is attached to a step is a table or a block, and may be missing. -/
theorem derivative_attachment_mul :
    derivative (attachment * P) a =
      (if a = .line .tableRow then (star (line .tableRow) * P).matches' else 0) +
        (if a = .block then P.matches' else 0) + derivative P a := by
  have hone : derivative 1 a = 0 := rfl
  have htable : derivative table a =
      if a = .line .tableRow then (star (line .tableRow)).matches' else 0 := by
    rw [table, derivative_mul _ _ _ rfl, derivative_line, ite_mul, one_mul, zero_mul]
  rw [derivative_mul_of_matchEpsilon _ _ _ rfl, attachment, derivative_add, derivative_add, htable,
    block, derivative_char, hone, zero_add, add_mul, ite_mul, ite_mul, zero_mul, one_mul, matches'_mul]

/-- Steps go on with what is attached to the first one, or there are none. -/
theorem derivative_steps_mul :
    derivative (star stepGroup * P) a =
      (if a = .line .step then (attachment * (star stepGroup * P)).matches' else 0) +
        derivative P a := by
  rw [derivative_star_mul, stepGroup, derivative_mul _ _ _ rfl, derivative_line, ite_mul, ite_mul,
    one_mul, zero_mul, zero_mul, matches'_mul attachment]

/-- A description goes on with any line that is not a header of what may follow it. -/
theorem derivative_description_mul :
    derivative (star Document.description * P) a =
      (if a = .line .feature then (star Document.description * P).matches' else 0) +
        (if a = .line .examples then (star Document.description * P).matches' else 0) +
        (if a = .line .step then (star Document.description * P).matches' else 0) +
        (if a = .line .delimiter then (star Document.description * P).matches' else 0) +
        (if a = .line .tableRow then (star Document.description * P).matches' else 0) +
        (if a = .line .other then (star Document.description * P).matches' else 0) +
        derivative P a := by
  have hline : derivative Document.description a =
      (if a = .line .feature then 1 else 0) + (if a = .line .examples then 1 else 0) +
        (if a = .line .step then 1 else 0) + (if a = .line .delimiter then 1 else 0) +
        (if a = .line .tableRow then 1 else 0) + (if a = .line .other then 1 else 0) := by
    simp only [Document.description, derivative_add, derivative_line]
  rw [derivative_star_mul, hline]
  simp only [add_mul, ite_mul, one_mul, zero_mul]

/-- Examples blocks begin with tags or with the header in front of a table, or there are none. -/
theorem derivative_examples_mul :
    derivative (star examplesBlock * P) a =
      (if a = .line .tags then (examplesBlock * (star examplesBlock * P)).matches' else 0) +
        (if a = .line .examples then (table * (star examplesBlock * P)).matches' else 0) +
        derivative P a := by
  have hblock : derivative examplesBlock a =
      (if a = .line .tags then examplesBlock.matches' else 0) +
        (if a = .line .examples then table.matches' else 0) := by
    unfold examplesBlock
    rw [derivative_mul _ _ _ rfl, derivative_lines_mul, derivative_line, add_mul, ite_mul, ite_mul,
      one_mul, zero_mul]
    rfl
  rw [derivative_star_mul, hblock, add_mul, ite_mul, ite_mul, zero_mul]
  rfl

/-- The body of a feature goes on with tags, or with the header of a block. -/
theorem derivative_body :
    derivative body a =
      (if a = .line .tags then body.matches' else 0) +
        (if a = .line .background then (star stepGroup * body).matches' else 0) +
        (if a = .line .scenario then (star stepGroup * body).matches' else 0) +
        (if a = .line .outline then (star stepGroup * (star examplesBlock * body)).matches' else 0) := by
  have hturn : derivative body a =
      derivative (line .tags + line .background * .star stepGroup + line .scenario * .star stepGroup +
        line .outline * .star stepGroup * .star examplesBlock) a * body.matches' := rfl
  rw [hturn, derivative_add, derivative_add, derivative_add, derivative_mul _ _ _ rfl,
    derivative_mul _ _ _ rfl, derivative_mul _ _ _ rfl, derivative_mul _ _ _ rfl]
  simp only [derivative_line, add_mul, ite_mul, one_mul, zero_mul, matches'_mul, mul_assoc]

/-- After an outline, tags may be those of an examples block or others. -/
theorem derivative_afterOutline :
    derivative (star examplesBlock * body) a =
      (if a = .line .tags then (star examplesBlock * body).matches' else 0) +
        (if a = .line .examples then (table * (star examplesBlock * body)).matches' else 0) +
        (if a = .line .background then (star stepGroup * body).matches' else 0) +
        (if a = .line .scenario then (star stepGroup * body).matches' else 0) +
        (if a = .line .outline then (star stepGroup * (star examplesBlock * body)).matches' else 0) := by
  rw [derivative_examples_mul, derivative_body]
  by_cases h : a = .line .tags
  · have hturn := matches'_star_mul examplesBlock body
    simp only [h, if_true, Symbol.line.injEq, reduceCtorEq, if_false, add_zero]
    rw [hturn, matches'_mul examplesBlock]
  · simp only [if_neg h, zero_add, add_assoc]

/-- A document goes on with tags, or with the header of the feature. -/
theorem derivative_document :
    derivative document a =
      (if a = .line .tags then document.matches' else 0) +
        (if a = .line .feature then (star Document.description * body).matches' else 0) := by
  have htags : derivative (star (line .tags)) a =
      if a = .line .tags then (star (line .tags)).matches' else 0 := by
    have hturn : derivative (star (line .tags)) a =
      derivative (line .tags) a * (star (line .tags)).matches' := rfl
    rw [hturn, derivative_line, ite_mul, one_mul, zero_mul]
  unfold document
  rw [derivative_add, htags, derivative_mul _ _ _ rfl, derivative_mul _ _ _ rfl, derivative_lines_mul,
    derivative_line]
  by_cases h : a = .line .tags
  · simp [h, mul_assoc]
  · simp [h]

end Document

end Derivatives

/-! ## States and residuals -/

open Document in
/-- **The rows of the grammar take residuals to residuals**: what a residual leaves behind a symbol is the
residual of the next state, and nothing where there is none. -/
theorem State.derivative_residual (s : State) (a : Symbol) (ha : a ≠ .line .comment) :
    derivative s.residual a = (s.after? a).elim 0 fun t => t.residual.matches' := by
  cases s with
  | backgroundMultiline | scenarioMultiline | outlineMultiline | ended =>
    cases a with
    | block => rfl
    | line c => cases c <;> rfl
  | _ =>
    simp only [State.residual, derivative_document, derivative_description_mul, derivative_steps_mul,
      derivative_attachment_mul, derivative_lines_mul, derivative_table_mul, derivative_afterOutline,
      derivative_body]
    cases a with
    | block =>
      simp only [reduceCtorEq, if_false, if_true, zero_add, add_zero]
      rfl
    | line c =>
      cases c with
      | comment => exact absurd rfl ha
      | _ =>
        simp only [Symbol.line.injEq, reduceCtorEq, if_false, if_true, zero_add, add_zero]
        rfl

/-- What may still follow in a state is a symbol that the state takes, and what may follow in the state
after it. -/
theorem State.cons_mem_residual {s : State} {a : Symbol} {w : List Symbol} (ha : a ≠ .line .comment) :
    a :: w ∈ s.residual.matches' ↔ ∃ t, s.after? a = some t ∧ w ∈ t.residual.matches' := by
  rw [cons_mem_matches', derivative_residual s a ha]
  cases s.after? a with
  | none => simp
  | some t => simp

/-- A document may end in a state just if the state has a row for the end of input. -/
theorem State.nil_mem_residual {s : State} :
    [] ∈ s.residual.matches' ↔ ∃ row ∈ standard.rows s, row.matcher = .endOfInput := by
  rw [← RegularExpression.rmatch_iff_matches', RegularExpression.rmatch]
  cases s <;> decide

end Acceptance.Grammar
