import Mathlib.Data.List.Perm.Basic
import Acceptance.Proofs.Document.Faults
import Acceptance.Proofs.Document.Opening

/-!
# The order of rows

Among the rows of a state that accept a line, the first one counts. In the feature grammar the order hardly
matters: no line is accepted by two patterns of line classes, and no state has two rows for one class. Only the
catch-alls, text and the content of multiline blocks, take lines that others take too. So the rows of a state
can stand in any order in which the catch-alls come last, and every line and the end of input mean the same by
them (`Parser.readBy_reordered`).
-/

set_option autoImplicit false

namespace Acceptance

open Acceptance.Grammar

/-! ## Rows in another order -/

namespace Grammar

/-- Whether a class takes lines that other classes take too. -/
def Matcher.isCatchAll : Matcher → Bool
  | .text | .multilineContent => true
  | _ => false

/-- Rows in another order, in which nothing but catch-alls comes behind a catch-all. -/
structure Reordered (rows others : List Transition) : Prop where
  perm : others.Perm rows
  last : others.Pairwise fun row later => row.matcher.isCatchAll = true → later.matcher.isCatchAll = true

/-- A list in which nothing of a kind stands before anything else is split by that kind. -/
theorem eq_filter_append_filter {α : Type} {p : α → Bool} {l : List α}
    (h : l.Pairwise fun a b => p a = true → p b = true) : l = l.filter (fun a => !p a) ++ l.filter p := by
  induction h with
  | nil => rfl
  | @cons a l hlater _ ih =>
    by_cases ha : p a = true
    · -- behind the first element of the second kind there are no others
      have hnone : l.filter (fun b => !p b) = [] := by
        refine List.filter_eq_nil_iff.mpr fun b hb => ?_
        simp [hlater b hb ha]
      rw [hnone, List.nil_append] at ih
      rw [List.filter_cons_of_neg (by simp [ha]), hnone, List.nil_append, List.filter_cons_of_pos ha, ← ih]
    · rw [List.filter_cons_of_pos (by simpa using ha), List.filter_cons_of_neg ha, List.cons_append, ← ih]

/-- **The rows of a state** are for different classes, the catch-alls apart: for line classes with a pattern
of their own, for the end of input, or for the end of a multiline block, which has no others beside it. -/
theorem matcher_ne_of_rows : ∀ s : State, ∀ row ∈ standard.rows s, ∀ other ∈ standard.rows s,
    row.matcher.isCatchAll = false → other.matcher.isCatchAll = false → row ≠ other →
      row.matcher ≠ other.matcher ∧ (row.matcher.lineClass?.isSome = true ∨ row.matcher = .endOfInput) ∧
        (other.matcher.lineClass?.isSome = true ∨ other.matcher = .endOfInput) := by
  intro s
  cases s <;> decide

/-- A state has one row at most that takes whatever is left. -/
theorem catchAlls_eq : ∀ s : State,
    ((standard.rows s).filter fun row => row.matcher.isCatchAll) = [] ∨
      ∃ row ∈ standard.rows s, ((standard.rows s).filter fun row => row.matcher.isCatchAll) = [row] := by
  intro s
  cases s <;> decide

/-- The catch-alls of a state stand behind its other rows. -/
theorem reordered_rows : ∀ s : State, Reordered (standard.rows s) (standard.rows s) := by
  intro s
  refine ⟨.refl _, ?_⟩
  cases s <;> decide

end Grammar

namespace Parser

variable {p : Parser} {line : Option String} {rows others : List Transition} {row other : Transition}
  {parts parts' : List String}

/-- A row takes a line with one list of parts. -/
theorem Accepts.parts_eq (h : p.Accepts row parts line) (h' : p.Accepts row parts' line) : parts = parts' := by
  cases line with
  | none => rw [h.2, h'.2]
  | some text => exact Option.some.inj (Except.ok.inj (Eq.trans (Eq.symm h) h'))

/-- Where no row is found, none of them takes the line. -/
theorem not_accepts_of_firstRow (h : p.firstRow line rows = .ok none) (hrow : row ∈ rows) :
    ¬ p.Accepts row parts line := by
  intro haccepts
  cases line with
  | none =>
    rw [firstRow_none, Except.ok.injEq, Option.map_eq_none_iff] at h
    exact absurd (decide_eq_true haccepts.1) (List.find?_eq_none.mp h row hrow)
  | some text =>
    have hparts : p.partsOf row.matcher text = .ok (some parts) := haccepts
    rw [partsOf_of_firstRow h row hrow] at hparts
    cases hparts

/-- Rows without content of multiline blocks are no fault by themselves. -/
theorem exists_firstRow (hcontent : ∀ row ∈ rows, row.matcher ≠ .multilineContent) :
    ∃ found, p.firstRow line rows = .ok found := by
  cases hfirst : p.firstRow line rows with
  | ok found => exact ⟨found, rfl⟩
  | error fault =>
    obtain ⟨text, -, row, hrow, hfault⟩ := exists_row_of_firstRow hfirst
    exact absurd (dedent_of_partsOf hfault).1 (hcontent row hrow)

/-- A row is sought among the first ones, and then among the others. -/
theorem firstRow_append (front back : List Transition) :
    p.firstRow line (front ++ back) =
      match p.firstRow line front with
      | .ok none => p.firstRow line back
      | found => found := by
  induction front with
  | nil => rfl
  | cons row front ih =>
    rw [List.cons_append]
    cases line with
    | none =>
      rw [firstRow, firstRow]
      by_cases hend : row.matcher = .endOfInput
      · rw [if_pos hend, if_pos hend]
      · rw [if_neg hend, if_neg hend]
        exact ih
    | some text =>
      rw [firstRow, firstRow]
      cases p.partsOf row.matcher text with
      | error fault => rfl
      | ok found =>
        cases found with
        | some parts => rfl
        | none => exact ih

/-- **Where one row at most accepts a line, the order does not matter.** -/
theorem firstRow_perm (hperm : others.Perm rows)
    (hcontent : ∀ row ∈ rows, row.matcher ≠ .multilineContent)
    (hone : ∀ row ∈ rows, ∀ other ∈ rows, ∀ parts parts', p.Accepts row parts line →
      p.Accepts other parts' line → row = other) :
    p.firstRow line others = p.firstRow line rows := by
  obtain ⟨found, hfound⟩ : ∃ found, p.firstRow line rows = .ok found := exists_firstRow hcontent
  obtain ⟨found', hfound'⟩ : ∃ found, p.firstRow line others = .ok found :=
    exists_firstRow fun row hrow => hcontent row (hperm.mem_iff.mp hrow)
  rw [hfound, hfound', Except.ok.injEq]
  match found, found' with
  | none, none => rfl
  | some (row, parts), none =>
    obtain ⟨hrow, haccepts⟩ := mem_and_accepts_of_firstRow hfound
    exact absurd haccepts (not_accepts_of_firstRow hfound' (hperm.mem_iff.mpr hrow))
  | none, some (row, parts) =>
    obtain ⟨hrow, haccepts⟩ := mem_and_accepts_of_firstRow hfound'
    exact absurd haccepts (not_accepts_of_firstRow hfound (hperm.mem_iff.mp hrow))
  | some (row, parts), some (other, parts') =>
    obtain ⟨hrow, haccepts⟩ := mem_and_accepts_of_firstRow hfound
    obtain ⟨hother, haccepts'⟩ := mem_and_accepts_of_firstRow hfound'
    obtain rfl := hone row hrow other (hperm.mem_iff.mp hother) parts parts' haccepts haccepts'
    rw [haccepts.parts_eq haccepts']

/-! ## Classes that exclude each other -/

/-- A line that a class with a pattern accepts is of that class. -/
theorem ofLine_of_partsOf {line : String} {m : Matcher} {c : LineClass}
    (h : p.partsOf m line = .ok (some parts)) (hclass : m.lineClass? = some c) : LineClass.ofLine line = c := by
  have haccepts : p.Accepts ⟨m, [], .start⟩ parts (some line) := h
  exact ofLine_of_accepts haccepts hclass

/-- A line that two classes with patterns accept is accepted by one class. -/
theorem matcher_eq_of_partsOf {line : String} {m m' : Matcher} (hclass : m.lineClass?.isSome = true)
    (hclass' : m'.lineClass?.isSome = true) (h : p.partsOf m line = .ok (some parts))
    (h' : p.partsOf m' line = .ok (some parts')) : m = m' := by
  obtain ⟨c, hc⟩ := Option.isSome_iff_exists.mp hclass
  obtain ⟨c', hc'⟩ := Option.isSome_iff_exists.mp hclass'
  have hline : LineClass.ofLine line = c := ofLine_of_partsOf h hc
  have hline' : LineClass.ofLine line = c' := ofLine_of_partsOf h' hc'
  exact m.eq_of_lineClass? m' hclass (by rw [hc, hc', ← hline, ← hline'])

/-- A row takes the lines that it accepts from behind rows of other classes with patterns. -/
theorem firstRow_of_partsOf {line : String} {before after : List Transition}
    (hbefore : ∀ other ∈ before, other.matcher.lineClass?.isSome = true ∧ other.matcher ≠ row.matcher)
    (hclass : row.matcher.lineClass?.isSome = true) (h : p.partsOf row.matcher line = .ok (some parts)) :
    p.firstRow (some line) (before ++ row :: after) = .ok (some (row, parts)) := by
  have hcontent : ∀ other ∈ before, other.matcher ≠ .multilineContent := by
    intro other hother heq
    have hother' := (hbefore other hother).1
    rw [heq] at hother'
    cases hother'
  obtain ⟨found, hfound⟩ : ∃ found, p.firstRow (some line) before = .ok found := exists_firstRow hcontent
  have hnone : found = none := by
    match found with
    | none => rfl
    | some (other, parts') =>
      obtain ⟨hother, haccepts⟩ := mem_and_accepts_of_firstRow hfound
      obtain ⟨hpattern, hne⟩ := hbefore other hother
      exact absurd (matcher_eq_of_partsOf hpattern hclass haccepts h) hne
  rw [firstRow_append, hfound, hnone]
  dsimp only
  rw [firstRow, h]

/-- No class with a pattern accepts a line of blanks. -/
theorem partsOf_ne_of_blank {line : String} {m : Matcher} (hclass : m.lineClass?.isSome = true)
    (hblank : Text.isBlankText line = true) : p.partsOf m line ≠ .ok (some parts) := by
  intro h
  obtain ⟨c, hc⟩ := Option.isSome_iff_exists.mp hclass
  have hline : LineClass.ofLine line = c := ofLine_of_partsOf h hc
  rw [← hline, LineClass.ofLine_eq_blank.mpr hblank] at hc
  exact m.lineClass?_ne.1 hc

/-- **No two rows of a state accept the same line**, the catch-alls apart. -/
theorem eq_of_accepts (hrow : row ∈ standard.rows p.state) (hother : other ∈ standard.rows p.state)
    (hcatches : row.matcher.isCatchAll = false) (hcatches' : other.matcher.isCatchAll = false)
    (h : p.Accepts row parts line) (h' : p.Accepts other parts' line) : row = other := by
  by_contra hne
  obtain ⟨hmatcher, hclass, hclass'⟩ := matcher_ne_of_rows p.state row hrow other hother hcatches hcatches' hne
  cases line with
  | none => exact hmatcher (h.1.trans h'.1.symm)
  | some text =>
    have hends {m : Matcher} {parts : List String} (hm : m = .endOfInput) :
        p.partsOf m text ≠ .ok (some parts) := by
      rw [hm]
      exact nofun
    have hpattern := hclass.resolve_right fun hm => hends hm h
    have hpattern' := hclass'.resolve_right fun hm => hends hm h'
    exact hmatcher (matcher_eq_of_partsOf hpattern hpattern' h h')

/-- **The rows of a state in any order** find the same, as long as the catch-alls come last. -/
theorem firstRow_reordered (h : Reordered (standard.rows p.state) others) (line : Option String) :
    p.firstRow line others = p.firstRow line (standard.rows p.state) := by
  have hothers := eq_filter_append_filter (p := fun row : Transition => row.matcher.isCatchAll) h.last
  have hrows := eq_filter_append_filter (p := fun row : Transition => row.matcher.isCatchAll)
    (reordered_rows p.state).last
  have hmem {row : Transition}
      (hrow : row ∈ (standard.rows p.state).filter fun row => !row.matcher.isCatchAll) :
      row ∈ standard.rows p.state ∧ row.matcher.isCatchAll = false := by
    simpa using List.mem_filter.mp hrow
  -- a permutation of one row at most is no other list
  have hlast : others.filter (fun row => row.matcher.isCatchAll) =
      (standard.rows p.state).filter fun row => row.matcher.isCatchAll := by
    have hperm := h.perm.filter fun row => row.matcher.isCatchAll
    rcases catchAlls_eq p.state with hnone | ⟨row, -, hone⟩
    · rw [hnone] at hperm ⊢
      exact hperm.eq_nil
    · rw [hone] at hperm ⊢
      exact hperm.eq_singleton
  have hfirst : p.firstRow line (others.filter fun row => !row.matcher.isCatchAll) =
      p.firstRow line ((standard.rows p.state).filter fun row => !row.matcher.isCatchAll) := by
    refine firstRow_perm (h.perm.filter _) ?_ ?_
    · intro row hrow hcontent
      have hcatches := (hmem hrow).2
      rw [hcontent] at hcatches
      cases hcatches
    · intro row hrow other hother parts parts'
      exact eq_of_accepts (hmem hrow).1 (hmem hother).1 (hmem hrow).2 (hmem hother).2
  rw [hothers, hrows, firstRow_append, firstRow_append, hfirst, hlast]

end Parser

/-! ## What a line means by other rows -/

/-- What a line means, or the end of input, by the given rows. -/
def Parser.readBy (p : Parser) (rows : List Transition) (line : Option String) : Reading :=
  match p.firstRow line rows with
  | .error fault => .fault fault
  | .ok (some (row, parts)) => .fires row parts
  | .ok none =>
    match line with
    | some text =>
      if Text.isBlankText text then .blank text
      else .fault (.unexpectedLine p.lineNumber p.state text (rows.map (·.matcher)))
    | none => .fault (.unexpectedEnd p.state (rows.map (·.matcher)))

/-- The rows of its state are those by which a parser reads. -/
theorem Parser.readBy_rows (p : Parser) (line : Option String) :
    p.readBy (standard.rows p.state) line = p.read line :=
  rfl

/-- The same reading, but for the order in which a fault names the classes that were expected. -/
inductive Reading.Reordered : Reading → Reading → Prop where
  | same (reading : Reading) : Reordered reading reading
  | unexpectedLine (number : Nat) (state : State) (line : String) {expected expected' : List Matcher} :
      expected'.Perm expected →
      Reordered (.fault (.unexpectedLine number state line expected))
        (.fault (.unexpectedLine number state line expected'))
  | unexpectedEnd (state : State) {expected expected' : List Matcher} :
      expected'.Perm expected →
      Reordered (.fault (.unexpectedEnd state expected)) (.fault (.unexpectedEnd state expected'))

namespace Parser

/-- Reading by rows in another order differs at most in the order of what was expected. -/
theorem reordered_readBy {p : Parser} {others : List Transition}
    (h : Reordered (standard.rows p.state) others) (line : Option String) :
    (p.read line).Reordered (p.readBy others line) := by
  have hexpected : (others.map (·.matcher)).Perm ((standard.rows p.state).map (·.matcher)) :=
    h.perm.map (·.matcher)
  rw [← readBy_rows]
  unfold readBy
  rw [firstRow_reordered h line]
  match p.firstRow line (standard.rows p.state) with
  | .error fault => exact .same _
  | .ok (some (row, parts)) => exact .same _
  | .ok none =>
    cases line with
    | none => exact .unexpectedEnd _ hexpected
    | some text =>
      dsimp only
      split
      · exact .same _
      · exact .unexpectedLine _ _ _ hexpected

/-- **The order of rows does not matter**, as long as the catch-alls come last. The classes with a pattern of
their own exclude each other, none of them takes a line of blanks, and no line is taken for the end of input.
So by the rows of its state in another order a parser reads every line and the end of input as it does: the
same row fires on the same parts, or the line is blank, or it is the same fault. -/
theorem readBy_reordered (p : Parser) :
    (∀ (line : String) (m m' : Matcher) (parts parts' : List String), m.lineClass?.isSome = true →
        m'.lineClass?.isSome = true → p.partsOf m line = .ok (some parts) →
        p.partsOf m' line = .ok (some parts') → m = m') ∧
      (∀ (line : String) (m : Matcher) (parts : List String), m.lineClass?.isSome = true →
        Text.isBlankText line = true → p.partsOf m line ≠ .ok (some parts)) ∧
      (∀ line : String, p.partsOf .endOfInput line = .ok none) ∧
      ∀ (others : List Transition) (line : Option String), Reordered (standard.rows p.state) others →
        (p.read line).Reordered (p.readBy others line) :=
  ⟨fun _ _ _ _ _ => matcher_eq_of_partsOf, fun _ _ _ => partsOf_ne_of_blank, fun _ => rfl,
    fun _ line h => reordered_readBy h line⟩

/-- The rows behind a feature header from the last to the first, but for text, and a line that both scenarios
and outlines could be thought to take. -/
theorem readBy_reordered_header :
    let p : Parser := { state := .feature }
    let others := (standard.rows .feature).dropLast.reverse ++ [⟨.text, [.startDescription, .data], .description⟩]
    let line := "  Scenario Outline: o"
    Reordered (standard.rows .feature) others ∧ others ≠ standard.rows .feature ∧
      p.read (some line) = .fires ⟨.outline, [.startOutline], .outline⟩ ["o"] ∧
      p.readBy others (some line) = .fires ⟨.outline, [.startOutline], .outline⟩ ["o"] ∧
      (p.read none).Reordered (p.readBy others none) := by
  intro p others line
  have hreordered : Reordered (standard.rows .feature) others := ⟨by decide, by decide⟩
  have hread : p.read (some line) = .fires ⟨.outline, [.startOutline], .outline⟩ ["o"] := by decide +kernel
  obtain ⟨-, -, -, horder⟩ := readBy_reordered p
  have hline := horder others (some line) hreordered
  rw [hread] at hline
  refine ⟨hreordered, by decide, hread, ?_, horder others none hreordered⟩
  generalize p.readBy others (some line) = reading at hline ⊢
  cases hline
  rfl

end Parser

end Acceptance
