import Mathlib.Data.List.Basic
import Acceptance.Pattern.Search

/-!
# The matching machine

The machine keeps many threads and reads the text once. What it finds is what one thread would find that
tries the ways of each fork in order of preference, and starts again at the next character where it has come to
nothing (`run_eq`). That is shown for programs that only lead forward, which are those of expressions without
repetitions.

A thread is dropped where its instruction has been met at the same place of the text. That loses nothing: what
an instruction leads to does not depend on how it was entered, and on programs that lead forward all that it
leads to still stands in front of the thread that is dropped (`Promises`).
-/

set_option autoImplicit false

namespace Acceptance.Pattern

variable {program : Array Instruction}

/-! ## One thread -/

/-- Whether an instruction at a number leads to later numbers only. -/
def Instruction.LeadsBeyond (at_ : Nat) : Instruction → Prop
  | take _ next | jump next | mark _ next | check _ next => at_ < next
  | fork first second => at_ < first ∧ at_ < second
  | accept => True

/-- Whether every instruction of a program leads to later ones only. -/
def IsForward (program : Array Instruction) : Prop :=
  ∀ (at_ : Nat) (instruction : Instruction),
    program[at_]? = some instruction → instruction.LeadsBeyond at_

/-- A position in a text: the character before it, its offset, and the text from there on. -/
structure Position where
  before : Option Char
  offset : Nat
  text : List Char

/-- The neighbours of a position. -/
def Position.place (p : Position) : Place :=
  ⟨p.before, p.text.head?⟩

/-- What a thread comes to that goes on alone and tries the preferred way of every fork first: what it has
noted where it accepts, and nothing where no way is left. Ways that lead back are not taken. -/
def outcome (program : Array Instruction) (p : Position) (t : Thread) : Option Marks :=
  match _hat : program[t.at_]? with
  | some (.take set next) =>
    match p.text with
    | [] => none
    | c :: rest =>
      if set.contains c ∧ t.at_ < next then outcome program ⟨some c, p.offset + 1, rest⟩ ⟨next, t.marks⟩
      else none
  | some (.fork first second) =>
    (if t.at_ < first then outcome program p ⟨first, t.marks⟩ else none).or
      (if t.at_ < second then outcome program p ⟨second, t.marks⟩ else none)
  | some (.jump next) => if t.at_ < next then outcome program p ⟨next, t.marks⟩ else none
  | some (.mark slot next) =>
    if t.at_ < next then outcome program p ⟨next, (slot, p.offset) :: t.marks⟩ else none
  | some (.check anchor next) =>
    if anchor.holds p.place ∧ t.at_ < next then outcome program p ⟨next, t.marks⟩ else none
  | some .accept => some t.marks
  | none => none
termination_by program.size - t.at_
decreasing_by
  all_goals
    have hlt : t.at_ < program.size := (Array.getElem?_eq_some_iff.mp _hat).1
    simp_wf
    omega

section Outcome

variable {p : Position} {t : Thread} (hforward : IsForward program)

include hforward

/-- A character of the set is read. -/
theorem outcome_of_take {set : CharSet} {next : Nat} (hat : program[t.at_]? = some (.take set next)) :
    outcome program p t =
      match p.text with
      | [] => none
      | c :: rest =>
        if set.contains c then outcome program ⟨some c, p.offset + 1, rest⟩ ⟨next, t.marks⟩ else none := by
  have hlt : t.at_ < next := hforward _ _ hat
  rw [outcome]
  split <;> simp_all

/-- The preferred way of a fork is tried first. -/
theorem outcome_of_fork {first second : Nat} (hat : program[t.at_]? = some (.fork first second)) :
    outcome program p t =
      (outcome program p ⟨first, t.marks⟩).or (outcome program p ⟨second, t.marks⟩) := by
  obtain ⟨hfirst, hsecond⟩ : t.at_ < first ∧ t.at_ < second := hforward _ _ hat
  rw [outcome]
  split <;> simp_all

/-- A jump changes nothing else. -/
theorem outcome_of_jump {next : Nat} (hat : program[t.at_]? = some (.jump next)) :
    outcome program p t = outcome program p ⟨next, t.marks⟩ := by
  have hlt : t.at_ < next := hforward _ _ hat
  rw [outcome]
  split <;> simp_all

/-- A mark notes the offset. -/
theorem outcome_of_mark {slot next : Nat} (hat : program[t.at_]? = some (.mark slot next)) :
    outcome program p t = outcome program p ⟨next, (slot, p.offset) :: t.marks⟩ := by
  have hlt : t.at_ < next := hforward _ _ hat
  rw [outcome]
  split <;> simp_all

/-- A condition holds, or this way is at its end. -/
theorem outcome_of_check {anchor : Anchor} {next : Nat}
    (hat : program[t.at_]? = some (.check anchor next)) :
    outcome program p t = if anchor.holds p.place then outcome program p ⟨next, t.marks⟩ else none := by
  have hlt : t.at_ < next := hforward _ _ hat
  rw [outcome]
  split <;> simp_all

omit hforward

/-- What accepts comes to its notes. -/
theorem outcome_of_accept (hat : program[t.at_]? = some .accept) : outcome program p t = some t.marks := by
  rw [outcome]
  split <;> simp_all

/-- Beyond the program there is nothing. -/
theorem outcome_of_none (hat : program[t.at_]? = none) : outcome program p t = none := by
  rw [outcome]
  split <;> simp_all

end Outcome

/-- What a thread has noted before stands behind all that it notes. -/
theorem outcome_eq_map (p : Position) (t : Thread) :
    outcome program p t = (outcome program p ⟨t.at_, []⟩).map (· ++ t.marks) := by
  -- on the number of instructions from the one of the thread on
  induction hleft : program.size - t.at_ using Nat.strongRecOn generalizing p t with
  | _ n ih =>
    rw [outcome, outcome]
    cases hat : program[t.at_]? with
    | none => rfl
    | some instruction =>
      have hsome : t.at_ < program.size := (Array.getElem?_eq_some_iff.mp hat).1
      have hnext (p : Position) (next : Nat) (marks : Marks) (hlt : t.at_ < next) :
          outcome program p ⟨next, marks⟩ = (outcome program p ⟨next, []⟩).map (· ++ marks) :=
        ih (program.size - next) (by omega) p ⟨next, marks⟩ rfl
      have hway (next : Nat) : (if t.at_ < next then outcome program p ⟨next, t.marks⟩ else none) =
          (if t.at_ < next then outcome program p ⟨next, []⟩ else none).map (· ++ t.marks) := by
        split
        · next hlt => exact hnext p next t.marks hlt
        · rfl
      cases instruction with
      | take set next =>
        cases htext : p.text with
        | nil => rfl
        | cons c rest =>
          dsimp only
          split
          · next h => exact hnext _ next t.marks h.2
          · rfl
      | fork first second =>
        dsimp only
        rw [hway first, hway second, Option.map_or]
      | jump next => exact hway next
      | mark slot next =>
        dsimp only
        split
        · next hlt =>
          rw [hnext p next _ hlt, hnext p next [(slot, p.offset)] hlt, Option.map_map]
          congr 1
          funext marks
          simp
        · rfl
      | check anchor next =>
        dsimp only
        split
        · next h => exact hnext p next t.marks h.2
        · rfl
      | accept => rfl

/-- Whether a thread comes to acceptance depends on its instruction alone. -/
theorem isSome_outcome (p : Position) (t : Thread) :
    (outcome program p t).isSome = (outcome program p ⟨t.at_, []⟩).isSome := by
  rw [outcome_eq_map, Option.isSome_map]

/-- Whether a thread stands at an instruction that reads a character or accepts. -/
def Thread.Waits (program : Array Instruction) (t : Thread) : Prop :=
  (∃ set next, program[t.at_]? = some (.take set next)) ∨ program[t.at_]? = some .accept

/-- The threads that an instruction leads to that reads nothing, the preferred one first. -/
def Thread.onward (program : Array Instruction) (p : Position) (t : Thread) : List Thread :=
  match program[t.at_]? with
  | some (.fork first second) => [⟨first, t.marks⟩, ⟨second, t.marks⟩]
  | some (.jump next) => [⟨next, t.marks⟩]
  | some (.mark slot next) => [⟨next, (slot, p.offset) :: t.marks⟩]
  | some (.check anchor next) => if anchor.holds p.place then [⟨next, t.marks⟩] else []
  | _ => []

/-- What the first of some threads comes to that accepts. -/
def best (program : Array Instruction) (p : Position) (threads : List Thread) : Option Marks :=
  threads.findSome? (outcome program p)

section Best

variable {p : Position} {t : Thread} {first second : List Thread}

/-- No thread has no match. -/
@[simp] theorem best_nil : best program p [] = none :=
  rfl

/-- The first thread is preferred. -/
theorem best_cons : best program p (t :: first) = (outcome program p t).or (best program p first) := by
  unfold best
  rw [List.findSome?_cons]
  cases outcome program p t <;> rfl

/-- Threads in front are preferred. -/
theorem best_append :
    best program p (first ++ second) = (best program p first).or (best program p second) :=
  List.findSome?_append

/-- A thread that does not wait comes to what the threads come to that it leads to. -/
theorem best_onward (hforward : IsForward program) (hwaits : ¬ t.Waits program) :
    best program p (t.onward program p) = outcome program p t := by
  rw [Thread.onward]
  cases hat : program[t.at_]? with
  | none => rw [outcome_of_none hat, best_nil]
  | some instruction =>
    cases instruction with
    | take set next => exact absurd (.inl ⟨set, next, hat⟩) hwaits
    | fork one other => rw [outcome_of_fork hforward hat, best_cons, best_cons, best_nil, Option.or_none]
    | jump next => rw [outcome_of_jump hforward hat, best_cons, best_nil, Option.or_none]
    | mark slot next => rw [outcome_of_mark hforward hat, best_cons, best_nil, Option.or_none]
    | check anchor next =>
      rw [outcome_of_check hforward hat]
      dsimp only
      split
      · rw [best_cons, best_nil, Option.or_none]
      · rw [best_nil]
    | accept => exact absurd (.inr hat) hwaits

/-- An instruction leads to later ones only. -/
theorem lt_of_mem_onward (hforward : IsForward program) {next : Thread}
    (h : next ∈ t.onward program p) : t.at_ < next.at_ := by
  rw [Thread.onward] at h
  cases hat : program[t.at_]? with
  | none => simp [hat] at h
  | some instruction =>
    have hbeyond := hforward _ _ hat
    rw [hat] at h
    cases instruction with
    | take set target => simp at h
    | fork one other =>
      rcases List.mem_pair.mp h with rfl | rfl
      · exact hbeyond.1
      · exact hbeyond.2
    | jump target =>
      obtain rfl := List.mem_singleton.mp h
      exact hbeyond
    | mark slot target =>
      obtain rfl := List.mem_singleton.mp h
      exact hbeyond
    | check anchor target =>
      dsimp only at h
      split at h
      · obtain rfl := List.mem_singleton.mp h
        exact hbeyond
      · cases h
    | accept => simp at h

/-- An instruction leads two ways at most. -/
theorem length_onward_le : (t.onward program p).length ≤ 2 := by
  rw [Thread.onward]
  split <;> try split
  all_goals simp

end Best

/-! ## Following the instructions that read nothing -/

section Follow

variable {p : Position} {t : Thread} {stack : List Thread} {frontier : Frontier} {fuel : Nat}

/-- The frontier with an instruction met. -/
def Frontier.meet (frontier : Frontier) (t : Thread) : Frontier :=
  { frontier with met := frontier.met.setIfInBounds t.at_ true }

/-- A thread is dropped whose instruction has been met. -/
theorem follow_of_met (h : frontier.met.getD t.at_ true = true) :
    follow program p.place p.offset (fuel + 1) (t :: stack) frontier =
      follow program p.place p.offset fuel stack frontier := by
  rw [follow, if_pos h]

/-- A thread that waits is kept. -/
theorem follow_of_waits (h : frontier.met.getD t.at_ true ≠ true) (hwaits : t.Waits program) :
    follow program p.place p.offset (fuel + 1) (t :: stack) frontier =
      follow program p.place p.offset fuel stack
        { frontier.meet t with waiting := t :: frontier.waiting } := by
  rw [follow, if_neg h]
  rcases hwaits with ⟨set, next, hat⟩ | hat
  · simp only [hat]
    rfl
  · simp only [hat]
    rfl

/-- Any other thread gives way to those that it leads to. -/
theorem follow_of_not_waits (h : frontier.met.getD t.at_ true ≠ true) (hwaits : ¬ t.Waits program) :
    follow program p.place p.offset (fuel + 1) (t :: stack) frontier =
      follow program p.place p.offset fuel (t.onward program p ++ stack) (frontier.meet t) := by
  rw [follow, if_neg h, Thread.onward]
  cases hat : program[t.at_]? with
  | none => rfl
  | some instruction =>
    cases instruction with
    | take set next => exact absurd (.inl ⟨set, next, hat⟩) hwaits
    | fork one other => rfl
    | jump next => rfl
    | mark slot next => rfl
    | check anchor next =>
      dsimp only
      split <;> rfl
    | accept => exact absurd (.inr hat) hwaits

/-- All threads that are kept wait. -/
theorem waits_of_mem_follow (h : ∀ t ∈ frontier.waiting, t.Waits program) :
    ∀ t ∈ (follow program p.place p.offset fuel stack frontier).waiting, t.Waits program := by
  induction fuel generalizing stack frontier with
  | zero => exact h
  | succ fuel ih =>
    cases stack with
    | nil => exact h
    | cons t stack =>
      by_cases hmet : frontier.met.getD t.at_ true = true
      · rw [follow_of_met hmet]
        exact ih h
      · by_cases hwaits : t.Waits program
        · rw [follow_of_waits hmet hwaits]
          exact ih (List.forall_mem_cons.mpr ⟨hwaits, h⟩)
        · rw [follow_of_not_waits hmet hwaits]
          exact ih h

/-- The threads of a stack that stand at later instructions, up to the first that does not, lead to acceptance
only where the first thread is one of them, and then it does or those behind it do. -/
theorem lt_and_of_takeWhile_cons {at_ : Nat}
    (h : (best program p ((t :: stack).takeWhile fun t => at_ < t.at_)).isSome) :
    at_ < t.at_ ∧ ((outcome program p t).isSome ∨
      (best program p (stack.takeWhile fun t => at_ < t.at_)).isSome) := by
  by_cases hlt : at_ < t.at_
  · rw [List.takeWhile_cons_of_pos (by simpa using hlt), best_cons, Option.isSome_or, Bool.or_eq_true] at h
    exact ⟨hlt, h⟩
  · rw [List.takeWhile_cons_of_neg (by simpa using hlt)] at h
    cases h

/-- An instruction that was met and leads to acceptance has led to a thread that waits and does, or will
lead to one: the threads that it has left on the stack stand at later instructions, in front of all that
do not. -/
def Promises (program : Array Instruction) (p : Position) (met : Array Bool) (waiting stack : List Thread) :
    Prop :=
  ∀ at_ : Nat, met[at_]? = some true → (outcome program p ⟨at_, []⟩).isSome →
    (best program p waiting.reverse).isSome ∨
      (best program p (stack.takeWhile fun t => at_ < t.at_)).isSome

namespace Promises

variable {met : Array Bool} {waiting : List Thread}

/-- A thread whose instruction has been met adds nothing to those that wait. -/
theorem isSome_waiting (h : Promises program p met waiting (t :: stack)) (hmet : met[t.at_]? = some true)
    (ht : (outcome program p t).isSome) : (best program p waiting.reverse).isSome := by
  rcases h t.at_ hmet (isSome_outcome p t ▸ ht) with hwaiting | hstack
  · exact hwaiting
  · exact absurd (lt_and_of_takeWhile_cons hstack).1 (Nat.lt_irrefl _)

/-- Dropping a thread whose instruction has been met keeps the promises. -/
theorem drop (h : Promises program p met waiting (t :: stack))
    (ht : (outcome program p t).isSome → (best program p waiting.reverse).isSome) :
    Promises program p met waiting stack := by
  intro at_ hmet hsome
  rcases h at_ hmet hsome with hwaiting | hstack
  · exact .inl hwaiting
  · exact (lt_and_of_takeWhile_cons hstack).2.imp_left ht

/-- Putting threads at later instructions in the place of one that comes to the same keeps the promises, and
makes one for its instruction. -/
theorem push (h : Promises program p met waiting (t :: stack)) {next : List Thread}
    (hnext : ∀ other ∈ next, t.at_ < other.at_) (hbest : best program p next = outcome program p t) :
    Promises program p (met.setIfInBounds t.at_ true) waiting (next ++ stack) := by
  have hall (at_ : Nat) (hle : at_ ≤ t.at_) : (next ++ stack).takeWhile (fun t => at_ < t.at_) =
      next ++ stack.takeWhile fun t => at_ < t.at_ := by
    rw [List.takeWhile_append_of_pos]
    intro other hother
    have := hnext other hother
    simp
    omega
  intro at_ hmet hsome
  by_cases hsame : at_ = t.at_
  · subst hsame
    rw [hall _ (Nat.le_refl _), best_append, hbest, Option.isSome_or, isSome_outcome, hsome]
    exact .inr rfl
  · rw [Array.getElem?_setIfInBounds_ne (Ne.symm hsame)] at hmet
    rcases h at_ hmet hsome with hwaiting | hstack
    · exact .inl hwaiting
    · obtain ⟨hlt, hstack⟩ := lt_and_of_takeWhile_cons hstack
      rw [hall _ (Nat.le_of_lt hlt), best_append, hbest, Option.isSome_or, Bool.or_eq_true]
      exact .inr hstack

/-- A thread that waits keeps the promises. -/
theorem keep (h : Promises program p met waiting (t :: stack)) :
    Promises program p (met.setIfInBounds t.at_ true) (t :: waiting) stack := by
  have hreverse : best program p (t :: waiting).reverse =
      (best program p waiting.reverse).or (outcome program p t) := by
    rw [List.reverse_cons, best_append, best_cons, best_nil, Option.or_none]
  intro at_ hmet hsome
  rw [hreverse, Option.isSome_or]
  by_cases hsame : at_ = t.at_
  · subst hsame
    rw [isSome_outcome p t, hsome, Bool.or_true]
    exact .inl rfl
  · rw [Array.getElem?_setIfInBounds_ne (Ne.symm hsame)] at hmet
    rcases h at_ hmet hsome with hwaiting | hstack
    · exact .inl (by rw [hwaiting, Bool.true_or])
    · obtain ⟨-, ht | hstack⟩ := lt_and_of_takeWhile_cons hstack
      · exact .inl (by rw [ht, Bool.or_true])
      · exact .inr hstack

end Promises

/-- A thread that is dropped adds nothing to those that wait: its instruction has been met, or there is
none. -/
theorem Promises.isSome_of_met (h : Promises program p frontier.met frontier.waiting (t :: stack))
    (hsize : frontier.met.size = program.size) (hmet : frontier.met.getD t.at_ true = true)
    (ht : (outcome program p t).isSome) : (best program p frontier.waiting.reverse).isSome := by
  by_cases hlt : t.at_ < program.size
  · refine h.isSome_waiting ?_ ht
    rw [← hsize] at hlt
    rw [Array.getElem?_eq_getElem hlt]
    simpa [Array.getD, hlt] using hmet
  · rw [outcome_of_none (Array.getElem?_eq_none (by omega))] at ht
    cases ht

/-- An instruction that is met is one less that is not. -/
theorem count_meet (h : frontier.met.getD t.at_ true ≠ true) :
    (frontier.meet t).met.count false + 1 = frontier.met.count false := by
  have hlt : t.at_ < frontier.met.size := by
    by_contra hlt
    simp [Array.getD, hlt] at h
  have hfalse : frontier.met[t.at_] = false := by simpa [Array.getD, hlt] using h
  have hpos : 0 < frontier.met.count false := by
    rw [Array.count_pos_iff, ← hfalse]
    exact Array.getElem_mem hlt
  unfold Frontier.meet
  dsimp only
  rw [Array.setIfInBounds_def, dif_pos hlt, Array.count_set, hfalse]
  simp
  omega

/-- **Following loses nothing**: the best of the threads that are kept is the best of all threads followed. -/
theorem best_follow (hforward : IsForward program) (hsize : frontier.met.size = program.size)
    (hfuel : stack.length + 2 * frontier.met.count false ≤ fuel)
    (h : Promises program p frontier.met frontier.waiting stack) :
    best program p (follow program p.place p.offset fuel stack frontier).waiting.reverse =
      (best program p frontier.waiting.reverse).or (best program p stack) := by
  induction fuel generalizing stack frontier with
  | zero =>
    obtain rfl : stack = [] := List.eq_nil_of_length_eq_zero (by omega)
    rw [follow, best_nil, Option.or_none]
  | succ fuel ih =>
    cases stack with
    | nil =>
      rw [best_nil, Option.or_none]
      rfl
    | cons t stack =>
      rw [List.length_cons] at hfuel
      by_cases hmet : frontier.met.getD t.at_ true = true
      · have ht := h.isSome_of_met hsize hmet
        rw [follow_of_met hmet, ih hsize (by omega) (h.drop ht), best_cons]
        cases hwaiting : best program p frontier.waiting.reverse with
        | some marks => rfl
        | none =>
          rw [hwaiting] at ht
          rw [Option.not_isSome_iff_eq_none.mp fun hsome => absurd (ht hsome) nofun]
          rfl
      · have hcount := count_meet hmet
        have hsize' : (frontier.meet t).met.size = program.size := by simpa [Frontier.meet] using hsize
        by_cases hwaits : t.Waits program
        · have hless : stack.length + 2 * (frontier.meet t).met.count false ≤ fuel := by omega
          let keeping : Frontier := { frontier.meet t with waiting := t :: frontier.waiting }
          have hsizeKept : keeping.met.size = program.size := hsize'
          have hkept := ih hsizeKept hless h.keep
          rw [follow_of_waits hmet hwaits, hkept, best_cons, List.reverse_cons, best_append, best_cons,
            best_nil, Option.or_none, Option.or_assoc]
        · have hnext : ∀ other ∈ t.onward program p, t.at_ < other.at_ := fun other hother =>
            lt_of_mem_onward hforward hother
          have hbest := best_onward (p := p) hforward hwaits
          have hlength : (t.onward program p).length ≤ 2 := length_onward_le
          rw [follow_of_not_waits hmet hwaits,
            ih hsize' (by rw [List.length_append]; omega) (h.push hnext hbest), best_append, hbest,
            best_cons]
          rfl

end Follow

/-- The threads that wait at a position lead to what all threads there lead to. -/
theorem best_waitingAt (hforward : IsForward program) (p : Position) (threads : List Thread) :
    best program p (waitingAt program p.place p.offset threads) = best program p threads := by
  have hnone : Promises program p (Array.replicate program.size false) [] threads := by
    intro at_ hmet
    rw [Array.getElem?_replicate] at hmet
    split at hmet <;> cases hmet
  unfold waitingAt
  dsimp only
  rw [best_follow hforward Array.size_replicate (by simp) hnone]
  rfl

/-- The threads that wait do wait. -/
theorem waits_of_mem_waitingAt (p : Position) (threads : List Thread) :
    ∀ t ∈ waitingAt program p.place p.offset threads, t.Waits program := by
  intro t ht
  exact waits_of_mem_follow (List.forall_mem_nil _) t (List.mem_reverse.mp ht)

/-! ## Reading the text -/

section Advance

variable {t : Thread} {waiting : List Thread}

/-- A thread that accepts ends those behind it. -/
theorem advance_of_accept (hat : program[t.at_]? = some .accept) (c : Option Char) :
    advance program c (t :: waiting) = ([], some t.marks) := by
  simp only [advance, hat]

/-- A thread that can read on goes on, and so do those behind it. -/
theorem advance_of_take {set : CharSet} {next : Nat} (hat : program[t.at_]? = some (.take set next))
    (c : Char) : advance program (some c) (t :: waiting) =
      (if set.contains c then ⟨next, t.marks⟩ :: (advance program (some c) waiting).1
        else (advance program (some c) waiting).1, (advance program (some c) waiting).2) := by
  simp only [advance, hat]

/-- At the end of the text nothing can be read. -/
theorem advance_none_of_take {set : CharSet} {next : Nat}
    (hat : program[t.at_]? = some (.take set next)) :
    advance program none (t :: waiting) = advance program none waiting := by
  simp only [advance, hat]

end Advance

/-- What a thread leads to that can read on is preferred to what accepts behind it. -/
theorem best_advance (hforward : IsForward program) (before : Option Char) (offset : Nat) (c : Char)
    (rest : List Char) {waiting : List Thread} (h : ∀ t ∈ waiting, t.Waits program) :
    best program ⟨before, offset, c :: rest⟩ waiting =
      (best program ⟨some c, offset + 1, rest⟩ (advance program (some c) waiting).1).or
        (advance program (some c) waiting).2 := by
  induction waiting with
  | nil => rfl
  | cons t waiting ih =>
    obtain ⟨hwaits, hrest⟩ := List.forall_mem_cons.mp h
    rw [best_cons, ih hrest]
    rcases hwaits with ⟨set, next, hat⟩ | hat
    · rw [outcome_of_take hforward hat, advance_of_take hat]
      dsimp only
      split
      · rw [best_cons, Option.or_assoc]
      · rw [Option.none_or]
    · rw [outcome_of_accept hat, advance_of_accept hat]
      rfl

/-- At the end of the text the first thread that accepts is the best. -/
theorem best_advance_none (hforward : IsForward program) (before : Option Char) (offset : Nat)
    {waiting : List Thread} (h : ∀ t ∈ waiting, t.Waits program) :
    best program ⟨before, offset, []⟩ waiting = (advance program none waiting).2 := by
  induction waiting with
  | nil => rfl
  | cons t waiting ih =>
    obtain ⟨hwaits, hrest⟩ := List.forall_mem_cons.mp h
    rw [best_cons, ih hrest]
    rcases hwaits with ⟨set, next, hat⟩ | hat
    · rw [outcome_of_take hforward hat, advance_none_of_take hat]
      rfl
    · rw [outcome_of_accept hat, advance_of_accept hat]
      rfl

/-- What a search comes to that starts at a position, and then at each character behind it, until one start
leads to acceptance. -/
def firstFrom (program : Array Instruction) (before : Option Char) (offset : Nat) :
    List Char → Option Marks
  | [] => outcome program ⟨before, offset, []⟩ ⟨0, []⟩
  | c :: rest =>
    (outcome program ⟨before, offset, c :: rest⟩ ⟨0, []⟩).or (firstFrom program (some c) (offset + 1) rest)

/-- The threads at hand, and a new one behind them where nothing has been found. -/
theorem best_started (p : Position) (threads : List Thread) (found : Option Marks) :
    best program p (if found.isSome then threads else threads ++ [⟨0, []⟩]) =
      (best program p threads).or (if found.isSome then none else outcome program p ⟨0, []⟩) := by
  split
  · rw [Option.or_none]
  · rw [best_append, best_cons, best_nil, Option.or_none]

/-- The threads that wait at a position, once a new one has started where nothing has been found. -/
def waitingFrom (program : Array Instruction) (p : Position) (threads : List Thread)
    (found : Option Marks) : List Thread :=
  waitingAt program p.place p.offset (if found.isSome then threads else threads ++ [⟨0, []⟩])

/-- At the end of the text the machine takes what is accepted there, or what has been found before. -/
theorem run_nil (before : Option Char) (offset : Nat) (threads : List Thread) (found : Option Marks) :
    run program before offset threads found [] =
      (advance program none (waitingFrom program ⟨before, offset, []⟩ threads found)).2.or found := by
  rw [run]
  rfl

/-- The machine reads a character, and stops where something has been found and no thread is left. -/
theorem run_cons (before : Option Char) (offset : Nat) (threads : List Thread) (found : Option Marks)
    (c : Char) (rest : List Char) :
    run program before offset threads found (c :: rest) =
      let ahead := advance program (some c)
        (waitingFrom program ⟨before, offset, c :: rest⟩ threads found)
      let found := ahead.2.or found
      if ahead.1.isEmpty && found.isSome then found
      else run program (some c) (offset + 1) ahead.1 found rest := by
  rw [run]
  rfl

/-- **The machine finds what one thread after the other would find**: what the threads at hand come to, or what
has been found before, or what the first start comes to that leads to acceptance. -/
theorem run_eq (hforward : IsForward program) (before : Option Char) (offset : Nat) (threads : List Thread)
    (found : Option Marks) (text : List Char) :
    run program before offset threads found text =
      (best program ⟨before, offset, text⟩ threads).or
        (found.or (firstFrom program before offset text)) := by
  induction text generalizing before offset threads found with
  | nil =>
    have hwaiting := best_waitingAt hforward ⟨before, offset, []⟩
      (if found.isSome then threads else threads ++ [⟨0, []⟩])
    rw [best_started, best_advance_none hforward before offset (waits_of_mem_waitingAt _ _)] at hwaiting
    rw [run_nil, firstFrom]
    refine (congrArg (Option.or · found) hwaiting).trans ?_
    cases found <;> simp
  | cons c rest ih =>
    have hwaiting := best_waitingAt hforward ⟨before, offset, c :: rest⟩
      (if found.isSome then threads else threads ++ [⟨0, []⟩])
    rw [best_started, best_advance hforward before offset c rest (waits_of_mem_waitingAt _ _),
      ← waitingFrom] at hwaiting
    rw [run_cons, firstFrom]
    dsimp only
    generalize advance program (some c) (waitingFrom program ⟨before, offset, c :: rest⟩ threads found) =
      ahead at hwaiting ⊢
    -- where the machine stops early, going on would find nothing better
    have hgoes : (if ahead.1.isEmpty && (ahead.2.or found).isSome then ahead.2.or found
        else run program (some c) (offset + 1) ahead.1 (ahead.2.or found) rest) =
          (best program ⟨some c, offset + 1, rest⟩ ahead.1).or
            ((ahead.2.or found).or (firstFrom program (some c) (offset + 1) rest)) := by
      split
      · next hstop =>
        obtain ⟨hmoved, hfound⟩ := (Bool.and_eq_true ..).mp hstop
        obtain ⟨marks, hmarks⟩ := Option.isSome_iff_exists.mp hfound
        rw [List.isEmpty_iff.mp hmoved, best_nil, hmarks]
        rfl
      · exact ih ..
    rw [hgoes, ← Option.or_assoc, ← Option.or_assoc, hwaiting]
    cases found <;> simp [Option.or_assoc]

end Acceptance.Pattern
