import Acceptance.Grammar.Basic

/-!
# Declarations of a grammar

A declaration lists states with their rows. It is sound if no state comes twice and every state but the
last has rows. What a sound declaration connects, and what it leaves unconnected, can be read off it.
-/

set_option autoImplicit false

namespace Acceptance.Grammar

/-- What can be wrong with a declaration. -/
inductive DeclarationFault where
  | missingState (s : State)
  | duplicateState (s : State)
  deriving DecidableEq, Repr

/-- What is said about the fault. -/
def DeclarationFault.message : DeclarationFault → String
  | missingState s => "state `" ++ s.name ++ "` declares no transitions"
  | duplicateState s => "state `" ++ s.name ++ "` is declared more than once"

/-- The first state that was declared before, given the states declared so far. -/
def firstRepeat (seen : List State) : List StateRows → Option State
  | [] => none
  | entry :: rest =>
    if seen.contains entry.state then some entry.state else firstRepeat (entry.state :: seen) rest

/-- A sound declaration. -/
structure TransitionTable where
  declared : List StateRows
  deriving DecidableEq, Repr

namespace TransitionTable

/-- The table of a declaration. A repeated state is reported before a missing one. -/
def compile (declared : List StateRows) : Except DeclarationFault TransitionTable :=
  match firstRepeat [] declared with
  | some s => .error (.duplicateState s)
  | none =>
    let isMissing (s : State) : Bool := s != .ended && !declared.any (fun e => e.state == s)
    match State.all.find? isMissing with
    | some s => .error (.missingState s)
    | none => .ok ⟨declared⟩

/-- The rows of a state, in order of preference. -/
def rows (t : TransitionTable) (s : State) : List Transition :=
  match t.declared.find? (fun e => e.state == s) with
  | some entry => entry.rows
  | none => []

/-- Every state with the line class of each of its rows, in the order of the declaration. -/
def declaredEvents (t : TransitionTable) : List (State × Matcher) :=
  t.declared.flatMap fun e => e.rows.map fun row => (e.state, row.matcher)

/-- Whether some row leads from one state to the other. -/
def connects (t : TransitionTable) (source target : State) : Bool :=
  t.declared.any fun e => e.state == source && e.rows.any (fun row => row.next == target)

/-- All pairs of states. -/
def possibleTransitions : List (State × State) :=
  State.all.flatMap fun source => State.all.map fun target => (source, target)

/-- The pairs of states that a row connects. -/
def reachableTransitions (t : TransitionTable) : List (State × State) :=
  possibleTransitions.filter fun (source, target) => t.connects source target

/-- The pairs of states that no row connects. -/
def unreachableTransitions (t : TransitionTable) : List (State × State) :=
  possibleTransitions.filter fun (source, target) => !t.connects source target

/-- Sorting a list by a condition loses nothing. -/
theorem length_filter_add_length_filter_not {α : Type} (p : α → Bool) (l : List α) :
    (l.filter p).length + (l.filter (fun a => !p a)).length = l.length := by
  induction l with
  | nil => rfl
  | cons a l ih => by_cases h : p a <;> simp [h] <;> omega

/-- What is left of `unseen` when the states that can be reached from `pending` have been taken out. Every
turn takes a state off `pending` or moves it there from `unseen`. -/
def remaining (t : TransitionTable) (pending unseen : List State) : List State :=
  match pending with
  | [] => unseen
  | s :: pending =>
    let leads (target : State) : Bool := (t.rows s).any (fun row => row.next == target)
    remaining t (pending ++ unseen.filter leads) (unseen.filter (fun target => !leads target))
termination_by pending.length + unseen.length
decreasing_by
  have h := length_filter_add_length_filter_not
    (fun target => (t.rows s).any (fun row => row.next == target)) unseen
  simp only [List.length_append, List.length_cons, List.unattach_filter, List.unattach_attach]
  omega

/-- The states to which no rows lead from the first one. -/
def unreachableStates (t : TransitionTable) : List State :=
  t.remaining [.start] (State.all.filter (· != .start))

end TransitionTable

end Acceptance.Grammar
