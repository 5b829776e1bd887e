import Acceptance.Pattern.Program

/-!
# Searching a text

The machine reads the text once, from left to right, with a list of threads in order of preference. At
each place the threads follow the instructions that read nothing; an instruction that two threads reach
belongs to the preferred one, so a place costs no more than the length of the program. A thread that
accepts ends all those behind it. A search begins a new thread at every place, behind all others, until
the first acceptance, which makes the leftmost match win.
-/

set_option autoImplicit false

namespace Acceptance.Pattern

/-- Slots with the places noted under them, the latest first. -/
abbrev Marks : Type := List (Nat × Nat)

/-- A thread of the machine: the instruction that it stands at, and what it has noted. -/
structure Thread where
  at_ : Nat
  marks : Marks

/-- What following the instructions has led to: the instructions met, and the threads that wait to read
or to accept, the least preferred first. -/
structure Frontier where
  met : Array Bool
  waiting : List Thread

/-- Follow the instructions that read nothing, the threads of `stack` in turn. Every instruction is
entered once at most and leaves two threads at most, so `fuel` need not exceed the number of threads
and twice the length of the program. -/
def follow (program : Array Instruction) (place : Place) (offset : Nat) :
    Nat → List Thread → Frontier → Frontier
  | 0, _, frontier => frontier
  | _, [], frontier => frontier
  | fuel + 1, t :: stack, frontier =>
    if frontier.met.getD t.at_ true then follow program place offset fuel stack frontier
    else
      let frontier := { frontier with met := frontier.met.setIfInBounds t.at_ true }
      match program[t.at_]? with
      | some (.fork first second) =>
        follow program place offset fuel ({ t with at_ := first } :: { t with at_ := second } :: stack)
          frontier
      | some (.jump next) =>
        follow program place offset fuel ({ t with at_ := next } :: stack) frontier
      | some (.mark slot next) =>
        follow program place offset fuel (⟨next, (slot, offset) :: t.marks⟩ :: stack) frontier
      | some (.check anchor next) =>
        if anchor.holds place then
          follow program place offset fuel ({ t with at_ := next } :: stack) frontier
        else follow program place offset fuel stack frontier
      | some (.take _ _) | some .accept =>
        follow program place offset fuel stack
          { frontier with waiting := t :: frontier.waiting }
      | none => follow program place offset fuel stack frontier

/-- The threads that wait at a place, in order of preference. -/
def waitingAt (program : Array Instruction) (place : Place) (offset : Nat) (threads : List Thread) :
    List Thread :=
  let fuel := threads.length + 2 * program.size
  let start : Frontier := ⟨Array.replicate program.size false, []⟩
  (follow program place offset fuel threads start).waiting.reverse

/-- Let the waiting threads read the next character. The answer has the threads that did, and what
was noted by the first thread that accepts, which ends all those behind it. -/
def advance (program : Array Instruction) (next : Option Char) :
    List Thread → List Thread × Option Marks
  | [] => ([], none)
  | t :: ts =>
    match program[t.at_]?, next with
    | some .accept, _ => ([], some t.marks)
    | some (.take set target), some c =>
      let (moved, accepted) := advance program next ts
      (if set.contains c then { t with at_ := target } :: moved else moved, accepted)
    | _, _ => advance program next ts

/-- Run the machine from a place on. `found` is what the best acceptance so far has noted. -/
def run (program : Array Instruction) (before : Option Char) (offset : Nat) (threads : List Thread)
    (found : Option Marks) (text : List Char) : Option Marks :=
  let started := if found.isSome then threads else threads ++ [⟨0, []⟩]
  let waiting := waitingAt program ⟨before, text.head?⟩ offset started
  let (moved, accepted) := advance program text.head? waiting
  let found := accepted.or found
  match text with
  | [] => found
  | c :: rest =>
    if moved.isEmpty && found.isSome then found
    else run program (some c) (offset + 1) moved found rest

/-- The part of a text that was matched between the two places noted for a group, and the empty text for
a group that took no part. -/
def groupText (text : List Char) (marks : Marks) (group : Nat) : String :=
  match marks.lookup (2 * group), marks.lookup (2 * group + 1) with
  | some first, some last => String.ofList ((text.drop first).take (last - first))
  | _, _ => ""

end Acceptance.Pattern
