import Acceptance.Pattern.Expression

/-!
# Programs of the matching machine

An expression becomes a list of numbered instructions. The instructions of an expression stand in one
stretch, begin at its first number, and go on after its last one. A fork names the preferred way first.
-/

set_option autoImplicit false

namespace Acceptance.Pattern

/-- An instruction of the matching machine. The numbers are those of other instructions. -/
inductive Instruction where
  /-- Read one character of the set, then go on. -/
  | take (set : CharSet) (next : Nat)
  /-- Go both ways, the first one preferred. -/
  | fork (first second : Nat)
  | jump (next : Nat)
  /-- Note the place under a slot, then go on. -/
  | mark (slot next : Nat)
  /-- Go on if the place meets the condition. -/
  | check (anchor : Anchor) (next : Nat)
  | accept
  deriving Repr

/-- Instructions that can be placed at any number. -/
abbrev Fragment : Type := Nat → List Instruction

namespace Fragment

/-- One fragment after the other. -/
def followedBy (first second : Fragment) : Fragment := fun at_ =>
  let head := first at_
  head ++ second (at_ + head.length)

/-- A fork whose preferred way is the first one where `greedy` holds. -/
def forkTo (greedy : Bool) (onward out : Nat) : Instruction :=
  if greedy then .fork onward out else .fork out onward

/-- A fragment a given number of times. -/
def times (body : Fragment) : Nat → Fragment
  | 0 => fun _ => []
  | n + 1 => body.followedBy (times body n)

/-- A fragment once, then again for as long as the fork behind it goes back. -/
def onceOrMore (body : Fragment) (greedy : Bool) : Fragment := fun at_ =>
  let code := body at_
  let here := at_ + code.length
  code ++ [forkTo greedy at_ (here + 1)]

/-- A fragment once or not at all. -/
def optional (body : Fragment) (greedy : Bool) : Fragment := fun at_ =>
  let code := body (at_ + 1)
  forkTo greedy (at_ + 1) (at_ + 1 + code.length) :: code

/-- A fragment that reads something, any number of times. -/
def anyNumber (body : Fragment) (greedy : Bool) : Fragment := fun at_ =>
  let code := body (at_ + 1)
  forkTo greedy (at_ + 1) (at_ + 2 + code.length) :: code ++ [.jump at_]

/-- A fragment up to a number of times: every turn depends on the one before. -/
def upTo (body : Fragment) (greedy : Bool) : Nat → Fragment
  | 0 => fun _ => []
  | n + 1 => optional (body.followedBy (upTo body greedy n)) greedy

end Fragment

/-- The instructions of an expression. A repetition without upper bound of something that may read
nothing is entered through a fork of its own, so that its first turn keeps its rank. -/
def Expression.fragment : Expression → Fragment
  | nothing => fun _ => []
  | one set => fun at_ => [.take set (at_ + 1)]
  | anchor a => fun at_ => [.check a (at_ + 1)]
  | capture index body =>
    let body := body.fragment
    fun at_ =>
      let code := body (at_ + 1)
      let close := at_ + 1 + code.length
      .mark (2 * index) (at_ + 1) :: code ++ [.mark (2 * index + 1) (close + 1)]
  | sequence first second => first.fragment.followedBy second.fragment
  | choice first second =>
    let first := first.fragment
    let second := second.fragment
    fun at_ =>
      let preferred := first (at_ + 1)
      let other := at_ + 2 + preferred.length
      let fallback := second other
      .fork (at_ + 1) other :: preferred ++ .jump (other + fallback.length) :: fallback
  | repeated body least none greedy =>
    let code := body.fragment
    match least with
    | 0 =>
      if body.minLength == 0 then Fragment.optional (code.onceOrMore greedy) greedy
      else code.anyNumber greedy
    | n + 1 => (code.times n).followedBy (code.onceOrMore greedy)
  | repeated body least (some most) greedy =>
    let code := body.fragment
    (code.times least).followedBy (code.upTo greedy (most - least))

/-- The program of an expression: its instructions, and acceptance after them. -/
def Expression.program (e : Expression) : Array Instruction :=
  let code := e.fragment 0
  (code ++ [Instruction.accept]).toArray

end Acceptance.Pattern
