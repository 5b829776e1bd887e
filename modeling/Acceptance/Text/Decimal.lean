import Acceptance.Text.Property

/-!
# Reading decimal integers

`IntegerRange.read` reads an optional sign and decimal digits from left to right. The first fault met on
the way is the answer: a character that is no digit, or a value that leaves the range. So a text that
is both too long and malformed is refused for whichever comes first.
-/

set_option autoImplicit false

namespace Acceptance.Text

/-- The integers from `least` to `greatest`. -/
structure IntegerRange where
  least : Int
  greatest : Int

namespace IntegerRange

/-- The integers of eight bits without sign. -/
def byte : IntegerRange := ⟨0, 255⟩

/-- The integers of 32 bits in two's complement. -/
def word32 : IntegerRange := ⟨-2147483648, 2147483647⟩

/-- The integers of 64 bits in two's complement. -/
def word64 : IntegerRange := ⟨-9223372036854775808, 9223372036854775807⟩

/-- Whether a range has negative numbers, so that a minus sign can be read. -/
def isSigned (r : IntegerRange) : Bool :=
  decide (r.least < 0)

end IntegerRange

/-- Why a text is no integer of the range. -/
inductive IntegerFault where
  | empty
  | invalidDigit
  | tooLarge
  | tooSmall
  deriving DecidableEq, Repr

/-- What is said about the fault. -/
def IntegerFault.message : IntegerFault → String
  | empty => "cannot parse integer from empty string"
  | invalidDigit => "invalid digit found in string"
  | tooLarge => "number too large to fit in target type"
  | tooSmall => "number too small to fit in target type"

/-- The value of a decimal digit. -/
def digitValue (c : Char) : Int :=
  c.toNat - '0'.toNat

/-- Read digits upwards from `value`, staying at or below the greatest number of the range. -/
def IntegerRange.readUp (r : IntegerRange) (value : Int) : List Char → Except IntegerFault Int
  | [] => .ok value
  | c :: cs =>
    if isAsciiDigit c then
      let next := value * 10 + digitValue c
      if next ≤ r.greatest then r.readUp next cs else .error .tooLarge
    else .error .invalidDigit

/-- Read digits downwards from `value`, staying at or above the least number of the range. -/
def IntegerRange.readDown (r : IntegerRange) (value : Int) : List Char → Except IntegerFault Int
  | [] => .ok value
  | c :: cs =>
    if isAsciiDigit c then
      let next := value * 10 - digitValue c
      if r.least ≤ next then r.readDown next cs else .error .tooSmall
    else .error .invalidDigit

/-- Read an integer of the range. One plus sign may lead, and a minus sign where the range has
negative numbers. -/
def IntegerRange.read (r : IntegerRange) (text : String) : Except IntegerFault Int :=
  match text.toList with
  | [] => .error .empty
  | ['+'] => .error .invalidDigit
  | ['-'] => .error .invalidDigit
  | '+' :: digits => r.readUp 0 digits
  | '-' :: digits => if r.isSigned then r.readDown 0 digits else .error .invalidDigit
  | digits => r.readUp 0 digits

end Acceptance.Text
