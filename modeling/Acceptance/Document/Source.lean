import Acceptance.Text.Blank

/-!
# Texts and streams as lines

A line ends with a line feed, or with a carriage return and a line feed; the last one may end with the
text. A text gives all its lines. A stream of bytes gives them one by one, until one of them is not valid
UTF-8 or the stream fails.
-/

set_option autoImplicit false

namespace Acceptance

/-- The lines of a sequence, given the elements that end lines: those that are complete, and what stands
behind the last line feed. A complete line does not keep the carriage return before its line feed. -/
def completeLines {α : Type} [BEq α] (feed ret : α) (cs : List α) : List (List α) × List α :=
  let pieces := Text.cutAt (· == feed) cs
  let withoutReturn (line : List α) : List α :=
    match line.getLast? with
    | some c => if c == ret then line.dropLast else line
    | none => line
  (pieces.dropLast.map withoutReturn, pieces.getLastD [])

/-- The lines of a text. -/
def linesOf (text : String) : List String :=
  let (complete, rest) := completeLines '\n' '\r' text.toList
  (complete ++ if rest.isEmpty then [] else [rest]).map String.ofList

/-- A stream of bytes. If it fails, it does so when the bytes are used up. -/
structure Stream where
  bytes : List UInt8
  failure : Option String := none

namespace Stream

/-- What is said about bytes that are not valid UTF-8. -/
def invalidText : String :=
  "stream did not contain valid UTF-8"

/-- The stream of a text. -/
def ofText (text : String) : Stream :=
  ⟨text.toUTF8.toList, none⟩

/-- The text of a line. -/
def decode (line : List UInt8) : Option String :=
  String.fromUTF8? ⟨line.toArray⟩

/-- The lines that are valid, and what is wrong with the first one that is not. -/
def decodeLines : List (List UInt8) → List String × Option String
  | [] => ([], none)
  | line :: rest =>
    match decode line with
    | some text =>
      let (texts, fault) := decodeLines rest
      (text :: texts, fault)
    | none => ([], some invalidText)

/-- The lines that a stream delivers, and why it delivers no more if it does not end well. A last line
without line feed is not delivered if the stream fails. -/
def lines (s : Stream) : List String × Option String :=
  let (complete, rest) := completeLines 10 13 s.bytes
  match s.failure with
  | some failure =>
    let (texts, fault) := decodeLines complete
    (texts, some (fault.getD failure))
  | none => decodeLines (complete ++ if rest.isEmpty then [] else [rest])

end Stream

end Acceptance
