import Acceptance.Document.Event
import Acceptance.Document.Line
import Acceptance.Document.Source
import Acceptance.Grammar.Standard
import Acceptance.Log
import Acceptance.Text.Quoted

/-!
# Reading a document

A parser reads a document line by line. `Parser.read` says what a line means where the parser stands: it
fires a row of the grammar, or it is blank, or it is a fault. A `Session` is a parser together with a
handler for the events. A handler may refuse an event, and that ends the reading.

The indentation of a multiline block is noted when its delimiter is about to be reported, and forgotten
when its end is, before the handler is asked. The state of the parser and its latest match change after
the handler has accepted all events of a line.
-/

set_option autoImplicit false

namespace Acceptance

open Acceptance.Grammar

/-- The line that a parser recognised last: its class and its parts. -/
structure LineMatch where
  matcher : Matcher
  parts : List String
  deriving DecidableEq, Repr

/-- Why a document cannot be read. -/
inductive ParseFault where
  /-- A line that no row of the state accepts. -/
  | unexpectedLine (lineNumber : Nat) (state : State) (line : String) (expected : List Matcher)
  /-- The end of input in a state without a row for it. -/
  | unexpectedEnd (state : State) (expected : List Matcher)
  /-- A line of a multiline block that is indented less than the block. -/
  | dedent (lineNumber indent : Nat) (line : String)
  | keyword (fault : KeywordFault)
  /-- The stream of that name cannot be read on. -/
  | unreadable (source reason : String)
  deriving DecidableEq, Repr

namespace ParseFault

/-- The names of the line classes that a state accepts. -/
def expectedNames (expected : List Matcher) : String :=
  "[" ++ ", ".intercalate (expected.map Matcher.name) ++ "]"

/-- What is said about the fault. -/
def message : ParseFault → String
  | unexpectedLine lineNumber state line expected =>
    "line " ++ toString lineNumber ++ ": unexpected line " ++ Text.quote line ++ " in state `" ++
      state.name ++ "`, expected one of " ++ expectedNames expected
  | unexpectedEnd state expected =>
    "unexpected end of input in state `" ++ state.name ++ "`, expected one of " ++
      expectedNames expected
  | dedent lineNumber indent line =>
    "line " ++ toString lineNumber ++ ": multiline content " ++ Text.quote line ++
      " is indented less than the opening delimiter (" ++ toString indent ++ " columns)"
  | keyword fault => fault.message
  | unreadable source reason => "cannot read " ++ source ++ ": " ++ reason

/-- The number of the line at fault, if the fault is one of a line. -/
def lineNumber? : ParseFault → Option Nat
  | unexpectedLine lineNumber _ _ _ | dedent lineNumber _ _ => some lineNumber
  | unexpectedEnd _ _ | keyword _ | unreadable _ _ => none

end ParseFault

/-- Where a parser stands: its state, the number of lines read, the indentation of the open multiline
block, and the line recognised last. -/
structure Parser where
  state : State := .start
  lineNumber : Nat := 0
  indent : Option Nat := none
  lastMatch : Option LineMatch := none
  deriving DecidableEq, Repr

/-- What a line means to a parser. -/
inductive Reading where
  /-- The row fires on the parts of the line. -/
  | fires (row : Transition) (parts : List String)
  /-- A blank line that no row accepts. -/
  | blank (line : String)
  | fault (f : ParseFault)
  deriving DecidableEq, Repr

namespace Parser

/-- The parts of a content line of a multiline block: the line without the indentation of the block.
A blank line may be shorter than that, any other line may not be indented less. -/
def contentParts (p : Parser) (line : String) : Except ParseFault (List String) :=
  let indent := p.indent.getD 0
  let cs := line.toList
  if (Text.indentation cs).length < indent && !Text.isBlankText line then
    .error (.dedent p.lineNumber indent line)
  else .ok [String.ofList (cs.drop indent)]

/-- The parts of a line if it is of class `m` where the parser stands. Titles, texts and cells lose the
blanks around them, and tags their markers. -/
def partsOf (p : Parser) (m : Matcher) (line : String) : Except ParseFault (Option (List String)) :=
  match m with
  | .endOfInput => .ok none
  | .multilineContent => (p.contentParts line).map some
  | .multilineClose =>
    match m.parts? line with
    | some parts => .ok (if p.indent = some (parts.headD "").length then some [] else none)
    | none => .ok none
  | .multilineOpen => .ok (m.parts? line)
  | .tags =>
    .ok ((m.parts? line).map fun parts =>
      (parts.flatMap fun part => Text.words part.toList).map fun tag =>
        String.ofList (tag.dropWhile (· == '@')))
  | .tableRow =>
    .ok ((m.parts? line).map fun parts =>
      (Text.cutAt (· == '|') (parts.headD "").toList).map fun cell => String.ofList (Text.trim cell))
  | _ => .ok ((m.parts? line).map fun parts => parts.map Text.trimmed)

/-- The first of the rows that accepts the line, with the parts of the line. Nothing stands for the end
of input. -/
def firstRow (p : Parser) (line : Option String) :
    List Transition → Except ParseFault (Option (Transition × List String))
  | [] => .ok none
  | row :: rows =>
    match line with
    | none => if row.matcher = .endOfInput then .ok (some (row, [])) else p.firstRow none rows
    | some text =>
      match p.partsOf row.matcher text with
      | .error fault => .error fault
      | .ok (some parts) => .ok (some (row, parts))
      | .ok none => p.firstRow (some text) rows

/-- The line classes that the state accepts, in the order of its rows. -/
def expected (p : Parser) : List Matcher :=
  (standard.rows p.state).map (·.matcher)

/-- What a line means, or the end of input. -/
def read (p : Parser) (line : Option String) : Reading :=
  match p.firstRow line (standard.rows p.state) with
  | .error fault => .fault fault
  | .ok (some (row, parts)) => .fires row parts
  | .ok none =>
    match line with
    | some text =>
      if Text.isBlankText text then .blank text
      else .fault (.unexpectedLine p.lineNumber p.state text p.expected)
    | none => .fault (.unexpectedEnd p.state p.expected)

/-- The parser with a line counted. The end of input is no line. -/
def count (p : Parser) (line : Option String) : Parser :=
  if line.isSome then { p with lineNumber := p.lineNumber + 1 } else p

/-- The indentation noted once an event is about to be reported. -/
def indentAfter (indent : Option Nat) : Event → Option Nat
  | .startMultiline width => some width
  | .finishMultiline => none
  | _ => indent

/-- What is logged about a row that fires. -/
def traceRecord (p : Parser) (row : Transition) : LogRecord :=
  ⟨.trace, "line " ++ toString p.lineNumber ++ ": " ++ p.state.name ++ " --" ++ row.matcher.name ++
    "--> " ++ row.next.name⟩

end Parser

/-- What a handler answers to an event: its new state, what it has to say, and whether it refuses. -/
structure Reply (σ ε : Type) where
  state : σ
  log : Log := []
  refusal : Option ε := none

/-- A receiver of events with a state of type `σ`, which refuses with reasons of type `ε`. -/
structure Handler (σ ε : Type) where
  handle : σ → Event → Reply σ ε

/-- Why a reading ended early: a fault of the document, or a refusal of the handler. -/
inductive ReadFailure (ε : Type) where
  | fault (f : ParseFault)
  | refused (reason : ε)
  deriving Repr

/-- How a reading ended. -/
abbrev ReadOutcome (ε : Type) : Type := Except (ReadFailure ε) Unit

/-- A parser at work: the parser, the state of the handler, and what has been logged. -/
structure Session (σ : Type) where
  parser : Parser := {}
  state : σ
  log : Log := []

namespace Session

variable {σ ε : Type}

/-- Report an event to the handler. -/
def send (h : Handler σ ε) (s : Session σ) (event : Event) : Session σ × ReadOutcome ε :=
  let reply := h.handle s.state event
  let s := { s with state := reply.state, log := s.log ++ reply.log }
  match reply.refusal with
  | some reason => (s, .error (.refused reason))
  | none => (s, .ok ())

/-- Report what actions say about the parts of a line, up to the first refusal. -/
def fire (h : Handler σ ε) (parts : List String) :
    List Action → Session σ → Session σ × ReadOutcome ε
  | [], s => (s, .ok ())
  | action :: actions, s =>
    match action.event parts with
    | .error fault => (s, .error (.fault (.keyword fault)))
    | .ok event =>
      let indent := Parser.indentAfter s.parser.indent event
      match send h { s with parser := { s.parser with indent := indent } } event with
      | (s, .ok ()) => fire h parts actions s
      | (s, .error failure) => (s, .error failure)

/-- Read one line, or the end of input. -/
def feed (h : Handler σ ε) (s : Session σ) (line : Option String) : Session σ × ReadOutcome ε :=
  let parser := s.parser.count line
  let s := { s with parser := parser }
  match parser.read line with
  | .fault fault => (s, .error (.fault fault))
  | .blank text => send h s (.whitespace text)
  | .fires row parts =>
    match fire h parts row.actions { s with log := s.log ++ [parser.traceRecord row] } with
    | (s, .error failure) => (s, .error failure)
    | (s, .ok ()) =>
      let parser := { s.parser with state := row.next, lastMatch := some ⟨row.matcher, parts⟩ }
      ({ s with parser := parser }, .ok ())

/-- Read lines up to the first failure. -/
def feedAll (h : Handler σ ε) : List String → Session σ → Session σ × ReadOutcome ε
  | [], s => (s, .ok ())
  | line :: lines, s =>
    match feed h s (some line) with
    | (s, .ok ()) => feedAll h lines s
    | (s, .error failure) => (s, .error failure)

/-- Begin a document. Nothing of an earlier one is kept. -/
def begin (h : Handler σ ε) (s : Session σ) (source : String) : Session σ × ReadOutcome ε :=
  send h { s with parser := {} } (.startParse source)

/-- End a document. -/
def finish (h : Handler σ ε) (s : Session σ) : Session σ × ReadOutcome ε :=
  match feed h s none with
  | (s, .ok ()) => send h s .finishParse
  | (s, .error failure) => (s, .error failure)

/-- Read a document given by its lines, and possibly the reason why there are no more of them. -/
def parse (h : Handler σ ε) (s : Session σ) (source : String) (lines : List String)
    (unreadable : Option String) : Session σ × ReadOutcome ε :=
  match begin h s source with
  | (s, .error failure) => (s, .error failure)
  | (s, .ok ()) =>
    match feedAll h lines s with
    | (s, .error failure) => (s, .error failure)
    | (s, .ok ()) =>
      match unreadable with
      | some reason => (s, .error (.fault (.unreadable source reason)))
      | none => finish h s

/-- Read the lines of a document. -/
def parseLines (h : Handler σ ε) (s : Session σ) (source : String) (lines : List String) :
    Session σ × ReadOutcome ε :=
  s.parse h source lines none

/-- The name of a source that is a text and not a stream. -/
def textSource : String := "<string>"

/-- Read a text. -/
def parseText (h : Handler σ ε) (s : Session σ) (text : String) : Session σ × ReadOutcome ε :=
  s.parseLines h textSource (linesOf text)

/-- Read a stream. -/
def parseStream (h : Handler σ ε) (s : Session σ) (source : String) (stream : Stream) :
    Session σ × ReadOutcome ε :=
  let (lines, unreadable) := stream.lines
  s.parse h source lines unreadable

end Session

/-- The handler that keeps every event. -/
def recorder : Handler (List Event) Empty :=
  ⟨fun events event => { state := events ++ [event] }⟩

/-- The handler that logs every event. -/
def eventLogger : Handler Unit Empty :=
  ⟨fun _ event =>
    { state := (), log := [⟨.info, event.name ++ ": " ++ Text.quoteList event.args⟩] }⟩

end Acceptance
