import Acceptance.Pattern.Expression

/-!
# The notation of patterns

How the text of a pattern denotes an expression. The text is read once from left to right, with the
flags in force, the pieces of the current sequence, its earlier alternatives and the open groups at hand.
What a flag changes lasts to the end of the group that it is written in.

Every reader takes the rest of the text and gives back what it read and the rest after it, or nothing
where the text is no pattern.
-/

set_option autoImplicit false

namespace Acceptance.Pattern

open Acceptance.Text

/-- What the flags of a pattern say. A pattern begins with Unicode in force. -/
structure Flags where
  /-- Letter case does not count. -/
  ignoreCase : Bool := false
  /-- The anchors `^` and `$` hold at the ends of lines. -/
  multiLine : Bool := false
  /-- The dot is every character. -/
  dotAll : Bool := false
  /-- Repetitions are reluctant unless marked, and greedy where marked. -/
  swapGreed : Bool := false
  /-- Classes and letter case are those of Unicode, and not of ASCII only. -/
  unicode : Bool := true
  /-- A carriage return ends lines too. -/
  returnEndsLine : Bool := false
  /-- Blanks and comments in the pattern do not count. -/
  spaced : Bool := false
  deriving Repr

/-- Leave out blanks and comments. The flag says that the text begins inside a comment. -/
def dropSpace : Bool → List Char → List Char
  | _, [] => []
  | true, c :: cs => dropSpace (c != '\n') cs
  | false, c :: cs =>
    if isBlank c then dropSpace false cs else if c = '#' then dropSpace true cs else c :: cs

/-- Leave out blanks and comments where they do not count. -/
def Flags.skip (flags : Flags) (cs : List Char) : List Char :=
  if flags.spaced then dropSpace false cs else cs

/-- The first character after a hyphen that could be written for a range. -/
def Flags.peek? (flags : Flags) (cs : List Char) : Option Char :=
  if flags.spaced then
    match cs.dropWhile isBlank with
    | '#' :: rest => (rest.dropWhile isBlank).head?
    | rest => rest.head?
  else cs.head?

/-- The character of a literal, with its other cases where letter case does not count. -/
def Flags.literal (flags : Flags) (c : Char) : CharSet :=
  if flags.ignoreCase then
    if flags.unicode then
      (caseVariants c).foldl (fun set d => set.union (.single d)) (.single c)
    else .asciiFolded (.single c)
  else .single c

/-- A class with the flags applied, first letter case and then negation. Without Unicode nothing can be
negated, because the complement would reach beyond ASCII. -/
def Flags.close? (flags : Flags) (negated : Bool) (set : CharSet) : Option CharSet :=
  let set :=
    if flags.ignoreCase then (if flags.unicode then .folded set else .asciiFolded set) else set
  if negated then (if flags.unicode then some (.compl set) else none) else some set

/-- What a single item of a pattern stands for. -/
inductive Item where
  | literal (c : Char)
  | set (set : CharSet)
  | anchor (a : Anchor)

/-- The value of a hexadecimal digit. -/
def hexValue (c : Char) : Nat :=
  if isAsciiDigit c then c.toNat - '0'.toNat
  else if 'a' ≤ c && c ≤ 'f' then c.toNat - 'a'.toNat + 10
  else c.toNat - 'A'.toNat + 10

/-- The character whose number is written in hexadecimal digits. -/
def hexChar? (digits : List Char) : Option Char :=
  let n := digits.foldl (fun n c => n * 16 + hexValue c) 0
  if !digits.isEmpty && n.isValidChar then some (Char.ofNat n) else none

/-- A given number of hexadecimal digits. -/
def readHexDigits (flags : Flags) : Nat → List Char → Option (List Char × List Char)
  | 0, cs => some ([], cs)
  | _ + 1, [] => none
  | n + 1, c :: cs =>
    if isAsciiHexDigit c then
      match readHexDigits flags n (flags.skip cs) with
      | some (digits, rest) => some (c :: digits, rest)
      | none => none
    else none

/-- The characters up to a closing brace, without those that do not count. -/
def readBraced (flags : Flags) : List Char → Option (List Char × List Char)
  | [] => none
  | '\x7d' :: cs => some ([], cs)
  | c :: cs => (readBraced flags cs).map (fun (name, rest) => (c :: name, rest))

/-- The name between braces, from behind the opening one. -/
def readBracedName (flags : Flags) (cs : List Char) : Option (List Char × List Char) :=
  match readBraced flags cs with
  | some (name, rest) => some (if flags.spaced then dropSpaces name else name, rest)
  | none => none
where
  /-- Leave out all blanks and comments of a name. -/
  dropSpaces (name : List Char) : List Char :=
    (name.foldl (fun (inComment, kept) c =>
      if inComment then (c != '\n', kept)
      else if isBlank c then (false, kept)
      else if c = '#' then (true, kept)
      else (false, c :: kept)) (false, [])).2.reverse

/-- A character given by its number: two, four or eight digits, or any number of them in braces. -/
def readHex (flags : Flags) (width : Nat) (cs : List Char) : Option (Item × List Char) :=
  match flags.skip cs with
  | '\x7b' :: rest => do
    let (digits, rest) ← readBracedName flags rest
    if digits.all isAsciiHexDigit then
      let c ← hexChar? digits
      some (.literal c, flags.skip rest)
    else none
  | rest => do
    let (digits, rest) ← readHexDigits flags width rest
    let c ← hexChar? digits
    if width == 2 && !flags.unicode && !isAscii c then none else some (.literal c, rest)

/-- Cut a name at the first place where `separator` stands. -/
def cutName? (separator : List Char) : List Char → Option (List Char × List Char)
  | [] => none
  | c :: cs =>
    match dropStart? separator (c :: cs) with
    | some rest => some ([], rest)
    | none => (cutName? separator cs).map (fun (left, right) => (c :: left, right))

/-- The property that a name in braces denotes: a name by itself, or a group of properties and a name
within it, with an equals sign, a colon or `!=` between them. -/
def bracedProperty? (name : List Char) : Option Property :=
  match cutName? ['!', '='] name with
  | some (group, value) => propertyIn? group value
  | none =>
    match cutName? [':'] name with
    | some (group, value) => propertyIn? group value
    | none =>
      match cutName? ['='] name with
      | some (group, value) => propertyIn? group value
      | none => propertyNamed? name

/-- A property of Unicode, from behind the letter that announces it. -/
def readProperty (flags : Flags) (negated : Bool) (cs : List Char) : Option (Item × List Char) := do
  guard flags.unicode
  match flags.skip cs with
  | [] => none
  | '\x7b' :: rest =>
    let (name, rest) ← readBracedName flags rest
    let p ← bracedProperty? name
    let set ← flags.close? negated (.property p)
    some (.set set, rest)
  | c :: rest =>
    guard (c != '\\')
    let p ← propertyNamed? [c]
    let set ← flags.close? negated (.property p)
    some (.set set, flags.skip rest)

/-- The classes with a letter of their own: digits, blanks and word characters. -/
def letterClass (flags : Flags) (c : Char) : CharSet :=
  if flags.unicode then
    if c = 'd' then .property .digit else if c = 's' then .property .blank else .property .word
  else
    let digit := CharSet.range '0' '9'
    if c = 'd' then digit
    else if c = 's' then (CharSet.range '\t' '\r').union (.single ' ')
    else digit.union ((CharSet.range 'a' 'z').union ((CharSet.range 'A' 'Z').union (.single '_')))

/-- The name of a kind of word edge, from behind its opening brace. -/
def readEdgeName (flags : Flags) : Nat → List Char → Option (List Char × List Char)
  | 0, _ => none
  | fuel + 1, cs =>
    match cs with
    | [] => none
    | '\x7d' :: rest => some ([], rest)
    | c :: rest =>
      if isAsciiLetter c || c == '-' then
        (readEdgeName flags fuel (flags.skip rest)).map (fun (name, rest) => (c :: name, rest))
      else none

/-- A word edge, from behind its letter. A brace with a name says which kind of edge; any other brace is
left to stand for a repetition. -/
def readWordEdge (flags : Flags) (cs : List Char) : Option (Item × List Char) :=
  let asciiOnly := !flags.unicode
  match cs with
  | '\x7b' :: inner =>
    match flags.skip inner with
    | [] => none
    | c :: rest =>
      if isAsciiLetter c || c == '-' then
        match readEdgeName flags (rest.length + 2) (c :: rest) with
        | some (name, rest) =>
          let name := String.ofList name
          if name == "start" then some (.anchor (.wordStart asciiOnly), rest)
          else if name == "end" then some (.anchor (.wordEnd asciiOnly), rest)
          else if name == "start-half" then some (.anchor (.noWordBefore asciiOnly), rest)
          else if name == "end-half" then some (.anchor (.noWordAfter asciiOnly), rest)
          else none
        | none => none
      else some (.anchor (.wordEdge asciiOnly), cs)
  | _ => some (.anchor (.wordEdge asciiOnly), cs)

/-- What stands behind a backslash. Letters and digits have a meaning of their own or none; any other
ASCII character stands for itself. -/
def readEscape (flags : Flags) : List Char → Option (Item × List Char)
  | [] => none
  | c :: rest =>
    let asciiOnly := !flags.unicode
    match c with
    | 'x' => readHex flags 2 rest
    | 'u' => readHex flags 4 rest
    | 'U' => readHex flags 8 rest
    | 'p' => readProperty flags false rest
    | 'P' => readProperty flags true rest
    | 'd' | 's' | 'w' => some (.set (letterClass flags c), rest)
    | 'D' | 'S' | 'W' =>
      if flags.unicode then some (.set (.compl (letterClass flags (asciiLower c))), rest) else none
    | 'a' => some (.literal '\x07', rest)
    | 'f' => some (.literal '\x0c', rest)
    | 't' => some (.literal '\t', rest)
    | 'n' => some (.literal '\n', rest)
    | 'r' => some (.literal '\r', rest)
    | 'v' => some (.literal '\x0b', rest)
    | 'A' => some (.anchor .textStart, rest)
    | 'z' => some (.anchor .textEnd, rest)
    | 'b' => readWordEdge flags rest
    | 'B' => some (.anchor (.noWordEdge asciiOnly), rest)
    | '<' => some (.anchor (.wordStart asciiOnly), rest)
    | '>' => some (.anchor (.wordEnd asciiOnly), rest)
    | _ =>
      if isAscii c && !isAsciiLetter c && !isAsciiDigit c then some (.literal c, rest) else none

/-- The operations between the parts of a bracketed class. -/
inductive SetOperation where
  | inter
  | diff
  | symmDiff

/-- An open bracketed class: whether it is negated, what stands before its last operation, and what has
been read since. -/
structure OpenSet where
  negated : Bool
  left : Option (SetOperation × CharSet)
  items : CharSet

namespace OpenSet

/-- The set read so far. Operations bind from left to right, and each applies letter case first. -/
def result (level : OpenSet) (flags : Flags) : CharSet :=
  let fold (set : CharSet) : CharSet :=
    if flags.ignoreCase then (if flags.unicode then .folded set else .asciiFolded set) else set
  match level.left with
  | none => level.items
  | some (.inter, left) => .inter (fold left) (fold level.items)
  | some (.diff, left) => .diff (fold left) (fold level.items)
  | some (.symmDiff, left) => .symmDiff (fold left) (fold level.items)

/-- Begin the part behind an operation. -/
def operate (level : OpenSet) (flags : Flags) (operation : SetOperation) : OpenSet :=
  { level with left := some (operation, level.result flags), items := .empty }

/-- Add a set to the part being read. -/
def add (level : OpenSet) (set : CharSet) : OpenSet :=
  { level with items := level.items.union set }

end OpenSet

/-- Hyphens at the beginning of a class stand for themselves. -/
def readHyphens (flags : Flags) (level : OpenSet) : Nat → List Char → Option (OpenSet × List Char)
  | 0, cs => some (level, cs)
  | fuel + 1, cs =>
    match cs with
    | '-' :: rest =>
      let rest := flags.skip rest
      if rest.isEmpty then none else readHyphens flags (level.add (.single '-')) fuel rest
    | _ => some (level, cs)

/-- The beginning of a bracketed class, from behind the bracket: a negation, hyphens, and a closing
bracket that comes first and stands for itself. -/
def openSet (flags : Flags) (cs : List Char) : Option (OpenSet × List Char) := do
  let cs := flags.skip cs
  let (negated, cs) :=
    match cs with
    | '^' :: rest => (true, flags.skip rest)
    | _ => (false, cs)
  guard !cs.isEmpty
  let first : OpenSet := ⟨negated, none, .empty⟩
  let (level, rest) ← readHyphens flags first cs.length cs
  match cs, rest with
  | '-' :: _, _ => some (level, rest)
  | _, ']' :: after =>
    let after := flags.skip after
    guard !after.isEmpty
    some (level.add (.single ']'), after)
  | _, _ => some (level, rest)

/-- A named class such as `[:alpha:]`, from behind its first bracket: the class, whether it is negated,
and the rest. -/
def asciiClass? (cs : List Char) : Option (CharSet × Bool × List Char) := do
  let body ← dropStart? [':'] cs
  let (negated, body) :=
    match body with
    | '^' :: rest => (true, rest)
    | _ => (false, body)
  let name := body.takeWhile (fun c => c != ':')
  let rest ← dropStart? [':', ']'] (body.drop name.length)
  let entry ← asciiClasses.find? (fun e => e.1 == String.ofList name)
  some (entry.2, negated, rest)

/-- One item of a class: an escape, or a character that stands for itself. -/
def readSetItem (flags : Flags) : List Char → Option (Item × List Char)
  | [] => none
  | '\\' :: rest => readEscape flags rest
  | c :: rest => some (.literal c, rest)

/-- A literal of a class. Without Unicode it has to be an ASCII character. -/
def setLiteral? (flags : Flags) : Item → Option Char
  | .literal c => if flags.unicode || isAscii c then some c else none
  | _ => none

/-- The set that a single item of a class stands for. -/
def itemSet? (flags : Flags) : Item → Option CharSet
  | .literal c => (setLiteral? flags (.literal c)).map .single
  | .set set => some set
  | .anchor _ => none

/-- A range of a class, or a single item. A hyphen before the closing bracket or before another hyphen
begins no range. -/
def readSetRange (flags : Flags) (cs : List Char) : Option (CharSet × List Char) := do
  let (first, rest) ← readSetItem flags cs
  match flags.skip rest with
  | [] => none
  | '-' :: after =>
    if flags.peek? after == some ']' || flags.peek? after == some '-' then
      let set ← itemSet? flags first
      some (set, '-' :: after)
    else
      let (last, rest) ← readSetItem flags (flags.skip after)
      let low ← setLiteral? flags first
      let high ← setLiteral? flags last
      guard (low ≤ high)
      some (.range low high, rest)
  | rest =>
    let set ← itemSet? flags first
    some (set, rest)

/-- The rest of a bracketed class, with the classes around it that are still open. Every turn reads a
character at least. -/
def readSet (flags : Flags) :
    Nat → OpenSet → List OpenSet → List Char → Option (CharSet × List Char)
  | 0, _, _, _ => none
  | fuel + 1, level, outer, cs =>
    match flags.skip cs with
    | [] => none
    | '[' :: rest =>
      match asciiClass? rest with
      | some (set, negated, rest) =>
        match flags.close? negated set with
        | some set => readSet flags fuel (level.add set) outer rest
        | none => none
      | none =>
        match openSet flags rest with
        | some (inner, rest) => readSet flags fuel inner (level :: outer) rest
        | none => none
    | ']' :: rest =>
      match flags.close? level.negated (level.result flags) with
      | none => none
      | some set =>
        match outer with
        | [] => some (set, rest)
        | next :: others => readSet flags fuel (next.add set) others rest
    | '&' :: '&' :: rest => readSet flags fuel (level.operate flags .inter) outer rest
    | '-' :: '-' :: rest => readSet flags fuel (level.operate flags .diff) outer rest
    | '~' :: '~' :: rest => readSet flags fuel (level.operate flags .symmDiff) outer rest
    | rest =>
      match readSetRange flags rest with
      | some (set, rest) => readSet flags fuel (level.add set) outer rest
      | none => none

/-- A part of a sequence: its expression, how deep expressions are nested in it, and whether it can be
repeated. -/
structure Piece where
  expression : Expression
  depth : Nat := 0
  repeatable : Bool := true

/-- The pieces one after the other. -/
def Piece.sequence (pieces : List Piece) : Piece :=
  match pieces with
  | [piece] => piece
  | [] => ⟨.nothing, 0, true⟩
  | _ =>
    ⟨Expression.sequenceOf (pieces.map (·.expression)), 1 + (pieces.map (·.depth)).foldl max 0, true⟩

/-- The alternatives in order of preference. -/
def Piece.choice (pieces : List Piece) : Piece :=
  match pieces with
  | [piece] => piece
  | _ =>
    ⟨Expression.choiceOf (pieces.map (·.expression)), 1 + (pieces.map (·.depth)).foldl max 0, true⟩

/-- A group that is still open: its number if it captures, and what it interrupted. -/
structure OpenGroup where
  capture : Option Nat
  flags : Flags
  pieces : List Piece
  branches : List Piece

/-- What is at hand while a pattern is read. The latest pieces, branches and groups come first. -/
structure Reading where
  flags : Flags := {}
  pieces : List Piece := []
  branches : List Piece := []
  groups : List OpenGroup := []
  captures : Nat := 0
  names : List (List Char) := []

namespace Reading

/-- Add a piece to the current sequence. -/
def add (r : Reading) (expression : Expression) (depth : Nat) (repeatable : Bool) : Reading :=
  { r with pieces := ⟨expression, depth, repeatable⟩ :: r.pieces }

/-- The innermost open group, or the whole pattern, as one piece. -/
def body (r : Reading) : Piece :=
  Piece.choice ((Piece.sequence r.pieces.reverse :: r.branches).reverse)

/-- Close the innermost group. -/
def closeGroup? (r : Reading) : Option Reading :=
  match r.groups with
  | [] => none
  | group :: groups =>
    let body := r.body
    let expression :=
      match group.capture with
      | some index => .capture index body.expression
      | none => body.expression
    some { r with
      flags := group.flags
      pieces := ⟨expression, body.depth + 1, true⟩ :: group.pieces
      branches := group.branches
      groups := groups }

/-- Open a group, with the flags that hold inside it. -/
def openGroup (r : Reading) (capture : Option Nat) (flags : Flags) : Reading :=
  { r with
    flags := flags
    pieces := []
    branches := []
    groups := ⟨capture, r.flags, r.pieces, r.branches⟩ :: r.groups }

/-- Open the next group that captures. -/
def openCapture (r : Reading) : Reading :=
  { r.openGroup (some (r.captures + 1)) r.flags with captures := r.captures + 1 }

/-- Repeat the latest piece. -/
def repeatLast? (r : Reading) (least : Nat) (most : Option Nat) (greedy : Bool) : Option Reading :=
  match r.pieces with
  | [] => none
  | piece :: pieces =>
    if piece.repeatable then
      let greedy := greedy != r.flags.swapGreed
      let expression := Expression.repeat piece.expression least most greedy
      some { r with pieces := ⟨expression, piece.depth + 1, true⟩ :: pieces }
    else none

end Reading

/-- Whether a character may stand in the name of a group. -/
def isNameChar (first : Bool) (c : Char) : Bool :=
  if first then c == '_' || isAlphabetic c
  else c == '_' || c == '.' || c == '[' || c == ']' || isAlphanumeric c

/-- The name of a group up to the angle bracket that ends it. -/
def readGroupName (first : Bool) : List Char → Option (List Char × List Char)
  | [] => none
  | c :: rest =>
    if c = '>' then (if first then none else some ([], rest))
    else if isNameChar first c then
      (readGroupName false rest).map (fun (name, rest) => (c :: name, rest))
    else none

/-- The flags with one of them set or cleared. -/
def Flags.set? (flags : Flags) (c : Char) (value : Bool) : Option Flags :=
  match c with
  | 'i' => some { flags with ignoreCase := value }
  | 'm' => some { flags with multiLine := value }
  | 's' => some { flags with dotAll := value }
  | 'U' => some { flags with swapGreed := value }
  | 'u' => some { flags with unicode := value }
  | 'R' => some { flags with returnEndsLine := value }
  | 'x' => some { flags with spaced := value }
  | _ => none

/-- The flags up to a colon or a closing parenthesis, which is given back first in the rest. No flag
comes twice, and one stands behind the hyphen that clears. `written` holds what has been read, the
latest first. -/
def readFlags (flags : Flags) (written : List Char) :
    List Char → Option (Flags × List Char × List Char)
  | [] => none
  | c :: rest =>
    if c = ':' || c = ')' then
      if written.head? == some '-' then none else some (flags, written, c :: rest)
    else if written.contains c then none
    else if c = '-' then readFlags flags (c :: written) rest
    else
      match flags.set? c (!written.contains '-') with
      | some flags => readFlags flags (c :: written) rest
      | none => none

/-- What an opening parenthesis begins: a group with a name, flags alone or for a group, or a group with
a number. -/
def Reading.readGroup (r : Reading) (cs : List Char) : Option (Reading × List Char) :=
  let named (rest : List Char) : Option (Reading × List Char) := do
    let (name, rest) ← readGroupName true rest
    guard !(r.names.contains name)
    some ({ r.openCapture with names := name :: r.names }, rest)
  match r.flags.skip cs with
  | '?' :: 'P' :: '<' :: rest => named rest
  | '?' :: '<' :: rest => named rest
  | '?' :: rest => do
    let (flags, written, rest) ← readFlags r.flags [] rest
    match rest with
    | ':' :: rest => some (r.openGroup none flags, rest)
    | _ :: rest =>
      guard !written.isEmpty
      some ({ r with flags := flags }.add .nothing 0 false, rest)
    | [] => none
  | rest => some (r.openCapture, rest)

/-- A number of repetitions, with the blanks around it. -/
def readCount (flags : Flags) (cs : List Char) : Option (Nat × List Char) :=
  let cs := cs.dropWhile isBlank
  let rec digits : Nat → List Char → List Char × List Char
    | 0, cs => ([], cs)
    | fuel + 1, cs =>
      match cs with
      | [] => ([], [])
      | c :: rest =>
        if isAsciiDigit c then
          let (ds, rest) := digits fuel (flags.skip rest)
          (c :: ds, rest)
        else ([], c :: rest)
  let (ds, rest) := digits cs.length cs
  let n := ds.foldl (fun n c => n * 10 + (c.toNat - '0'.toNat)) 0
  if ds.isEmpty || n > 0xFFFFFFFF then none else some (n, rest.dropWhile isBlank)

/-- The bounds of a counted repetition and the closing brace, from behind the opening one. -/
def readBounds (flags : Flags) (cs : List Char) :
    Option (Nat × Option Nat × List Char) := do
  let (least, rest) ← readCount flags (flags.skip cs)
  match rest with
  | '\x7d' :: rest => some (least, some least, rest)
  | ',' :: rest =>
    match flags.skip rest with
    | '\x7d' :: rest => some (least, none, rest)
    | rest =>
      let (most, rest) ← readCount flags rest
      match rest with
      | '\x7d' :: rest =>
        guard (least ≤ most)
        some (least, some most, rest)
      | _ => none
  | _ => none

/-- The mark behind a repetition that turns its preference around, if it stands there. -/
def readGreed (cs : List Char) : Bool × List Char :=
  match cs with
  | '?' :: rest => (false, rest)
  | _ => (true, cs)

/-- The characters of the dot. Without Unicode it would match parts of characters and is refused. -/
def Flags.dot? (flags : Flags) : Option CharSet :=
  if !flags.unicode then none
  else if flags.dotAll then some (.property .any)
  else if flags.returnEndsLine then some (.compl ((CharSet.single '\n').union (.single '\r')))
  else some (.compl (.single '\n'))

/-- The condition that a caret stands for. -/
def Flags.caret (flags : Flags) : Anchor :=
  if flags.multiLine then (if flags.returnEndsLine then .returnLineStart else .lineStart)
  else .textStart

/-- The condition that a dollar sign stands for. -/
def Flags.dollar (flags : Flags) : Anchor :=
  if flags.multiLine then (if flags.returnEndsLine then .returnLineEnd else .lineEnd)
  else .textEnd

/-- Add an item to the sequence. -/
def Reading.addItem (r : Reading) : Item → Reading
  | .literal c => r.add (.one (r.flags.literal c)) 0 true
  | .set set => r.add (.one set) 0 true
  | .anchor a => r.add (.anchor a) 0 true

/-- One step through a pattern: the item, operator or parenthesis that the text begins with. -/
def Reading.step (r : Reading) : List Char → Option (Reading × List Char)
  | [] => none
  | '(' :: rest => r.readGroup rest
  | ')' :: rest => r.closeGroup?.map (fun r => (r, rest))
  | '|' :: rest =>
    some ({ r with pieces := [], branches := Piece.sequence r.pieces.reverse :: r.branches }, rest)
  | '[' :: rest => do
    let (level, rest) ← openSet r.flags rest
    let (set, rest) ← readSet r.flags (rest.length + 1) level [] rest
    some (r.add (.one set) 1 true, rest)
  | '?' :: rest =>
    let (greedy, rest) := readGreed rest
    (r.repeatLast? 0 (some 1) greedy).map (fun r => (r, rest))
  | '*' :: rest =>
    let (greedy, rest) := readGreed rest
    (r.repeatLast? 0 none greedy).map (fun r => (r, rest))
  | '+' :: rest =>
    let (greedy, rest) := readGreed rest
    (r.repeatLast? 1 none greedy).map (fun r => (r, rest))
  | '\x7b' :: rest => do
    let (least, most, rest) ← readBounds r.flags rest
    let (greedy, rest) := readGreed (r.flags.skip rest)
    let r ← r.repeatLast? least most greedy
    some (r, rest)
  | '\\' :: rest => do
    let (item, rest) ← readEscape r.flags rest
    some (r.addItem item, rest)
  | '.' :: rest => do
    let set ← r.flags.dot?
    some (r.add (.one set) 0 true, rest)
  | '^' :: rest => some (r.addItem (.anchor r.flags.caret), rest)
  | '$' :: rest => some (r.addItem (.anchor r.flags.dollar), rest)
  | c :: rest => some (r.addItem (.literal c), rest)

/-- Read a pattern to its end. Every turn reads a character at least, so the length of the text and one
is fuel enough. -/
def Reading.finish : Nat → Reading → List Char → Option Piece
  | 0, _, _ => none
  | fuel + 1, r, cs =>
    match r.flags.skip cs with
    | [] => if r.groups.isEmpty then some r.body else none
    | rest =>
      match r.step rest with
      | some (r, rest) => finish fuel r rest
      | none => none

/-- How deep the expressions of a pattern may be nested. -/
def maxDepth : Nat := 250

/-- The expression that a pattern denotes where it begins with the given flags, nothing if the text is no
pattern. -/
def readExpression (flags : Flags) (source : String) : Option Expression :=
  let cs := source.toList
  match Reading.finish (cs.length + 1) { flags := flags } cs with
  | some piece => if piece.depth ≤ maxDepth then some piece.expression else none
  | none => none

end Acceptance.Pattern
