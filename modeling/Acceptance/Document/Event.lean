import Acceptance.Grammar.Basic
import Acceptance.Keyword

/-!
# Events

What a reader reports about a document, in order: the beginning and the end of every construct, and the
contents between them. Whoever receives the events builds what is wanted from them.
-/

set_option autoImplicit false

namespace Acceptance

/-- One report about a document. -/
inductive Event where
  | startParse (source : String)
  | finishParse
  | startFeature (title : String)
  | finishFeature
  | startDescription
  | finishDescription
  /-- A line of a description, or of a multiline block without the indentation of the block. -/
  | data (text : String)
  | startBackground (title : String)
  | finishBackground
  | startScenario (title : String)
  | finishScenario
  | startOutline (title : String)
  | finishOutline
  | startExamples (label : String)
  | finishExamples
  | startStep (keyword : Keyword) (text : String)
  | finishStep
  | startMultiline (indent : Nat)
  | finishMultiline
  | startTable (keys : List String)
  | tableData (cells : List String)
  | finishTable
  | tags (tags : List String)
  | comment (text : String)
  /-- A blank line, as it is, where nothing more is said about it. -/
  | whitespace (line : String)
  deriving DecidableEq, Repr

namespace Event

/-- The name of an event. -/
def name : Event → String
  | startParse _ => "start_parse"
  | finishParse => "finish_parse"
  | startFeature _ => "start_feature"
  | finishFeature => "finish_feature"
  | startDescription => "start_description"
  | finishDescription => "finish_description"
  | data _ => "data"
  | startBackground _ => "start_background"
  | finishBackground => "finish_background"
  | startScenario _ => "start_scenario"
  | finishScenario => "finish_scenario"
  | startOutline _ => "start_outline"
  | finishOutline => "finish_outline"
  | startExamples _ => "start_examples"
  | finishExamples => "finish_examples"
  | startStep _ _ => "start_step"
  | finishStep => "finish_step"
  | startMultiline _ => "start_multiline"
  | finishMultiline => "finish_multiline"
  | startTable _ => "start_hash"
  | tableData _ => "hash_data"
  | finishTable => "finish_hash"
  | tags _ => "tags"
  | comment _ => "comment"
  | whitespace _ => "whitespace"

/-- What an event carries, as texts. -/
def args : Event → List String
  | startParse text | startFeature text | startBackground text | startScenario text
  | startOutline text | startExamples text | data text | comment text | whitespace text => [text]
  | startStep keyword text => [keyword.name, text]
  | startMultiline indent => [toString indent]
  | startTable texts | tableData texts | tags texts => texts
  | finishParse | finishFeature | startDescription | finishDescription | finishBackground
  | finishScenario | finishOutline | finishExamples | finishStep | finishMultiline | finishTable => []

end Event

/-- The event that an action reports about a line, given the parts of the line. Only a step can fail
to have one, where the first part is no keyword. -/
def Grammar.Action.event (parts : List String) : Grammar.Action → Except KeywordFault Event
  | .startFeature => .ok (.startFeature (parts.headD ""))
  | .finishFeature => .ok .finishFeature
  | .startDescription => .ok .startDescription
  | .finishDescription => .ok .finishDescription
  | .data | .multilineData => .ok (.data (parts.headD ""))
  | .startBackground => .ok (.startBackground (parts.headD ""))
  | .finishBackground => .ok .finishBackground
  | .startScenario => .ok (.startScenario (parts.headD ""))
  | .finishScenario => .ok .finishScenario
  | .startOutline => .ok (.startOutline (parts.headD ""))
  | .finishOutline => .ok .finishOutline
  | .startExamples => .ok (.startExamples (parts.headD ""))
  | .finishExamples => .ok .finishExamples
  | .startStep =>
    match Keyword.read (parts.headD "") with
    | .ok keyword => .ok (.startStep keyword (parts.tail.headD ""))
    | .error fault => .error fault
  | .finishStep => .ok .finishStep
  | .startMultiline => .ok (.startMultiline (parts.headD "").length)
  | .finishMultiline => .ok .finishMultiline
  | .startTable => .ok (.startTable parts)
  | .tableData => .ok (.tableData parts)
  | .finishTable => .ok .finishTable
  | .tags => .ok (.tags parts)
  | .comment => .ok (.comment (parts.headD ""))

end Acceptance
