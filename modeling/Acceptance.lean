import Acceptance.Main
import Acceptance.Proofs.Document.Reading
import Acceptance.Run.Collector
import Acceptance.Run.Execution
import Acceptance.Run.PendingPolicy
import Acceptance.Proofs.Document.Nesting
import Acceptance.Proofs.Document.Language
import Acceptance.Proofs.Document.Recognition
import Acceptance.Proofs.Document.Course
import Acceptance.Proofs.Document.LineEvents
import Acceptance.Proofs.Load.Draft
import Acceptance.Proofs.Load.History
import Acceptance.Proofs.Load.Tags
import Acceptance.Proofs.Load.Spans
import Acceptance.Proofs.Load.Steps
import Acceptance.Proofs.Load.Blocks
import Acceptance.Proofs.Outline.Binding
import Acceptance.Proofs.Outline.Expansion
import Acceptance.Proofs.Outline.Levels
import Acceptance.Proofs.Document.Logging
import Acceptance.Proofs.Document.Opening
import Acceptance.Proofs.Load.Warnings
import Acceptance.Proofs.Load.Cases
import Acceptance.Proofs.Load.Count
import Acceptance.Proofs.Load.Scopes
import Acceptance.Proofs.Load.Backgrounds
import Acceptance.Proofs.Load.Bindings
import Acceptance.Proofs.Load.Sources
import Acceptance.Proofs.Load.Remarks
import Acceptance.Proofs.Load.Layout
import Acceptance.Proofs.Document.Retry
import Acceptance.Proofs.Tag.Selection
import Acceptance.Proofs.Run.FailFast
import Acceptance.Proofs.Run.Protocol
import Acceptance.Proofs.Run.Counters
import Acceptance.Proofs.Outline.Substitution
import Acceptance.Proofs.Run.Isolation
import Acceptance.Proofs.Command.Check
import Acceptance.Proofs.Load.Multiline
import Acceptance.Proofs.Document.RowOrder
import Acceptance.Proofs.Document.StepText
import Acceptance.Proofs.Load.RowNames
import Acceptance.Proofs.Document.TableRow
import Acceptance.Proofs.Load.Tables
import Acceptance.Proofs.Tag.Language
import Acceptance.Proofs.Tag.Display
import Acceptance.Proofs.Step.Resolution
import Acceptance.Proofs.Table.Shape
import Acceptance.Proofs.Load.Identifiers
import Acceptance.Proofs.Grammar.Declaration
import Acceptance.Proofs.Load.Description
