import Acceptance.Run.Notice

/-!
# Collecting results

A collector keeps a record of every test case, counts the outcomes of steps, and lists the notices that
it has seen.
-/

set_option autoImplicit false

namespace Acceptance

/-- The outcome of a test case. -/
inductive TestStatus where
  | passed
  | failed (message : String)
  | errored (message : String)
  | skipped (message : String)
  deriving DecidableEq, Repr

namespace TestStatus

/-- The outcome in one word. -/
def label : TestStatus → String
  | passed => "passed"
  | failed _ => "failed"
  | errored _ => "errored"
  | skipped _ => "skipped"

/-- What is said about the outcome. -/
def message? : TestStatus → Option String
  | passed => none
  | failed message | errored message | skipped message => some message

/-- Whether nothing went wrong. -/
def isGood : TestStatus → Bool
  | passed | skipped _ => true
  | failed _ | errored _ => false

end TestStatus

/-- What is kept of a test case. -/
structure TestRecord where
  id : String
  tags : List String
  status : TestStatus
  deriving DecidableEq, Repr

/-- The numbers of steps by outcome. -/
structure StepCounts where
  passed : Nat := 0
  failed : Nat := 0
  errored : Nat := 0
  undefined : Nat := 0
  deriving DecidableEq, Repr

/-- A notice that was seen: its name, and what it was about. -/
structure HookCall where
  hook : String
  subject : String
  deriving DecidableEq, Repr

/-- Everything that was seen of a run. -/
structure Collector where
  records : List TestRecord := []
  steps : StepCounts := {}
  calls : List HookCall := []
  deriving DecidableEq, Repr

namespace Collector

/-- Note a call. -/
def call (c : Collector) (hook subject : String) : Collector :=
  { c with calls := c.calls ++ [⟨hook, subject⟩] }

/-- Record the outcome of a test case. -/
def record (c : Collector) (test : TestInfo) (status : TestStatus) : Collector :=
  let c := c.call status.label test.id
  { c with records := c.records ++ [⟨test.id, test.tags.names, status⟩] }

/-- Take notice. -/
def observe (c : Collector) : Notice → Collector
  | .startTest test => c.call "start_test" test.id
  | .stopTest test => c.call "stop_test" test.id
  | .success test => c.record test .passed
  | .failure test halt => c.record test (.failed halt.message)
  | .error test halt => c.record test (.errored halt.message)
  | .skip test reason => c.record test (.skipped reason)
  | .startStep step => c.call "start_step" step.display
  | .stopStep step => c.call "stop_step" step.display
  | .stepSuccess step =>
    { c with steps.passed := c.steps.passed + 1 }.call "add_step_success" step.display
  | .stepFailure step _ =>
    { c with steps.failed := c.steps.failed + 1 }.call "add_step_failure" step.display
  | .stepError step _ =>
    { c with steps.errored := c.steps.errored + 1 }.call "add_step_error" step.display
  | .stepUndefined step =>
    { c with steps.undefined := c.steps.undefined + 1 }.call "add_step_undefined" step.display

/-- Take notices in order. -/
def observeAll (c : Collector) (notices : List Notice) : Collector :=
  notices.foldl observe c

/-- The number of test cases that were recorded. -/
def testsRun (c : Collector) : Nat :=
  c.records.length

/-- The number of records whose outcome has the given label. -/
def count (c : Collector) (label : String) : Nat :=
  c.records.countP fun r => r.status.label == label

/-- The outcome first recorded for a test case. -/
def statusOf? (c : Collector) (id : String) : Option TestStatus :=
  (c.records.find? fun r => r.id == id).map (·.status)

/-- Whether nothing failed and nothing was in error. -/
def wasSuccessful (c : Collector) : Bool :=
  c.records.all fun r => r.status.isGood

end Collector

end Acceptance
