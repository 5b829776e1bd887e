import Mathlib.Data.List.Basic
import Acceptance.Proofs.Run.Protocol
import Acceptance.Run.Collector

/-!
# Counters that agree

A collector counts steps and keeps records of test cases. What it has seen of a suite is what it sees of each
test case, put together in order (`Suite.collected_eq_join`), so whatever adds up for single test cases adds
up for the suite (`Reconciled`). Whether pending scenarios fail changes nothing but the status of those that
are pending (`TestCase.Turns`).
-/

set_option autoImplicit false

namespace Acceptance

variable {W : Type}

namespace StepCounts

/-- The number of steps. -/
def total (c : StepCounts) : Nat :=
  c.passed + c.failed + c.errored + c.undefined

/-- The numbers of the steps of two runs. -/
def add (first second : StepCounts) : StepCounts where
  passed := first.passed + second.passed
  failed := first.failed + second.failed
  errored := first.errored + second.errored
  undefined := first.undefined + second.undefined

/-- Two runs have as many steps as the one and the other. -/
theorem total_add (first second : StepCounts) : (first.add second).total = first.total + second.total := by
  simp only [total, add]
  omega

end StepCounts

namespace Collector

/-- What two collectors have seen, one after the other. -/
def append (first second : Collector) : Collector where
  records := first.records ++ second.records
  steps := first.steps.add second.steps
  calls := first.calls ++ second.calls

instance : Append Collector := ⟨append⟩

/-- What collectors have seen, one after the other. -/
def join (collectors : List Collector) : Collector :=
  collectors.foldr (· ++ ·) {}

/-- The number of calls of a hook. -/
def hookCount (c : Collector) (hook : String) : Nat :=
  c.calls.countP fun h => h.hook == hook

section Append

variable (c first second third : Collector) (notices more : List Notice)

/-- Records are joined in order. -/
@[simp] theorem records_append : (first ++ second).records = first.records ++ second.records := rfl

/-- Calls are joined in order. -/
@[simp] theorem calls_append : (first ++ second).calls = first.calls ++ second.calls := rfl

/-- Steps are counted together. -/
@[simp] theorem steps_append : (first ++ second).steps = first.steps.add second.steps := rfl

/-- Records under a label are added up. -/
@[simp] theorem count_append (label : String) :
    (first ++ second).count label = first.count label + second.count label :=
  List.countP_append

/-- Calls of a hook are added up. -/
@[simp] theorem hookCount_append (hook : String) :
    (first ++ second).hookCount hook = first.hookCount hook + second.hookCount hook :=
  List.countP_append

/-- A collector that has seen nothing adds nothing. -/
theorem append_empty : first ++ ({} : Collector) = first := by
  obtain ⟨records, steps, calls⟩ := first
  change append _ _ = _
  simp [append, StepCounts.add]

/-- Collectors are joined in any grouping. -/
theorem append_assoc : first ++ second ++ third = first ++ (second ++ third) := by
  change append (append _ _) _ = append _ (append _ _)
  simp [append, StepCounts.add, Nat.add_assoc]

/-- **One notice** adds what a new collector sees of it. -/
theorem observe_eq_append (notice : Notice) : c.observe notice = c ++ ({} : Collector).observe notice := by
  obtain ⟨records, steps, calls⟩ := c
  change _ = append _ _
  cases notice <;> simp [observe, record, call, append, StepCounts.add]

/-- **Notices** add what a new collector sees of them. -/
theorem observeAll_eq_append : c.observeAll notices = c ++ ({} : Collector).observeAll notices := by
  induction notices generalizing c with
  | nil => exact (append_empty c).symm
  | cons notice notices ih =>
    have hfirst : c.observeAll (notice :: notices) = (c.observe notice).observeAll notices := rfl
    have hnew : ({} : Collector).observeAll (notice :: notices) =
        (({} : Collector).observe notice).observeAll notices := rfl
    rw [hfirst, hnew, ih (c.observe notice), ih (({} : Collector).observe notice), observe_eq_append c,
      append_assoc]

/-- What is collected from notices one after another is joined from what is collected from either part. -/
theorem observeAll_append :
    ({} : Collector).observeAll (notices ++ more) =
      ({} : Collector).observeAll notices ++ ({} : Collector).observeAll more := by
  have hfold : ({} : Collector).observeAll (notices ++ more) =
      (({} : Collector).observeAll notices).observeAll more := List.foldl_append
  rw [hfold, observeAll_eq_append]

end Append

/-- The tests run are counted by the labels of their records. -/
theorem testsRun_eq (c : Collector) :
    c.testsRun = c.count "passed" + c.count "failed" + c.count "errored" + c.count "skipped" := by
  unfold testsRun count
  induction c.records with
  | nil => rfl
  | cons r records ih =>
    simp only [List.countP_cons, List.length_cons, ih]
    cases r.status <;> simp [TestStatus.label] <;> omega

/-- A run was successful if no test of it failed and none was in error. -/
theorem wasSuccessful_iff (c : Collector) :
    c.wasSuccessful = true ↔ c.count "failed" + c.count "errored" = 0 := by
  unfold wasSuccessful count
  induction c.records with
  | nil => simp
  | cons r records ih =>
    simp only [List.all_cons, Bool.and_eq_true, ih, List.countP_cons]
    cases r.status <;> simp [TestStatus.isGood, TestStatus.label]

end Collector

/-! ## Counters of a suite -/

/-- A collector whose counters agree with one another and with the test cases of a suite. -/
structure Reconciled (failOnPending : Bool) (suite : Suite W) (c : Collector) : Prop where
  testsRun : c.testsRun = suite.length
  started : c.hookCount "start_step" = c.steps.total
  stopped : c.hookCount "stop_step" = c.steps.total
  errored : c.count "errored" = c.steps.errored
  failed : c.count "failed" = c.steps.failed + if failOnPending then c.steps.undefined else 0
  skipped : c.count "skipped" =
    (if failOnPending then 0 else c.steps.undefined) + suite.countP TestCase.hasNothingToRun

namespace Reconciled

variable {failOnPending : Bool} {first second : Suite W} {c d : Collector}

/-- No tests are reconciled with no notices. -/
theorem nil (failOnPending : Bool) : Reconciled failOnPending ([] : Suite W) {} := by
  cases failOnPending <;> exact ⟨rfl, rfl, rfl, rfl, rfl, rfl⟩

/-- **Counters that agree add up** to counters that agree. -/
theorem append (hc : Reconciled failOnPending first c) (hd : Reconciled failOnPending second d) :
    Reconciled failOnPending (first ++ second) (c ++ d) := by
  obtain ⟨hcTests, hcStarted, hcStopped, hcErrored, hcFailed, hcSkipped⟩ := hc
  obtain ⟨hdTests, hdStarted, hdStopped, hdErrored, hdFailed, hdSkipped⟩ := hd
  have htests : (c ++ d).testsRun = c.testsRun + d.testsRun := List.length_append
  constructor
  · rw [htests, hcTests, hdTests, List.length_append]
  · rw [Collector.hookCount_append, hcStarted, hdStarted, Collector.steps_append, StepCounts.total_add]
  · rw [Collector.hookCount_append, hcStopped, hdStopped, Collector.steps_append, StepCounts.total_add]
  · simp only [Collector.count_append, Collector.steps_append, StepCounts.add, hcErrored, hdErrored]
  · simp only [Collector.count_append, Collector.steps_append, StepCounts.add, hcFailed, hdFailed]
    split <;> omega
  · simp only [Collector.count_append, Collector.steps_append, StepCounts.add, List.countP_append, hcSkipped,
      hdSkipped]
    split <;> omega

/-- A step that succeeds is counted as passed, and makes no record. -/
theorem of_success {r : StepReport} (h : r.verdict = .success) :
    Reconciled failOnPending ([] : Suite W) (({} : Collector).observeAll r.notices) := by
  have hseen : ({} : Collector).observeAll r.notices = {
      steps := { passed := 1 }
      calls := [⟨"start_step", r.step.display⟩, ⟨"add_step_success", r.step.display⟩,
        ⟨"stop_step", r.step.display⟩] } := by
    rw [StepReport.notices, h]
    rfl
  rw [hseen]
  cases failOnPending <;> exact ⟨rfl, rfl, rfl, rfl, rfl, rfl⟩

/-- The notices of successful steps before any test is recorded are reconciled with no tests. -/
theorem of_successes {reports : List StepReport} (h : ∀ r ∈ reports, r.verdict = .success) :
    Reconciled failOnPending ([] : Suite W)
      (({} : Collector).observeAll (reports.flatMap StepReport.notices)) := by
  induction reports with
  | nil => exact nil failOnPending
  | cons r reports ih =>
    obtain ⟨hr, hreports⟩ := List.forall_mem_cons.mp h
    rw [List.flatMap_cons, Collector.observeAll_append]
    exact (of_success hr).append (ih hreports)

/-- **The last step and the outcome** of a test case are counted alike. -/
theorem of_concludes {test : TestCase W} {last : Option StepReport} {outcome : Notice}
    (h : Concludes failOnPending test.info last outcome)
    (hnothing : last = none ↔ test.hasNothingToRun = true) :
    Reconciled failOnPending [test] (({} : Collector).observeAll
      (last.toList.flatMap StepReport.notices ++ [outcome, .stopTest test.info])) := by
  have hcount : [test].countP TestCase.hasNothingToRun = if last = none then 1 else 0 := by
    rw [List.countP_singleton]
    simp only [hnothing]
  cases h with
  | nothing reason => cases failOnPending <;> exact ⟨rfl, rfl, rfl, rfl, rfl, by rw [hcount]; rfl⟩
  | success step => cases failOnPending <;> exact ⟨rfl, rfl, rfl, rfl, rfl, by rw [hcount]; rfl⟩
  | failure step reason index =>
    cases failOnPending <;> exact ⟨rfl, rfl, rfl, rfl, rfl, by rw [hcount]; rfl⟩
  | error step reason index =>
    cases failOnPending <;> exact ⟨rfl, rfl, rfl, rfl, rfl, by rw [hcount]; rfl⟩
  | pendingFails step hflag =>
    subst hflag
    exact ⟨rfl, rfl, rfl, rfl, rfl, by rw [hcount]; rfl⟩
  | pendingSkips step hflag =>
    subst hflag
    exact ⟨rfl, rfl, rfl, rfl, rfl, by rw [hcount]; rfl⟩

/-- **The counters of one test case** agree. -/
theorem of_reports {test : TestCase W} {notices : List Notice} {reports : List StepReport} {outcome : Notice}
    (h : test.Reports failOnPending notices reports outcome) :
    Reconciled failOnPending [test] (({} : Collector).observeAll notices) := by
  have hsplit : reports = reports.dropLast ++ reports.getLast?.toList := by
    cases hlast : reports.getLast? with
    | none => rw [List.getLast?_eq_none_iff.mp hlast]; rfl
    | some r => exact (List.dropLast_append_getLast? r hlast).symm
  have hnothing : reports.getLast? = none ↔ test.hasNothingToRun = true := by
    rw [List.getLast?_eq_none_iff]
    exact h.nothing
  have hstart : Reconciled failOnPending ([] : Suite W)
      (({} : Collector).observeAll [.startTest test.info]) := by
    cases failOnPending <;> exact ⟨rfl, rfl, rfl, rfl, rfl, rfl⟩
  have hnotices : notices = [.startTest test.info] ++ (reports.dropLast.flatMap StepReport.notices ++
      (reports.getLast?.toList.flatMap StepReport.notices ++ [outcome, .stopTest test.info])) := by
    rw [h.notices, List.singleton_append, ← List.append_assoc, ← List.flatMap_append, ← hsplit]
    rfl
  rw [hnotices, Collector.observeAll_append, Collector.observeAll_append]
  exact hstart.append ((of_successes h.successes).append (of_concludes h.concludes hnothing))

end Reconciled

/-! ## Pending scenarios -/

/-- The reports of steps make no record of a test. -/
theorem Collector.records_observeAll_reports (reports : List StepReport) :
    (({} : Collector).observeAll (reports.flatMap StepReport.notices)).records = [] := by
  induction reports with
  | nil => rfl
  | cons r reports ih =>
    have hfirst : (({} : Collector).observeAll r.notices).records = [] := by
      obtain ⟨step, verdict⟩ := r
      cases verdict <;> rfl
    rw [List.flatMap_cons, observeAll_append, records_append, hfirst, ih]
    rfl

namespace TestCase

/-- There are steps to run, and the first one that does not succeed is undefined. -/
def IsPending (fresh : W) (c : TestCase W) : Prop :=
  c.hasNothingToRun = false ∧ MeetsUndefined c.numberedSteps fresh

/-- What a new collector sees of the test case. -/
def collected (failOnPending : Bool) (fresh : W) (c : TestCase W) : Collector :=
  ({} : Collector).observeAll (c.run failOnPending fresh).notices

/-- What is seen of a test case where pending scenarios are skipped, and where they fail. -/
inductive Turns (fresh : W) (c : TestCase W) : Collector → Collector → Prop where
  | same (seen : Collector) : ¬ c.IsPending fresh → Turns fresh c seen seen
  /-- What comes before the outcome is the same, and so is the message. -/
  | pending (seen : Collector) (message : String) : c.IsPending fresh → seen.records = [] →
      Turns fresh c
        ((seen.record c.info (.skipped message)).call "stop_test" c.info.id)
        ((seen.record c.info (.failed message)).call "stop_test" c.info.id)

variable {fresh : W} {c : TestCase W}

/-- A case ends as pending exactly if it is pending. -/
theorem pending_iff : (∃ names, (c.ran fresh).halt = some (.pending names)) ↔ c.IsPending fresh := by
  rcases c.ran_cases fresh with ⟨hnothing, reason, hran⟩ | ⟨hsome, -, hran⟩
  · refine iff_of_false (by rw [hran]; nofun) fun hpending => ?_
    have hsome := hpending.1
    rw [hnothing] at hsome
    cases hsome
  · rw [hran.pending_iff]
    exact (and_iff_right hsome).symm

/-- What a case notifies while it runs are reports of steps. -/
theorem exists_reports_ran (fresh : W) (c : TestCase W) :
    ∃ reports : List StepReport, (c.ran fresh).notices = reports.flatMap StepReport.notices := by
  rcases c.ran_cases fresh with ⟨-, reason, hran⟩ | ⟨-, -, hran⟩
  · exact ⟨[], by rw [hran]; rfl⟩
  · cases hran with
    | passed hall hran => exact ⟨_, by rw [hran]⟩
    | halted before s index after verdict halt hsplit hbefore hstops hran => exact ⟨_, by rw [hran]⟩

/-- What is collected from a case is its start, the notices of its steps, its outcome and its stop. -/
theorem collected_eq (failOnPending : Bool) (fresh : W) (c : TestCase W) :
    c.collected failOnPending fresh =
      ((({} : Collector).observeAll (.startTest c.info :: (c.ran fresh).notices)).observe
        (outcome failOnPending c.info (c.ran fresh).halt)).observe (.stopTest c.info) := by
  unfold collected
  rw [run_eq]
  exact List.foldl_append

/-- Up to the outcome of a test case nothing is recorded. -/
theorem records_before_outcome (fresh : W) (c : TestCase W) :
    (({} : Collector).observeAll (.startTest c.info :: (c.ran fresh).notices)).records = [] := by
  obtain ⟨reports, hreports⟩ := c.exists_reports_ran fresh
  have hstart : ({} : Collector).observeAll (.startTest c.info :: (c.ran fresh).notices) =
      (({} : Collector).observe (.startTest c.info)).observeAll (c.ran fresh).notices := rfl
  rw [hstart, Collector.observeAll_eq_append, Collector.records_append, hreports,
    Collector.records_observeAll_reports]
  rfl

/-- **The setting turns skipped into failed**, for pending scenarios and for nothing else. -/
theorem turns (fresh : W) (c : TestCase W) :
    c.Turns fresh (c.collected false fresh) (c.collected true fresh) := by
  have hrecords := c.records_before_outcome fresh
  rw [collected_eq, collected_eq]
  -- up to the outcome nothing depends on the setting, and nothing is recorded
  generalize ({} : Collector).observeAll (.startTest c.info :: (c.ran fresh).notices) = seen at hrecords ⊢
  by_cases hpending : c.IsPending fresh
  · obtain ⟨names, hhalt⟩ := pending_iff.mpr hpending
    rw [hhalt]
    exact .pending seen (Halt.pending names).message hpending hrecords
  · have houtcome : outcome true c.info (c.ran fresh).halt = outcome false c.info (c.ran fresh).halt := by
      cases hhalt : (c.ran fresh).halt with
      | none => rfl
      | some halt =>
        cases halt with
        | pending names => exact absurd (pending_iff.mp ⟨names, hhalt⟩) hpending
        | skip reason | stepFailed index keyword text error => rfl
    rw [houtcome]
    exact .same _ hpending

/-- Turning pending cases into failures leaves the counts of steps. -/
theorem Turns.steps_eq {off on : Collector} (h : c.Turns fresh off on) : on.steps = off.steps := by
  cases h <;> rfl

end TestCase

namespace Suite

/-- What a new collector sees of a run of the suite. -/
def collected (failOnPending : Bool) (fresh : W) (suite : Suite W) : Collector :=
  ({} : Collector).observeAll (suite.notices failOnPending fresh)

variable (failOnPending : Bool) (fresh : W)

/-- What is collected from a suite is joined from its first case and from the others. -/
theorem collected_cons (c : TestCase W) (suite : Suite W) :
    collected failOnPending fresh (c :: suite) =
      c.collected failOnPending fresh ++ suite.collected failOnPending fresh := by
  have hnotices : notices failOnPending fresh (c :: suite) =
      (c.run failOnPending fresh).notices ++ suite.notices failOnPending fresh := rfl
  rw [collected, hnotices, Collector.observeAll_append]
  rfl

/-- **A suite is collected** test case by test case. -/
theorem collected_eq_join (suite : Suite W) :
    suite.collected failOnPending fresh = .join (suite.map (TestCase.collected failOnPending fresh)) := by
  induction suite with
  | nil => rfl
  | cons c suite ih =>
    rw [collected_cons, ih]
    rfl

/-- What is collected from a suite is reconciled with it. -/
theorem reconciled_collected (suite : Suite W) :
    Reconciled failOnPending suite (suite.collected failOnPending fresh) := by
  induction suite with
  | nil => exact .nil failOnPending
  | cons c suite ih =>
    obtain ⟨reports, outcome, hreports⟩ := c.exists_reports failOnPending fresh
    rw [collected_cons]
    exact (Reconciled.of_reports hreports).append ih

/-- The counts of steps are the same whether pending cases fail or not. -/
theorem steps_collected (suite : Suite W) :
    (suite.collected true fresh).steps = (suite.collected false fresh).steps := by
  induction suite with
  | nil => rfl
  | cons c suite ih =>
    have hc := (c.turns fresh).steps_eq
    rw [collected_cons, collected_cons]
    change StepCounts.mk _ _ _ _ = StepCounts.mk _ _ _ _
    rw [hc, ih]

/-- **The counters of a suite** agree with one another and with the number of test cases, whether pending
scenarios fail or not. The two runs are seen alike but for the outcomes of the pending scenarios, and leave
the same worlds. -/
theorem counters_reconcile (suite : Suite W) :
    (∀ failOnPending, let c := suite.collected failOnPending fresh
      Reconciled failOnPending suite c ∧
        c.testsRun = c.count "passed" + c.count "failed" + c.count "errored" + c.count "skipped" ∧
        (c.wasSuccessful = true ↔ c.count "failed" + c.count "errored" = 0) ∧
        c = .join (suite.map (TestCase.collected failOnPending fresh))) ∧
      (suite.collected true fresh).steps = (suite.collected false fresh).steps ∧
      ∀ c : TestCase W, c.Turns fresh (c.collected false fresh) (c.collected true fresh) ∧
        (c.run true fresh).world = (c.run false fresh).world := by
  refine ⟨?_, steps_collected fresh suite, fun c => ⟨c.turns fresh, rfl⟩⟩
  intro failOnPending c
  exact ⟨reconciled_collected failOnPending fresh suite, c.testsRun_eq, c.wasSuccessful_iff,
    collected_eq_join failOnPending fresh suite⟩

end Suite

end Acceptance
