import Acceptance.Proofs.Run.FailFast

/-!
# What a test case reports

A test case reports its beginning, every step that it runs, one outcome and its end. Only the last step may
have done other than succeed, and that step decides on the outcome (`TestCase.Reports`). A suite reports the
same of each of its test cases, one behind the other, whatever becomes of the others
(`Suite.notices_protocol`).
-/

set_option autoImplicit false

namespace Acceptance

variable {W : Type}

/-- The outcome of a test case, by the last of the reports of its steps. -/
inductive Concludes (failOnPending : Bool) (test : TestInfo) : Option StepReport → Notice → Prop where
  /-- No step was run. -/
  | nothing (reason : String) : Concludes failOnPending test none (.skip test reason)
  | success (step : StepInfo) : Concludes failOnPending test (some ⟨step, .success⟩) (.success test)
  | failure (step : StepInfo) (reason : StepError) (index : Nat) :
      Concludes failOnPending test (some ⟨step, .failure reason⟩)
        (.failure test (.stepFailed index step.keyword step.text reason))
  | error (step : StepInfo) (reason : StepError) (index : Nat) :
      Concludes failOnPending test (some ⟨step, .error reason⟩)
        (.error test (.stepFailed index step.keyword step.text reason))
  | pendingFails (step : StepInfo) : failOnPending = true →
      Concludes failOnPending test (some ⟨step, .undefined⟩) (.failure test (.pending [step.display]))
  | pendingSkips (step : StepInfo) : failOnPending = false →
      Concludes failOnPending test (some ⟨step, .undefined⟩)
        (.skip test (Halt.pending [step.display]).message)

namespace TestCase

/-- The steps of the test case in the order in which they run, those of the backgrounds in front. -/
def numberedSteps (c : TestCase W) : List (Step W × Nat) :=
  (c.scenario.map Scenario.numberedSteps).getD []

/-- Whether the test case has no scenario, or one without steps of its own. -/
def hasNothingToRun (c : TestCase W) : Bool :=
  c.scenario.all fun s => s.steps.isEmpty

/-- The steps and the outcome that the notices of a test case report. -/
structure Reports (failOnPending : Bool) (c : TestCase W) (notices : List Notice)
    (reports : List StepReport) (outcome : Notice) : Prop where
  notices : notices =
    .startTest c.info :: reports.flatMap StepReport.notices ++ [outcome, .stopTest c.info]
  /-- Only the last step may have done other than succeed. -/
  successes : ∀ r ∈ reports.dropLast, r.verdict = .success
  concludes : Concludes failOnPending c.info reports.getLast? outcome
  nothing : reports = [] ↔ c.hasNothingToRun = true
  /-- The steps are the first ones of the test case, in order, and all of them where it succeeds. -/
  steps : reports.map (·.step) <+: c.numberedSteps.map fun s => s.1.info
  complete : outcome = .success c.info → reports.map (·.step) = c.numberedSteps.map fun s => s.1.info

end TestCase

namespace Scenario

/-- A scenario with steps of its own has steps to run. -/
theorem numberedSteps_ne_nil {s : Scenario W} (h : s.steps ≠ []) : s.numberedSteps ≠ [] := by
  intro hnone
  have hall : s.allSteps = [] := by
    rw [← s.map_fst_numberedSteps, hnone]
    rfl
  exact h (List.append_eq_nil_iff.mp hall).2

end Scenario

/-- **A step that stops a scenario** decides on the outcome of the test case. -/
theorem Step.Stops.concludes {s : Step W} {index : Nat} {world : W} {verdict : StepVerdict} {halt : Halt}
    (h : s.Stops index world verdict halt) (failOnPending : Bool) (test : TestInfo) :
    Concludes failOnPending test (some ⟨s.info, verdict⟩)
      (TestCase.outcome failOnPending test (some halt)) := by
  cases h with
  | undefined =>
    cases failOnPending with
    | true => exact .pendingFails s.info rfl
    | false => exact .pendingSkips s.info rfl
  | failure reason hfails hfailure =>
    have houtcome : TestCase.outcome failOnPending test (some (.stepFailed index s.keyword s.text reason)) =
        .failure test (.stepFailed index s.keyword s.text reason) := by
      simp [TestCase.outcome, Halt.isFailure, hfailure]
    rw [houtcome]
    exact .failure s.info reason index
  | error reason hfails herror =>
    have houtcome : TestCase.outcome failOnPending test (some (.stepFailed index s.keyword s.text reason)) =
        .error test (.stepFailed index s.keyword s.text reason) := by
      simp [TestCase.outcome, Halt.isFailure, herror]
    rw [houtcome]
    exact .error s.info reason index

/-- A case that a step has stopped is not a success, whatever becomes of pending ones. -/
theorem Step.Stops.outcome_ne_success {s : Step W} {index : Nat} {world : W} {verdict : StepVerdict}
    {halt : Halt} (h : s.Stops index world verdict halt) (failOnPending : Bool) (test : TestInfo) :
    TestCase.outcome failOnPending test (some halt) ≠ .success test := by
  intro hsuccess
  have hconcludes := h.concludes failOnPending test
  rw [hsuccess] at hconcludes
  cases hconcludes
  cases h

/-- The reports of successful steps are about these steps, in order. -/
theorem map_step_successes (steps : List (Step W × Nat)) :
    (successes steps).map (·.step) = steps.map fun s => s.1.info :=
  List.map_map

/-- The reports of successful steps have the verdict of success. -/
theorem verdict_of_mem_successes {steps : List (Step W × Nat)} :
    ∀ r ∈ successes steps, r.verdict = .success := by
  intro r hr
  obtain ⟨s, -, rfl⟩ := List.mem_map.mp hr
  rfl

namespace TestCase

variable {failOnPending : Bool} {fresh : W} {c : TestCase W}

/-- A case with nothing to run reports its start, that it is skipped, and its stop. -/
theorem reports_of_nothing {reason : String} (hnothing : c.hasNothingToRun = true) :
    c.Reports failOnPending [.startTest c.info, .skip c.info reason, .stopTest c.info] []
      (.skip c.info reason) where
  notices := rfl
  successes := List.forall_mem_nil _
  concludes := .nothing reason
  nothing := iff_of_true rfl hnothing
  steps := List.nil_prefix
  complete := nofun

/-- A test case with steps reports those that are run, and by the last of them the outcome. -/
theorem reports_of_failFast (failOnPending : Bool) {ran : Run W} (hsome : c.hasNothingToRun = false)
    (hsteps : c.numberedSteps ≠ []) (h : FailFast c.numberedSteps fresh ran) :
    ∃ reports, c.Reports failOnPending
      (.startTest c.info :: ran.notices ++ [outcome failOnPending c.info ran.halt, .stopTest c.info])
      reports (outcome failOnPending c.info ran.halt) := by
  cases h with
  | passed hall hran =>
    subst hran
    obtain ⟨before, s, hsplit⟩ := (List.eq_nil_or_concat c.numberedSteps).resolve_left hsteps
    have hlast : (successes c.numberedSteps).getLast? = some ⟨s.1.info, .success⟩ := by
      rw [hsplit, List.concat_eq_append, successes_append]
      exact List.getLast?_concat
    have hnonempty : successes c.numberedSteps ≠ [] := by
      intro hnone
      rw [hnone] at hlast
      cases hlast
    refine ⟨successes c.numberedSteps, rfl, ?_, ?_, ?_, ?_, fun _ => map_step_successes _⟩
    · intro r hr
      exact verdict_of_mem_successes r (List.dropLast_subset _ hr)
    · rw [hlast]
      exact .success s.1.info
    · exact iff_of_false hnonempty (by rw [hsome]; exact Bool.false_ne_true)
    · exact ⟨[], by rw [List.append_nil, map_step_successes]⟩
  | halted before s index after verdict halt hsplit hbefore hstops hran =>
    subst hran
    refine ⟨successes before ++ [⟨s.info, verdict⟩], rfl, ?_, ?_, ?_, ?_, ?_⟩
    · rw [List.dropLast_concat]
      exact verdict_of_mem_successes
    · rw [List.getLast?_concat]
      exact hstops.concludes failOnPending c.info
    · exact iff_of_false (by simp) (by rw [hsome]; exact Bool.false_ne_true)
    · refine ⟨after.map fun s => s.1.info, ?_⟩
      rw [hsplit, List.map_append, map_step_successes]
      simp
    · intro hsuccess
      exact absurd hsuccess (hstops.outcome_ne_success failOnPending c.info)

/-- What becomes of the scenario of the test case, whatever is reported of that. -/
def ran (fresh : W) (c : TestCase W) : Run W :=
  match c.scenario with
  | some scenario => scenario.run fresh
  | none => ⟨[], fresh, some (.skip noScenarios)⟩

/-- A run of a case is the run of its steps between the start and the outcome. -/
theorem run_eq (failOnPending : Bool) (fresh : W) (c : TestCase W) :
    c.run failOnPending fresh =
      { c.ran fresh with
        notices := .startTest c.info :: (c.ran fresh).notices ++
          [outcome failOnPending c.info (c.ran fresh).halt, .stopTest c.info] } :=
  rfl

/-- There is nothing to run, or the steps of the test case are run. -/
theorem ran_cases (fresh : W) (c : TestCase W) :
    (c.hasNothingToRun = true ∧ ∃ reason, c.ran fresh = ⟨[], fresh, some (.skip reason)⟩) ∨
    (c.hasNothingToRun = false ∧ c.numberedSteps ≠ [] ∧ FailFast c.numberedSteps fresh (c.ran fresh)) := by
  unfold ran hasNothingToRun numberedSteps
  cases c.scenario with
  | none => exact .inl ⟨rfl, _, rfl⟩
  | some s =>
    rcases s.failFast_run fresh with ⟨hsteps, hran⟩ | ⟨hsteps, hran, -, -⟩
    · refine .inl ⟨?_, _, hran⟩
      rw [Option.all_some, hsteps]
      rfl
    · refine .inr ⟨?_, Scenario.numberedSteps_ne_nil hsteps, hran⟩
      rw [Option.all_some]
      exact List.isEmpty_eq_false_iff.mpr hsteps

/-- **Every test case** keeps to the protocol. -/
theorem exists_reports (failOnPending : Bool) (fresh : W) (c : TestCase W) :
    ∃ reports outcome, c.Reports failOnPending (c.run failOnPending fresh).notices reports outcome := by
  rw [run_eq]
  rcases c.ran_cases fresh with ⟨hnothing, reason, hran⟩ | ⟨hsome, hsteps, hran⟩
  · rw [hran]
    exact ⟨_, _, reports_of_nothing hnothing⟩
  · obtain ⟨reports, hreports⟩ := reports_of_failFast failOnPending hsome hsteps hran
    exact ⟨reports, _, hreports⟩

end TestCase

namespace Suite

/-- Everything that is reported when a suite is run. -/
def notices (failOnPending : Bool) (fresh : W) (suite : Suite W) : List Notice :=
  (suite.run failOnPending fresh).flatMap Run.notices

/-- **The protocol of a suite.** Its notices are those of its test cases, one behind the other, and each test
case reports its beginning, the steps that it runs, the outcome that the last of these decides on, and its
end. -/
theorem notices_protocol (failOnPending : Bool) (fresh : W) (suite : Suite W) :
    suite.notices failOnPending fresh =
        (suite.map fun c => (c.run failOnPending fresh).notices).flatten ∧
      ∀ c : TestCase W, ∃ reports outcome,
        c.Reports failOnPending (c.run failOnPending fresh).notices reports outcome := by
  refine ⟨?_, TestCase.exists_reports failOnPending fresh⟩
  rw [notices, run, List.flatMap_map, List.flatMap_def]

end Suite

end Acceptance
