import Acceptance.Proofs.Run.Counters

/-!
# Test cases on their own

What a run of a suite shows of a test case (what the case leaves, its record, and its calls up to its end) is
taken from the lists that the whole run leaves, by the place of the case in the suite (`Suite.results`). It
turns out to be a function of the case (`Suite.results_eq_map`). So nothing of one case reaches another one,
and to select cases before the run or among its results comes to the same (`Suite.results_isolated`).
-/

set_option autoImplicit false

namespace Acceptance

variable {W : Type}

/-! ## Calls of a collector -/

/-- The call that a collector notes of a notice. -/
def Notice.call : Notice → HookCall
  | .startTest test => ⟨"start_test", test.id⟩
  | .stopTest test => ⟨"stop_test", test.id⟩
  | .success test => ⟨"passed", test.id⟩
  | .failure test _ => ⟨"failed", test.id⟩
  | .error test _ => ⟨"errored", test.id⟩
  | .skip test _ => ⟨"skipped", test.id⟩
  | .startStep step => ⟨"start_step", step.display⟩
  | .stopStep step => ⟨"stop_step", step.display⟩
  | .stepSuccess step => ⟨"add_step_success", step.display⟩
  | .stepFailure step _ => ⟨"add_step_failure", step.display⟩
  | .stepError step _ => ⟨"add_step_error", step.display⟩
  | .stepUndefined step => ⟨"add_step_undefined", step.display⟩

/-- Whether a call is the last one of a test case. -/
def HookCall.endsTest (call : HookCall) : Bool :=
  call.hook == "stop_test"

/-- Calls in blocks, each up to the end of a test case. Calls behind the last end make a block too. -/
def testBlocks : List HookCall → List (List HookCall)
  | [] => []
  | call :: calls =>
    if call.endsTest then [call] :: testBlocks calls
    else
      match testBlocks calls with
      | [] => [[call]]
      | block :: blocks => (call :: block) :: blocks

/-- Each notice is one call, in order. -/
theorem Collector.calls_observeAll (c : Collector) (notices : List Notice) :
    (c.observeAll notices).calls = c.calls ++ notices.map Notice.call := by
  induction notices generalizing c with
  | nil => simp [observeAll]
  | cons notice notices ih =>
    have hfirst : (c.observe notice).calls = c.calls ++ [notice.call] := by
      cases notice <;> rfl
    have hrest : (c.observeAll (notice :: notices)).calls = ((c.observe notice).observeAll notices).calls := rfl
    rw [hrest, ih, hfirst]
    simp

/-- A block ends with the first call that ends a test case. -/
theorem testBlocks_append_cons {body rest : List HookCall} {last : HookCall}
    (hbody : ∀ call ∈ body, call.endsTest = false) (hlast : last.endsTest = true) :
    testBlocks (body ++ last :: rest) = (body ++ [last]) :: testBlocks rest := by
  induction body with
  | nil => simp [testBlocks, hlast]
  | cons call body ih =>
    obtain ⟨hcall, hbody⟩ := List.forall_mem_cons.mp hbody
    simp [testBlocks, hcall, ih hbody]

/-- No report of a step ends a test. -/
theorem endsTest_of_mem_reports {reports : List StepReport} :
    ∀ notice ∈ reports.flatMap StepReport.notices, notice.call.endsTest = false := by
  intro notice hnotice
  obtain ⟨⟨step, verdict⟩, -, hmem⟩ := List.mem_flatMap.mp hnotice
  simp only [StepReport.notices, List.mem_cons, List.not_mem_nil, or_false] at hmem
  rcases hmem with rfl | rfl | rfl
  · rfl
  · cases verdict <;> rfl
  · rfl

/-! ## One test case -/

namespace TestCase

/-- What becomes of a test case whose scenario ended so. -/
def status (failOnPending : Bool) : Option Halt → TestStatus
  | none => .passed
  | some (.pending steps) =>
    if failOnPending then .failed (Halt.pending steps).message else .skipped (Halt.pending steps).message
  | some (.skip reason) => .skipped reason
  | some halt => if halt.isFailure then .failed halt.message else .errored halt.message

/-- The record of a test case that is run on a fresh world. -/
def record (failOnPending : Bool) (fresh : W) (c : TestCase W) : TestRecord :=
  ⟨c.info.id, c.info.tags.names, status failOnPending (c.ran fresh).halt⟩

variable (failOnPending : Bool) (fresh : W) (c : TestCase W)

/-- The outcome of a case is one record of its status. -/
theorem observe_outcome (seen : Collector) (halt : Option Halt) :
    seen.observe (outcome failOnPending c.info halt) = seen.record c.info (status failOnPending halt) := by
  cases halt with
  | none => rfl
  | some halt =>
    cases halt with
    | skip reason => rfl
    | pending steps => cases failOnPending <;> rfl
    | stepFailed index keyword text error =>
      unfold outcome status
      dsimp only
      split <;> rfl

/-- **A test case has one record**, with its own tags. -/
theorem records_collected : (c.collected failOnPending fresh).records = [c.record failOnPending fresh] := by
  rw [collected_eq, observe_outcome]
  have hnone := c.records_before_outcome fresh
  simp only [Collector.observe, Collector.record, Collector.call, hnone]
  rfl

/-- **The calls of a test case** are one block. -/
theorem exists_calls_collected : ∃ body last,
    (c.collected failOnPending fresh).calls = body ++ [last] ∧
      (∀ call ∈ body, call.endsTest = false) ∧ last.endsTest = true := by
  obtain ⟨reports, hreports⟩ := c.exists_reports_ran fresh
  have houtcome : (outcome failOnPending c.info (c.ran fresh).halt).call.endsTest = false := by
    unfold outcome
    split
    · rfl
    · split <;> rfl
    · rfl
    · split <;> rfl
  let body := .startTest c.info :: reports.flatMap StepReport.notices ++
    [outcome failOnPending c.info (c.ran fresh).halt]
  refine ⟨body.map Notice.call, (Notice.stopTest c.info).call, ?_, ?_, rfl⟩
  · rw [collected, run_eq, Collector.calls_observeAll, hreports]
    simp [body]
  · intro call hcall
    obtain ⟨notice, hnotice, rfl⟩ := List.mem_map.mp hcall
    simp only [body, List.mem_append, List.mem_cons, List.not_mem_nil, or_false] at hnotice
    rcases hnotice with (rfl | hstep) | rfl
    · rfl
    · exact endsTest_of_mem_reports notice hstep
    · exact houtcome

end TestCase

/-! ## Results of a suite -/

/-- What a run of a suite shows of one of its test cases: what the case leaves, its record, and its calls up
to its end. -/
structure CaseResult (W : Type) where
  ran : Run W
  record : TestRecord
  calls : List HookCall

namespace Suite

variable (failOnPending : Bool) (fresh : W)

/-- The results of a run, one behind the other: what its cases leave, the records of the collector, and the
blocks of its calls, put together by their places. -/
def results (suite : Suite W) : List (CaseResult W) :=
  let seen := suite.collected failOnPending fresh
  ((suite.run failOnPending fresh).zip (seen.records.zip (testBlocks seen.calls))).map
    fun (ran, record, calls) => ⟨ran, record, calls⟩

/-- The result of a test case that is run alone. -/
def result (c : TestCase W) : CaseResult W :=
  ⟨c.run failOnPending fresh, c.record failOnPending fresh, (c.collected failOnPending fresh).calls⟩

/-- A suite leaves one record for each of its cases, in order. -/
theorem records_collected (suite : Suite W) :
    (suite.collected failOnPending fresh).records = suite.map (TestCase.record failOnPending fresh) := by
  induction suite with
  | nil => rfl
  | cons c suite ih =>
    rw [collected_cons, Collector.records_append, c.records_collected, ih]
    rfl

/-- The calls of a suite, cut after every end of a test, are those of its cases. -/
theorem testBlocks_collected (suite : Suite W) :
    testBlocks (suite.collected failOnPending fresh).calls =
      suite.map fun c => (c.collected failOnPending fresh).calls := by
  induction suite with
  | nil => rfl
  | cons c suite ih =>
    obtain ⟨body, last, hcalls, hbody, hlast⟩ := c.exists_calls_collected failOnPending fresh
    rw [collected_cons, Collector.calls_append, hcalls, List.append_assoc, List.singleton_append,
      testBlocks_append_cons hbody hlast, ih, List.map_cons, hcalls]

/-- **The results of a suite** are those of its test cases, each run alone. -/
theorem results_eq_map (suite : Suite W) :
    suite.results failOnPending fresh = suite.map (result failOnPending fresh) := by
  unfold results
  dsimp only
  rw [records_collected, testBlocks_collected, run]
  simp [List.zip_map', List.map_map, result]

/-- The calls of a suite are those of its cases, one after another. -/
theorem calls_collected (suite : Suite W) : (suite.collected failOnPending fresh).calls =
    suite.flatMap fun c => (c.collected failOnPending fresh).calls := by
  induction suite with
  | nil => rfl
  | cons c suite ih =>
    rw [collected_cons, Collector.calls_append, ih]
    rfl

/-- A record selects as its test case does. -/
theorem holds_record (e : TagExpression) (c : TestCase W) :
    e.holds (.ofList (c.record failOnPending fresh).tags) = e.holds c.info.tags := by
  have htags : TagSet.ofList c.info.tags.names = c.info.tags := by
    apply TagSet.ext_mem
    intro tag
    exact TagSet.mem_ofList
  rw [TestCase.record, htags]

/-- What is selected before a run is what can be selected by the records afterwards. -/
theorem map_select {α : Type} (e : TagExpression) (suite : Suite W) (f : TestCase W → α)
    (tags : α → List String) (htags : ∀ c, tags (f c) = (c.record failOnPending fresh).tags) :
    (suite.select e).map f = (suite.map f).filter fun a => e.holds (.ofList (tags a)) := by
  unfold select
  rw [List.filter_map]
  congr 1
  apply List.filter_congr
  intro c _
  simp [htags, holds_record]

/-- **Test cases do not interfere.** A run shows one result for each test case of a suite and nothing else. To
select test cases and run them shows what selecting among the records of all of them shows, and wherever a
test case stands in another suite, by selection or in another order, its result is the same: what its
callbacks leave of the world and what it reports, its record, which has its own identity and tags, and its
calls. -/
theorem results_isolated (suite : Suite W) :
    let seen := suite.collected failOnPending fresh
    let results := suite.results failOnPending fresh
    (results.map (·.ran) = suite.run failOnPending fresh ∧ results.map (·.record) = seen.records ∧
        results.flatMap (·.calls) = seen.calls ∧ results.length = suite.length) ∧
      (∀ e : TagExpression,
        ((suite.select e).collected failOnPending fresh).records =
            seen.records.filter (fun r => e.holds (.ofList r.tags)) ∧
          (suite.select e).results failOnPending fresh =
            results.filter fun r => e.holds (.ofList r.record.tags)) ∧
      ∀ (other : Suite W) (i j : Nat) (c : TestCase W), suite[i]? = some c → other[j]? = some c →
        ∃ r, results[i]? = some r ∧ (other.results failOnPending fresh)[j]? = some r ∧
          r.record.id = c.info.id ∧ r.record.tags = c.info.tags.names := by
  intro seen results
  have hresults : results = suite.map (result failOnPending fresh) := results_eq_map ..
  have hrecords : seen.records = suite.map (TestCase.record failOnPending fresh) := records_collected ..
  refine ⟨⟨?_, ?_, ?_, ?_⟩, ?_, ?_⟩
  · rw [hresults, List.map_map]
    rfl
  · rw [hresults, hrecords, List.map_map]
    rfl
  · rw [hresults, calls_collected, List.flatMap_map]
    rfl
  · rw [hresults, List.length_map]
  · intro e
    constructor
    · rw [records_collected, hrecords]
      exact map_select failOnPending fresh e suite _ TestRecord.tags fun _ => rfl
    · rw [results_eq_map, hresults]
      exact map_select failOnPending fresh e suite _ (fun r : CaseResult W => r.record.tags) fun _ => rfl
  · intro other i j c hi hj
    refine ⟨result failOnPending fresh c, ?_, ?_, rfl, rfl⟩
    · rw [hresults, List.getElem?_map, hi]
      rfl
    · rw [results_eq_map, List.getElem?_map, hj]
      rfl

/-- A test case that panics and one that counts, alone by its tag and in the other order. -/
theorem results_isolated_counting :
    let panics : Callback Nat := fun _ world => (world + 5, .panicked .unknown)
    let counts : Callback Nat := fun _ world => (world + 1, .passed)
    let step (callback : Callback Nat) : Step Nat :=
      { keyword := .given, text := "x", binding := some ⟨⟨⟨"x", fun _ => some []⟩, callback⟩, []⟩ }
    let test (name : String) (tags : List String) (callback : Callback Nat) : TestCase Nat :=
      ⟨⟨"g", "", none, name, none, .ofList tags⟩, some ⟨⟨"", ∅, [step callback, step callback]⟩, []⟩⟩
    let suite : Suite Nat := [test "a" [] panics, test "b" ["t"] counts]
    ((suite.select ⟨[[.tag "t"]]⟩).collected false 0).records = [⟨"g.b", ["t"], .passed⟩] ∧
      ∃ r, (suite.results false 0)[1]? = some r ∧ (Suite.results false 0 suite.reverse)[0]? = some r ∧
        r.ran.world = 2 ∧ r.record = ⟨"g.b", ["t"], .passed⟩ := by
  intro panics counts step test suite
  obtain ⟨-, hselect, hsame⟩ := results_isolated false 0 suite
  refine ⟨?_, ?_⟩
  · rw [(hselect _).1, records_collected]
    decide
  · obtain ⟨r, hr, hreversed, -, -⟩ := hsame suite.reverse 1 0 (test "b" ["t"] counts) rfl rfl
    refine ⟨r, hr, hreversed, ?_⟩
    rw [results_eq_map] at hr
    obtain rfl := Option.some.inj hr
    exact ⟨rfl, by decide⟩

end Suite

end Acceptance
