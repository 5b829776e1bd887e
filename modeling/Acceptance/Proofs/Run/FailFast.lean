import Acceptance.Run.Execution

/-!
# Runs up to the first step that does not succeed

The steps of a scenario and of its backgrounds make one list, with the farthest background in front. A run
goes through that list on one world, and ends with the first step that does not succeed (`FailFast`). Two such
runs in sequence are such a run of both lists, so what holds of a single step holds of a block, of a chain of
backgrounds, and of a scenario (`Scenario.failFast_run`).
-/

set_option autoImplicit false

namespace Acceptance

variable {W : Type}

/-! ## Reports of steps -/

/-- What is reported of a step between its beginning and its end. -/
inductive StepVerdict where
  | success
  | failure (reason : StepError)
  | error (reason : StepError)
  | undefined
  deriving DecidableEq, Repr

/-- The notice of a verdict. -/
def StepVerdict.notice (step : StepInfo) : StepVerdict → Notice
  | success => .stepSuccess step
  | failure reason => .stepFailure step reason
  | error reason => .stepError step reason
  | undefined => .stepUndefined step

/-- A step that was run, and what was reported of it. -/
structure StepReport where
  step : StepInfo
  verdict : StepVerdict
  deriving DecidableEq, Repr

/-- The notices of a report, all about the same step. -/
def StepReport.notices (r : StepReport) : List Notice :=
  [.startStep r.step, r.verdict.notice r.step, .stopStep r.step]

/-! ## How a step ends -/

namespace Step

/-- How the callback of the step ends on a world, if the step has a definition. -/
def ending? (s : Step W) (world : W) : Option Ending :=
  s.binding.map fun b => (b.definition.callback ⟨s.toStepText, b.args⟩ world).2

/-- What the callback of the step makes of a world. Without a definition the world stays as it is. -/
def leaves (s : Step W) (world : W) : W :=
  match s.binding with
  | some b => (b.definition.callback ⟨s.toStepText, b.args⟩ world).1
  | none => world

/-- The step has a definition, and by that it passes. -/
def Succeeds (s : Step W) (world : W) : Prop :=
  s.ending? world = some .passed

/-- The step has no definition, or its callback says so. -/
def IsUndefined (s : Step W) (world : W) : Prop :=
  s.binding = none ∨ ∃ step, s.ending? world = some (.failed (.undefined step))

/-- The callback of the step ends with a reason not to pass, or with a panic. -/
def FailsWith (s : Step W) (world : W) (reason : StepError) : Prop :=
  (∀ step, reason ≠ .undefined step) ∧
    (s.ending? world = some (.failed reason) ∨
      ∃ payload, s.ending? world = some (.panicked payload) ∧ reason = .panic payload.message)

/-- How a step that does not succeed is reported, and how it ends the scenario. The step has the given index
in its block. -/
inductive Stops (s : Step W) (index : Nat) (world : W) : StepVerdict → Halt → Prop where
  | undefined : s.IsUndefined world → Stops s index world .undefined (.pending [s.display])
  | failure (reason : StepError) : s.FailsWith world reason → reason.isFailure = true →
      Stops s index world (.failure reason) (.stepFailed index s.keyword s.text reason)
  | error (reason : StepError) : s.FailsWith world reason → reason.isFailure = false →
      Stops s index world (.error reason) (.stepFailed index s.keyword s.text reason)

variable {s : Step W} {index : Nat} {world : W} {verdict : StepVerdict} {halt : Halt}

/-- A step that succeeds is defined. -/
theorem Succeeds.not_isUndefined (h : s.Succeeds world) : ¬ s.IsUndefined world := by
  unfold Succeeds at h
  rintro (hnone | ⟨step, hstep⟩)
  · rw [ending?, hnone] at h
    cases h
  · rw [hstep] at h
    cases h

/-- A step that fails is defined. -/
theorem FailsWith.not_isUndefined {reason : StepError} (h : s.FailsWith world reason) :
    ¬ s.IsUndefined world := by
  obtain ⟨hreason, hending⟩ := h
  rintro (hnone | ⟨step, hstep⟩)
  · rw [ending?, hnone] at hending
    rcases hending with hfailed | ⟨payload, hpanicked, -⟩
    · cases hfailed
    · cases hpanicked
  · rw [hstep] at hending
    rcases hending with hfailed | ⟨payload, hpanicked, -⟩
    · cases hfailed
      exact hreason step rfl
    · cases hpanicked

/-- A step that stops the run does not succeed. -/
theorem Stops.not_succeeds (h : s.Stops index world verdict halt) : ¬ s.Succeeds world := by
  intro hsucceeds
  cases h with
  | undefined hundefined => exact hsucceeds.not_isUndefined hundefined
  | failure reason hfails | error reason hfails =>
    unfold Succeeds at hsucceeds
    rcases hfails.2 with hfailed | ⟨payload, hpanicked, -⟩
    · rw [hsucceeds] at hfailed
      cases hfailed
    · rw [hsucceeds] at hpanicked
      cases hpanicked

/-- A scenario is pending just where the step that ends it is undefined. -/
theorem Stops.isUndefined_iff (h : s.Stops index world verdict halt) :
    s.IsUndefined world ↔ ∃ steps, halt = .pending steps := by
  cases h with
  | undefined hundefined => exact iff_of_true hundefined ⟨_, rfl⟩
  | failure reason hfails | error reason hfails =>
    exact iff_of_false hfails.not_isUndefined nofun

/-- A reason not to pass is reported as a failure or as an error. -/
theorem exists_stops_of_failsWith (index : Nat) {reason : StepError} (h : s.FailsWith world reason) :
    ∃ verdict, s.Stops index world verdict (.stepFailed index s.keyword s.text reason) ∧
      Step.verdict s.info (.error reason) = verdict.notice s.info ∧
      s.haltOf index (.error reason) = some (.stepFailed index s.keyword s.text reason) := by
  cases reason with
  | undefined step => exact absurd rfl (h.1 step)
  | assertion reason => exact ⟨_, .failure _ h rfl, rfl, rfl⟩
  | panic reason => exact ⟨_, .failure _ h rfl, rfl, rfl⟩
  | other reason => exact ⟨_, .error _ h rfl, rfl, rfl⟩

/-- **A step** succeeds, or it stops the scenario. -/
theorem runAt_cases (s : Step W) (index : Nat) (world : W) :
    (s.Succeeds world ∧
      s.runAt index world = ⟨StepReport.notices ⟨s.info, .success⟩, s.leaves world, none⟩) ∨
    ∃ verdict halt, s.Stops index world verdict halt ∧
      s.runAt index world = ⟨StepReport.notices ⟨s.info, verdict⟩, s.leaves world, some halt⟩ := by
  -- the run without the name of the binding: what the callback leaves, and what it says
  have hfails {reason : StepError} (hrun : s.run world = (s.leaves world, .error reason))
      (h : s.FailsWith world reason) : ∃ verdict halt, s.Stops index world verdict halt ∧
        s.runAt index world = ⟨StepReport.notices ⟨s.info, verdict⟩, s.leaves world, some halt⟩ := by
    obtain ⟨verdict, hstops, hverdict, hhalt⟩ := exists_stops_of_failsWith index h
    refine ⟨verdict, _, hstops, ?_⟩
    rw [runAt, hrun]
    dsimp only
    rw [hverdict, hhalt]
    rfl
  cases hbinding : s.binding with
  | none =>
    refine .inr ⟨.undefined, _, .undefined (.inl hbinding), ?_⟩
    rw [runAt, run, leaves, hbinding]
    rfl
  | some b =>
    have hending : s.ending? world = some (b.definition.callback ⟨s.toStepText, b.args⟩ world).2 := by
      rw [ending?, hbinding]
      rfl
    have hrun : s.run world =
        (s.leaves world, (b.definition.callback ⟨s.toStepText, b.args⟩ world).2.toExcept) := by
      rw [run, leaves, hbinding]
    cases hcallback : (b.definition.callback ⟨s.toStepText, b.args⟩ world).2 with
    | passed =>
      rw [hcallback] at hending hrun
      refine .inl ⟨hending, ?_⟩
      rw [runAt, hrun]
      rfl
    | panicked payload =>
      rw [hcallback] at hending hrun
      exact .inr (hfails hrun ⟨nofun, .inr ⟨payload, hending, rfl⟩⟩)
    | failed reason =>
      rw [hcallback] at hending hrun
      cases reason with
      | undefined step =>
        refine .inr ⟨.undefined, _, .undefined (.inr ⟨step, hending⟩), ?_⟩
        rw [runAt, hrun]
        rfl
      | assertion reason => exact .inr (hfails hrun ⟨nofun, .inl hending⟩)
      | panic reason => exact .inr (hfails hrun ⟨nofun, .inl hending⟩)
      | other reason => exact .inr (hfails hrun ⟨nofun, .inl hending⟩)

end Step

/-! ## Steps in order -/

/-- Whether all steps succeed that run in order, the first of them on the given world. The number of a step is
its index in its block. -/
def AllSucceed : List (Step W × Nat) → W → Prop
  | [], _ => True
  | (s, _) :: steps, world => s.Succeeds world ∧ AllSucceed steps (s.leaves world)

/-- What the callbacks of steps make of a world, called once each and in order. -/
def worldAfter (steps : List (Step W × Nat)) (world : W) : W :=
  steps.foldl (fun world s => s.1.leaves world) world

/-- The reports of steps that succeed. -/
def successes (steps : List (Step W × Nat)) : List StepReport :=
  steps.map fun s => ⟨s.1.info, .success⟩

/-- A run of steps in order: of all of them, if all succeed, and otherwise up to and including the first one
that does not succeed. -/
inductive FailFast (steps : List (Step W × Nat)) (world : W) (ran : Run W) : Prop where
  | passed : AllSucceed steps world →
      ran = ⟨(successes steps).flatMap StepReport.notices, worldAfter steps world, none⟩ →
      FailFast steps world ran
  | halted (before : List (Step W × Nat)) (s : Step W) (index : Nat) (after : List (Step W × Nat))
      (verdict : StepVerdict) (halt : Halt) :
      steps = before ++ (s, index) :: after → AllSucceed before world →
      s.Stops index (worldAfter before world) verdict halt →
      ran = ⟨(successes before ++ [StepReport.mk s.info verdict]).flatMap StepReport.notices,
        worldAfter (before ++ [(s, index)]) world, some halt⟩ →
      FailFast steps world ran

/-- The first of the steps that does not succeed is undefined. -/
def MeetsUndefined (steps : List (Step W × Nat)) (world : W) : Prop :=
  ∃ before s index after, steps = before ++ (s, index) :: after ∧ AllSucceed before world ∧
    s.IsUndefined (worldAfter before world)

section Sequence

variable {first second before before' after after' steps : List (Step W × Nat)} {s s' : Step W × Nat}
  {index : Nat} {world : W} {ran : Run W}

/-- Steps all succeed if the first ones do and the others do in the world after them. -/
theorem allSucceed_append : AllSucceed (first ++ second) world ↔
    AllSucceed first world ∧ AllSucceed second (worldAfter first world) := by
  induction first generalizing world with
  | nil => exact (and_iff_right trivial).symm
  | cons s first ih =>
    rw [List.cons_append, AllSucceed, AllSucceed, ih, and_assoc]
    rfl

/-- The world after all steps is that after the others, from the world after the first ones. -/
theorem worldAfter_append :
    worldAfter (first ++ second) world = worldAfter second (worldAfter first world) :=
  List.foldl_append

/-- The reports of two lists of successful steps are joined. -/
theorem successes_append : successes (first ++ second) = successes first ++ successes second :=
  List.map_append

/-- There is one first step that does not succeed. -/
theorem eq_of_first (hsplit : before ++ s :: after = before' ++ s' :: after')
    (hbefore : AllSucceed before world) (hs : ¬ s.1.Succeeds (worldAfter before world))
    (hbefore' : AllSucceed before' world) (hs' : ¬ s'.1.Succeeds (worldAfter before' world)) :
    before = before' ∧ s = s' := by
  induction before generalizing before' world with
  | nil =>
    cases before' with
    | nil => exact ⟨rfl, (List.cons.inj hsplit).1⟩
    | cons other before' =>
      obtain ⟨rfl, -⟩ := List.cons.inj hsplit
      exact absurd hbefore'.1 hs
  | cons other before ih =>
    cases before' with
    | nil =>
      obtain ⟨rfl, -⟩ := List.cons.inj hsplit
      exact absurd hbefore.1 hs'
    | cons other' before' =>
      obtain ⟨rfl, hrest⟩ := List.cons.inj hsplit
      obtain ⟨rfl, rfl⟩ := ih hrest hbefore.2 hs hbefore'.2 hs'
      exact ⟨rfl, rfl⟩

namespace FailFast

/-- A run of no steps leaves the world as it was and does not halt. -/
theorem nil (world : W) : FailFast [] world ⟨[], world, none⟩ :=
  .passed trivial rfl

/-- **A single step**, with the index of the step in its block. -/
theorem step (s : Step W) (index : Nat) (world : W) : FailFast [(s, index)] world (s.runAt index world) := by
  rcases s.runAt_cases index world with ⟨hsucceeds, hran⟩ | ⟨verdict, halt, hstops, hran⟩
  · exact .passed ⟨hsucceeds, trivial⟩ hran
  · exact .halted [] s index [] verdict halt rfl trivial hstops hran

/-- **Two runs in sequence**, the second one on the world that the first one leaves. -/
theorem andThen {rest : W → Run W} (hfirst : FailFast first world ran)
    (hrest : ∀ world, FailFast second world (rest world)) :
    FailFast (first ++ second) world (ran.andThen rest) := by
  cases hfirst with
  | halted before s index after verdict halt hsteps hbefore hstops hran =>
    refine .halted before s index (after ++ second) verdict halt ?_ hbefore hstops ?_
    · rw [hsteps, List.append_assoc, List.cons_append]
    · rw [hran]
      rfl
  | passed hfirst hran =>
    subst hran
    unfold Run.andThen
    dsimp only
    cases hrest (worldAfter first world) with
    | passed hsecond hran =>
      refine .passed (allSucceed_append.mpr ⟨hfirst, hsecond⟩) ?_
      rw [hran, successes_append, List.flatMap_append, worldAfter_append]
    | halted before s index after verdict halt hsteps hbefore hstops hran =>
      -- the step that stops the second run stops both, behind all steps of the first
      rw [← worldAfter_append] at hstops
      refine .halted (first ++ before) s index after verdict halt ?_
        (allSucceed_append.mpr ⟨hfirst, hbefore⟩) hstops ?_
      · rw [hsteps, List.append_assoc]
      · have hnotices : (successes first).flatMap StepReport.notices ++
            (successes before ++ [StepReport.mk s.info verdict]).flatMap StepReport.notices =
            (successes (first ++ before) ++ [StepReport.mk s.info verdict]).flatMap
              StepReport.notices := by
          rw [← List.flatMap_append, successes_append, List.append_assoc]
        have hworld : worldAfter (before ++ [(s, index)]) (worldAfter first world) =
            worldAfter (first ++ before ++ [(s, index)]) world := by
          rw [← worldAfter_append, List.append_assoc]
        rw [hran, ← hnotices, ← hworld]

/-- A run does not halt exactly if all of its steps succeed. -/
theorem halt_eq_none_iff (h : FailFast steps world ran) : ran.halt = none ↔ AllSucceed steps world := by
  cases h with
  | passed hsteps hran => exact iff_of_true (by rw [hran]) hsteps
  | halted before s index after verdict halt hsteps hbefore hstops hran =>
    refine iff_of_false (by rw [hran]; nofun) fun hall => ?_
    rw [hsteps, allSucceed_append] at hall
    exact hstops.not_succeeds hall.2.1

/-- A run halts as pending exactly if it meets an undefined step. -/
theorem pending_iff (h : FailFast steps world ran) :
    (∃ names, ran.halt = some (.pending names)) ↔ MeetsUndefined steps world := by
  cases h with
  | passed hsteps hran =>
    refine iff_of_false (by rw [hran]; nofun) ?_
    rintro ⟨before, s, index, after, rfl, -, hundefined⟩
    rw [allSucceed_append] at hsteps
    exact hsteps.2.1.not_isUndefined hundefined
  | halted before s index after verdict halt hsteps hbefore hstops hran =>
    have hhalt (names : List String) : ran.halt = some (.pending names) ↔ halt = .pending names := by
      rw [hran, Option.some.injEq]
    simp only [hhalt, ← hstops.isUndefined_iff]
    constructor
    · intro hundefined
      exact ⟨before, s, index, after, hsteps, hbefore, hundefined⟩
    · rintro ⟨before', s', index', after', hsteps', hbefore', hundefined⟩
      have hs' : ¬ s'.Succeeds (worldAfter before' world) := fun h => h.not_isUndefined hundefined
      obtain ⟨rfl, hsame⟩ := eq_of_first (hsteps.symm.trans hsteps') hbefore hstops.not_succeeds hbefore' hs'
      cases hsame
      exact hundefined

end FailFast

end Sequence

/-! ## Blocks and scenarios -/

/-- **The steps of a block**, the first of which has the given index. -/
theorem Block.failFast_runSteps (steps : List (Step W)) (index : Nat) (world : W) :
    FailFast (steps.zipIdx index) world (runSteps index steps world) := by
  induction steps generalizing index world with
  | nil => exact .nil world
  | cons s steps ih => exact (FailFast.step s index world).andThen (ih (index + 1))

/-- **Blocks in order.** -/
theorem Block.failFast_runAll (blocks : List (Block W)) (world : W) :
    FailFast (blocks.flatMap fun b => b.steps.zipIdx) world (runAll blocks world) := by
  induction blocks generalizing world with
  | nil => exact .nil world
  | cons b blocks ih => exact (failFast_runSteps b.steps 0 world).andThen ih

namespace Scenario

/-- All steps in the order in which they run, each with its index in its own block. -/
def numberedSteps (s : Scenario W) : List (Step W × Nat) :=
  (s.backgrounds.reverse ++ [s.toBlock]).flatMap fun b => b.steps.zipIdx

/-- The numbered steps are all steps of the chain, in order. -/
theorem map_fst_numberedSteps (s : Scenario W) : s.numberedSteps.map Prod.fst = s.allSteps := by
  unfold numberedSteps allSteps
  rw [List.map_flatMap, List.flatMap_append, List.flatMap_singleton]
  simp only [List.zipIdx_map_fst]

/-- **Scenarios run fail-fast.** A scenario without steps of its own runs nothing, whatever its backgrounds
have. Any other scenario runs its steps in order up to the first one that does not succeed, with the farthest
background in front. It ends with nothing just where all steps succeed, and as pending just where the first
one that does not succeed is undefined. -/
theorem failFast_run (s : Scenario W) (world : W) :
    (s.steps = [] ∧ s.run world = ⟨[], world, some (.skip "no steps defined")⟩) ∨
    (s.steps ≠ [] ∧ FailFast s.numberedSteps world (s.run world) ∧
      ((s.run world).halt = none ↔ AllSucceed s.numberedSteps world) ∧
      ((∃ names, (s.run world).halt = some (.pending names)) ↔ MeetsUndefined s.numberedSteps world)) := by
  unfold run
  cases hsteps : s.steps with
  | nil => exact .inl ⟨rfl, rfl⟩
  | cons first rest =>
    have hrun : FailFast s.numberedSteps world (Block.runAll (s.backgrounds.reverse ++ [s.toBlock]) world) :=
      Block.failFast_runAll _ world
    exact .inr ⟨List.cons_ne_nil _ _, hrun, hrun.halt_eq_none_iff, hrun.pending_iff⟩

end Scenario

end Acceptance
