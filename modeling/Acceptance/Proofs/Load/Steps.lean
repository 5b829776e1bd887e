import Acceptance.Proofs.Load.Recall
import Acceptance.Proofs.Load.Spans

/-!
# The steps of a block

Lines, multiline blocks and tables wait in places of the draft that descriptions, steps and examples blocks
share. No construct finds there what another one has left (`Draft.Fills`): within a step the places hold
what its span has so far, and between steps they are empty. So every block gets the steps that its events
ask for, each with its own lines or its own table (`Draft.Builds`).
-/

set_option autoImplicit false

namespace Acceptance

variable {W : Type}

namespace Draft

/-- The places for open lines, for a multiline block that has ended, and for a table. -/
def contents (d : Draft W) : Option (List String) × Option (List String) × Option Table :=
  (d.lines, d.multilines, d.table)

/-- The open block has the steps of the events. -/
structure Builds (d : Draft W) (events : List Event) : Prop where
  whole : Span.Whole events
  block : ∃ b, d.current = some b ∧
    b.steps.map Step.toStepText = (Span.ofEvents events).map Span.stepText ∧
    ∀ step ∈ b.steps, step.multilines = none ∨ step.table = none

/-- What stands in the places for contents at a stage that is in no step. -/
def Rests (d : Draft W) : Stage → Prop
  | .description => ∃ lines, d.contents = (lines, none, none)
  | .examplesTable | .examplesRead => ∃ t, d.contents = (none, none, t)
  | .step _ | .multiline _ | .table _ | .attached _ => False
  | _ => d.contents = (none, none, none)

/-- What stands in the places for contents at a stage in a step. -/
def Attaches (d : Draft W) (s : Span) : Stage → Prop
  | .step _ => d.contents = (none, none, none) ∧ s.Bare
  | .multiline _ => ∃ lines, d.contents = (some lines, none, none) ∧ s.lines? = some lines ∧ s.table? = none
  | .table _ => ∃ t, d.contents = (none, none, some t) ∧ s.lines? = none ∧ s.table? = some t
  | .attached _ => d.contents = (none, s.lines?, s.table?) ∧ (s.lines? = none ∨ s.table? = none)
  | _ => False

/-- **What the places of a draft hold** at a stage, given the events since the latest bound of a block. -/
inductive Fills (m : Stage) (events : List Event) (d : Draft W) : Prop where
  | resting : d.step = none → d.Rests m → (∀ k, m = .block k → d.Builds events) → Fills m events d
  | attaching (closed : List Event) (s : Span) : events = closed ++ s.opening →
      (∀ event ∈ s.inner, event.boundsStep = false) → d.step = some (s.keyword, s.text) →
      d.Attaches s m → d.Builds closed → Fills m events d

variable {config : NamingConfig} {r : Registry W} {m n : Stage} {k : BlockKind} {event : Event}
  {events closed : List Event} {s : Span} {d next : Draft W}

/-! ## Steps of the open block -/

/-- What the open block has built depends on that block alone. -/
theorem Builds.of_current (h : d.Builds events) (hcurrent : next.current = d.current) :
    next.Builds events := by
  obtain ⟨hwhole, hblock⟩ := h
  exact ⟨hwhole, by rwa [hcurrent]⟩

/-- An event between two steps leaves the steps as they are. -/
theorem Builds.append_event (h : d.Builds events) (hevent : event.boundsStep = false) :
    d.Builds (events ++ [event]) := by
  obtain ⟨hwhole, b, hb, hsteps, hone⟩ := h
  obtain ⟨hwhole, hsame⟩ := hwhole.append_event hevent
  exact ⟨hwhole, b, hb, by rw [hsame, hsteps], hone⟩

/-- At the end of a step the places for contents are those of its span. -/
theorem Attaches.ended (h : d.Attaches s m) (hm : m = .step k ∨ m = .attached k) :
    d.contents = (none, s.lines?, s.table?) ∧ (s.lines? = none ∨ s.table? = none) := by
  rcases hm with rfl | rfl
  · obtain ⟨hcontents, hbare⟩ := h
    rw [hcontents, hbare.lines?_eq, hbare.table?_eq]
    exact ⟨rfl, .inl rfl⟩
  · exact h

/-- **A step that ends** joins the open block as its span asks for, and leaves nothing behind. -/
theorem Builds.closeStep (h : d.Builds closed) (hinner : ∀ event ∈ s.inner, event.boundsStep = false)
    (hstep : d.step = some (s.keyword, s.text)) (hcontents : d.contents = (none, s.lines?, s.table?))
    (hone : s.lines? = none ∨ s.table? = none) (hnext : (d.closeStep r).result = .ok next) :
    next.step = none ∧ next.contents = (none, none, none) ∧
      next.Builds (closed ++ s.opening ++ [.finishStep]) := by
  obtain ⟨hwhole, b, hb, hsteps, hall⟩ := h
  obtain ⟨step, hmade, -, rfl⟩ := closeStep_result hstep hnext
  obtain ⟨hlines, hrest⟩ := Prod.mk.inj hcontents
  obtain ⟨hmultilines, htable⟩ := Prod.mk.inj hrest
  rw [hmultilines, htable] at hmade
  have htext : step.toStepText = s.stepText := by
    rw [hmade, Span.stepText]
    rcases hone with hnone | hnone
    · rw [hnone]
      rfl
    · rw [hnone, ite_self]
  have hempty : (if d.multilines.isSome then d.table else none) = none := by
    rw [hmultilines, htable]
    rcases hone with hnone | hnone
    · rw [hnone]
      rfl
    · rw [hnone, ite_self]
  obtain ⟨hwhole, hsame⟩ := hwhole.append_step hinner
  refine ⟨rfl, ?_, hwhole, b.addStep step, ?_, ?_, ?_⟩
  · unfold contents
    dsimp only
    rw [hlines, hempty]
  · dsimp only
    rw [hb]
    rfl
  · have hadded : (b.addStep step).steps = b.steps ++ [step] := rfl
    rw [hadded, hsame, List.map_append, List.map_append, hsteps, List.map_singleton,
      List.map_singleton, htext]
  · intro other hother
    rcases List.mem_append.mp hother with hother | hother
    · exact hall other hother
    · rw [List.mem_singleton.mp hother]
      have hparts : step.multilines = s.lines? ∧ step.table = s.table? :=
        ⟨congrArg StepText.multilines htext, congrArg StepText.table htext⟩
      rwa [hparts.1, hparts.2]

/-! ## What an event leaves in the places -/

/-- Opening a block leaves the step and what it carries, and the new block has no steps. -/
theorem startBlock_result {title : String} (h : (d.handle config r (k.start title)).result = .ok next) :
    next.step = d.step ∧ next.contents = d.contents ∧ ∃ b, next.current = some b ∧ b.steps = [] := by
  have hopened : (d.openScenario title).step = d.step ∧
      (d.openScenario title).contents = d.contents ∧
      ∃ b, (d.openScenario title).current = some b ∧ b.steps = [] := by
    refine ⟨rfl, rfl, _, rfl, ?_⟩
    cases d.background <;> rfl
  cases k with
  | background =>
    cases h
    exact ⟨rfl, rfl, _, rfl, rfl⟩
  | scenario =>
    cases h
    exact hopened
  | outline =>
    cases h
    exact hopened

/-- Closing a block leaves the step and what it carries. -/
theorem finishBlock_result (h : (d.handle config r k.finish).result = .ok next) :
    next.step = d.step ∧ next.contents = d.contents := by
  cases k with
  | background =>
    cases h
    exact ⟨rfl, rfl⟩
  | outline =>
    cases h
    exact ⟨rfl, rfl⟩
  | scenario =>
    rw [finishScenario_result h]
    exact ⟨rfl, rfl⟩

/-- Closing examples leaves the step and takes the table that was read for them. -/
theorem finishExamples_result (h : (d.handle config r .finishExamples).result = .ok next) :
    next.step = d.step ∧ next.contents = (d.lines, d.multilines, none) := by
  rw [closeExamples_result h]
  exact ⟨rfl, rfl⟩

/-- Closing the feature leaves the step and what it carries. -/
theorem finishFeature_result (h : (d.handle config r .finishFeature).result = .ok next) :
    next.step = d.step ∧ next.contents = d.contents := by
  rw [closeFeature_result h]
  exact ⟨rfl, rfl⟩

/-- Where no step is being read, no span is attached to one. -/
theorem not_attaches_of_rests (h : d.Rests m) : ¬ d.Attaches s m := by
  cases m with
  | step | multiline | table | attached => exact h.elim
  | _ => exact id

namespace Fills

/-- A draft that fills a mode in which nothing is attached has no pending step. -/
theorem of_rests (h : Fills m events d) (hm : ∀ s, ¬ d.Attaches s m) :
    d.step = none ∧ d.Rests m ∧ ∀ k, m = .block k → d.Builds events := by
  cases h with
  | resting hstep hrests hbuilds => exact ⟨hstep, hrests, hbuilds⟩
  | attaching closed s _ _ _ hattaches _ => exact absurd hattaches (hm s)

/-- In the body of a block a draft has no pending step and nothing that it carries. -/
theorem of_block (h : Fills (.block k) events d) :
    d.step = none ∧ d.contents = (none, none, none) ∧ d.Builds events := by
  obtain ⟨hstep, hrests, hbuilds⟩ := h.of_rests fun _ => id
  exact ⟨hstep, hrests, hbuilds k rfl⟩

/-- In every other mode the events end with one span, and the pending step of the draft is that span. -/
theorem exists_span (h : Fills m events d) (hm : ¬ d.Rests m) :
    ∃ closed s, events = closed ++ s.opening ∧ (∀ event ∈ s.inner, event.boundsStep = false) ∧
      d.step = some (s.keyword, s.text) ∧ d.Attaches s m ∧ d.Builds closed := by
  cases h with
  | resting _ hrests _ => exact absurd hrests hm
  | attaching closed s hevents hinner hstep hattaches hbuilds =>
    exact ⟨closed, s, hevents, hinner, hstep, hattaches, hbuilds⟩

/-- An event outside of steps leads to a stage outside of blocks. -/
theorem rest {now : List Event} (h : Fills m events d) (hm : ∀ s, ¬ d.Attaches s m)
    (hn : ∀ k, n ≠ .block k) (hstep : next.step = d.step) (hrests : d.Rests m → next.Rests n) :
    Fills n now next := by
  obtain ⟨hnone, hd, -⟩ := h.of_rests hm
  exact .resting (hstep.trans hnone) (hrests hd) fun k hk => absurd hk (hn k)

/-- An event within a step joins its span. -/
theorem attach (h : Fills m events d) (hm : ¬ d.Rests m) (hevent : event.boundsStep = false)
    (hstep : next.step = d.step) (hcurrent : next.current = d.current)
    (hattaches : ∀ s, d.Attaches s m → next.Attaches (s.addEvent event) n) :
    Fills n (events ++ [event]) next := by
  obtain ⟨closed, s, hevents, hinner, hopen, hd, hbuilds⟩ := h.exists_span hm
  refine .attaching closed (s.addEvent event) ?_ ?_ (hstep.trans hopen) (hattaches s hd)
    (hbuilds.of_current hcurrent)
  · rw [hevents, List.append_assoc]
    rfl
  · intro other hother
    rcases List.mem_append.mp hother with hother | hother
    · exact hinner other hother
    · rw [List.mem_singleton.mp hother]
      exact hevent

/-- A step comes to its end. -/
theorem finishStep (h : Fills m events d) (hm : m = .step k ∨ m = .attached k)
    (hnext : (d.closeStep r).result = .ok next) : Fills (.block k) (events ++ [.finishStep]) next := by
  have hrests : ¬ d.Rests m := by
    rcases hm with rfl | rfl <;> exact id
  obtain ⟨closed, s, hevents, hinner, hstep, hattaches, hbuilds⟩ := h.exists_span hrests
  obtain ⟨hcontents, hone⟩ := hattaches.ended hm
  obtain ⟨hnone, hempty, hbuilds⟩ := hbuilds.closeStep hinner hstep hcontents hone hnext
  rw [← hevents] at hbuilds
  exact .resting hnone hempty fun _ _ => hbuilds

/-- A comment or a blank line adds nothing but an empty line to the open lines, and that in a description
only. -/
theorem remark (h : Fills m events d) (hm : m.remarks = true) (hevent : event.remarks = true)
    (hnext : (d.handle config r event).result = .ok next) : Fills m (events ++ [event]) next := by
  have hbounds : event.boundsStep = false := by
    cases event <;> first | rfl | cases hevent
  obtain ⟨hstep, hcurrent, f, hcontents⟩ : next.step = d.step ∧ next.current = d.current ∧
      ∃ f : List String → List String, next.contents = (d.lines.map f, d.multilines, d.table) := by
    cases event with
    | comment text =>
      cases hnext
      exact ⟨rfl, rfl, id, by rw [Option.map_id_apply]; rfl⟩
    | whitespace line =>
      cases hnext
      exact ⟨rfl, rfl, (· ++ [""]), rfl⟩
    | _ => cases hevent
  have hsame (hlines : d.lines = none) : next.contents = d.contents := by
    rw [hcontents, contents, hlines]
    rfl
  by_cases hrests : d.Rests m
  · obtain ⟨hnone, -, hbuilds⟩ := h.of_rests fun _ => not_attaches_of_rests hrests
    refine .resting (hstep.trans hnone) ?_ ?_
    · cases m with
      | description =>
        obtain ⟨lines, hlines⟩ := hrests
        refine ⟨lines.map f, hcontents.trans ?_⟩
        exact congrArg (fun places => (Option.map f places.1, places.2)) hlines
      | examplesTable | examplesRead =>
        obtain ⟨t, ht⟩ := hrests
        exact ⟨t, (hsame (congrArg Prod.fst ht)).trans ht⟩
      | step | multiline | table | attached => exact hrests.elim
      | _ => exact (hsame (congrArg Prod.fst hrests)).trans hrests
    · intro k hk
      exact ((hbuilds k hk).append_event hbounds).of_current hcurrent
  · refine h.attach hrests hbounds hstep hcurrent fun s hattaches => ?_
    cases m with
    | step k =>
      obtain ⟨hempty, hbare⟩ := hattaches
      exact ⟨(hsame (congrArg Prod.fst hempty)).trans hempty, hbare.addEvent hevent⟩
    | table k =>
      obtain ⟨t, ht, hlines, htable⟩ := hattaches
      have hcells : event.cells? = none := by
        cases event <;> first | rfl | cases hevent
      have hadded : (s.addEvent event).table? = some t := by
        rw [Span.table?_addEvent_of_some htable, hcells, Option.toList_none, List.append_nil]
      have hstarts : event.startsMultiline = false := by
        cases event <;> first | rfl | cases hevent
      exact ⟨t, (hsame (congrArg Prod.fst ht)).trans ht, Span.lines?_addEvent_of_none hlines hstarts, hadded⟩
    | multiline | attached => cases hm
    | _ => exact hattaches.elim

/-- **Every event preserves** what the places hold. -/
theorem step (hmoves : Moves m event n) {past : History} (h : Fills m past.sinceBound d)
    (hnext : (d.handle config r event).result = .ok next) :
    Fills n (History.sinceBound (event :: past)) next := by
  -- the stage says whether the event is in a step, so `rest` and `attach` ask for the places alone
  cases hmoves with
  | comment text hm => exact h.remark hm rfl hnext
  | whitespace line hm => exact h.remark hm rfl hnext
  | startParse source =>
    cases hnext
    exact h.rest (fun _ => id) (fun _ h => by cases h) rfl id
  | tags tags hm =>
    cases hnext
    rcases hm with rfl | rfl
    · exact h.rest (fun _ => id) (fun _ h => by cases h) rfl id
    · exact h.rest (fun _ => id) (fun _ h => by cases h) rfl id
  | startFeature title =>
    cases hnext
    exact h.rest (fun _ => id) (fun _ h => by cases h) rfl id
  | startDescription =>
    cases hnext
    refine h.rest (fun _ => id) (fun _ h => by cases h) rfl fun hrests => ⟨some [], ?_⟩
    exact congrArg (fun places => (some [], places.2)) hrests
  | description text =>
    cases hnext
    refine h.rest (fun _ => id) (fun _ h => by cases h) rfl ?_
    rintro ⟨lines, hlines⟩
    refine ⟨lines.map (· ++ [text]), ?_⟩
    exact congrArg (fun places => (Option.map (· ++ [text]) places.1, places.2)) hlines
  | finishDescription =>
    cases hnext
    refine h.rest (fun _ => id) (fun _ h => by cases h) rfl ?_
    rintro ⟨lines, hlines⟩
    have hempty : d.closeDescription.contents = (none, none, none) :=
      congrArg (fun places => (none, places.2)) hlines
    exact hempty
  | startBlock k title =>
    obtain ⟨hstep, hrests, -⟩ := h.of_rests fun _ => id
    obtain ⟨hsame, hcontents, b, hb, hsteps⟩ := startBlock_result hnext
    have hbounds : (k.start title).boundsBlock = true := by cases k <;> rfl
    rw [History.sinceBound, if_pos hbounds]
    refine .resting (hsame.trans hstep) (hcontents.trans hrests) fun _ _ => ⟨Span.whole_nil, b, hb, ?_, ?_⟩
    · rw [hsteps]
      rfl
    · rw [hsteps]
      exact List.forall_mem_nil _
  | finishBlock k =>
    obtain ⟨hsame, hcontents⟩ := finishBlock_result hnext
    exact h.rest (fun _ => id) (fun _ h => by cases h) hsame hcontents.trans
  | startStep k keyword text =>
    cases hnext
    obtain ⟨-, hrests, hbuilds⟩ := h.of_block
    exact .attaching _ ⟨keyword, text, []⟩ rfl (List.forall_mem_nil _) rfl
      ⟨hrests, List.forall_mem_nil _⟩ (hbuilds.of_current rfl)
  | finishStep k => exact h.finishStep (.inl rfl) hnext
  | finishAttached k => exact h.finishStep (.inr rfl) hnext
  | startMultiline k indent =>
    cases hnext
    refine h.attach id rfl rfl rfl ?_
    rintro s ⟨hempty, hbare⟩
    refine ⟨[], ?_, ?_, ?_⟩
    · exact congrArg (fun places => (some [], places.2)) hempty
    · exact hbare.lines?_startMultiline indent
    · exact Span.table?_addEvent_of_none hbare.table?_eq rfl
  | content k text =>
    cases hnext
    refine h.attach id rfl rfl rfl ?_
    rintro s ⟨lines, hopen, hlines, htable⟩
    refine ⟨lines ++ [text], ?_, ?_, ?_⟩
    · exact congrArg (fun places => (Option.map (· ++ [text]) places.1, places.2)) hopen
    · exact Span.lines?_addEvent_of_some hlines
    · exact Span.table?_addEvent_of_none htable rfl
  | finishMultiline k =>
    cases hnext
    refine h.attach id rfl rfl rfl ?_
    rintro s ⟨lines, hopen, hlines, htable⟩
    have hlines : (s.addEvent .finishMultiline).lines? = some lines := by
      rw [Span.lines?_addEvent_of_some hlines]
      exact congrArg some (List.append_nil lines)
    have htable : (s.addEvent .finishMultiline).table? = none := Span.table?_addEvent_of_none htable rfl
    refine ⟨?_, .inr htable⟩
    rw [hlines, htable]
    exact congrArg (fun places => (none, places.1, places.2.2)) hopen
  | startTable k keys =>
    cases hnext
    refine h.attach id rfl rfl rfl ?_
    rintro s ⟨hempty, hbare⟩
    refine ⟨.ofKeys keys, ?_, ?_, ?_⟩
    · exact congrArg (fun places => (places.1, places.2.1, some (Table.ofKeys keys))) hempty
    · exact Span.lines?_addEvent_of_none hbare.lines?_eq rfl
    · exact hbare.table?_startTable keys
  | tableData k cells =>
    rw [tableData_result hnext]
    refine h.attach id rfl rfl rfl ?_
    rintro s ⟨t, hopen, hlines, htable⟩
    refine ⟨⟨t.keys, t.rows ++ [cells]⟩, ?_, ?_, ?_⟩
    · exact congrArg (fun places => (places.1, places.2.1,
        Option.map (fun t : Table => Table.mk t.keys (t.rows ++ [cells])) places.2.2)) hopen
    · exact Span.lines?_addEvent_of_none hlines rfl
    · exact Span.table?_addEvent_of_some htable
  | finishTable k =>
    cases hnext
    refine h.attach id rfl rfl rfl ?_
    rintro s ⟨t, hopen, hlines, htable⟩
    have hlines : (s.addEvent .finishTable).lines? = none := Span.lines?_addEvent_of_none hlines rfl
    have htable : (s.addEvent .finishTable).table? = some t := by
      rw [Span.table?_addEvent_of_some htable]
      exact congrArg (fun rows => some (Table.mk t.keys rows)) (List.append_nil t.rows)
    refine ⟨?_, .inl hlines⟩
    rw [hlines, htable]
    exact hopen
  | startExamples label =>
    cases hnext
    exact h.rest (fun _ => id) (fun _ h => by cases h) rfl id
  | startExamplesTable keys =>
    cases hnext
    refine h.rest (fun _ => id) (fun _ h => by cases h) rfl fun hrests => ⟨some (.ofKeys keys), ?_⟩
    exact congrArg (fun places => (places.1, places.2.1, some (Table.ofKeys keys))) hrests
  | examplesData cells =>
    rw [tableData_result hnext]
    refine h.rest (fun _ => id) (fun _ h => by cases h) rfl ?_
    rintro ⟨t, ht⟩
    refine ⟨t.map fun t => ⟨t.keys, t.rows ++ [cells]⟩, ?_⟩
    exact congrArg (fun places => (places.1, places.2.1,
      Option.map (fun t : Table => Table.mk t.keys (t.rows ++ [cells])) places.2.2)) ht
  | finishExamplesTable =>
    cases hnext
    exact h.rest (fun _ => id) (fun _ h => by cases h) rfl id
  | finishExamples =>
    obtain ⟨hsame, hcontents⟩ := finishExamples_result hnext
    refine h.rest (fun _ => id) (fun _ h => by cases h) hsame ?_
    rintro ⟨t, ht⟩
    exact hcontents.trans (congrArg (fun places => (places.1, places.2.1, none)) ht)
  | finishFeature =>
    obtain ⟨hsame, hcontents⟩ := finishFeature_result hnext
    exact h.rest (fun _ => id) (fun _ h => by cases h) hsame hcontents.trans
  | finishParse hm =>
    cases hnext
    rcases hm with rfl | rfl
    · exact h.rest (fun _ => id) (fun _ h => by cases h) rfl id
    · exact h.rest (fun _ => id) (fun _ h => by cases h) rfl id

end Fills

end Draft

end Acceptance
