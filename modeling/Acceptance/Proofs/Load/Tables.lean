import Acceptance.Proofs.Document.Nesting
import Acceptance.Proofs.Document.Opening
import Acceptance.Proofs.Document.StepText
import Acceptance.Proofs.Document.TableRow
import Acceptance.Proofs.Load.Multiline
import Acceptance.Proofs.Load.Parts
import Acceptance.Proofs.Load.Remarks

/-!
# Tables in documents that are loaded

A draft takes a table row by row, and refuses the first one that does not have as many cells as there are keys
(`Draft.answerAll_ofTable`, `Draft.answerAll_uneven`). A table ends at the first line behind it that is no row, no
comment and not blank (`Parser.exists_ending`), and then its step has it attached, or the latest outline is
expanded with it. So a table that is written into a document comes back as it is, or its first uneven row is
reported (`Loader.tables_of_loadText`).
-/

set_option autoImplicit false

namespace Acceptance

open Acceptance.Grammar Acceptance.Text Acceptance.Pattern

variable {W : Type}

/-- The stage of a document in front of a table. -/
def TablePlace.stage : TablePlace → Stage
  | step k => .step k
  | examples => .examples

/-- The stages of a document within a table and behind it, where it has not been put yet where it belongs. -/
def TablePlace.inside : TablePlace → List Stage
  | step k => [.table k, .attached k]
  | examples => [.examplesTable, .examplesRead]

/-- **Within a table and behind it** come rows, remarks and the end of the table, and then the end of what it
belongs to. -/
theorem Moves.of_inside {place : TablePlace} {m n : Stage} {event : Event} (h : Moves m event n)
    (hinside : m ∈ place.inside) :
    (∃ cells, event = .tableData cells) ∨
      (n ∈ place.inside ∧ (event.remarks = true ∨ event = .finishTable)) ∨
      place.ending = [.finishTable, event] := by
  cases h with
  | comment text hremarks => exact .inr (.inl ⟨hinside, .inl rfl⟩)
  | whitespace line hremarks => exact .inr (.inl ⟨hinside, .inl rfl⟩)
  | tableData k cells => exact .inl ⟨cells, rfl⟩
  | examplesData cells => exact .inl ⟨cells, rfl⟩
  | tags _ hstage | finishParse hstage =>
    rcases hstage with rfl | rfl <;> cases place <;> simp [TablePlace.inside] at hinside
  | finishTable k => cases place <;> simp_all [TablePlace.inside]
  | finishExamplesTable => cases place <;> simp_all [TablePlace.inside]
  | _ => cases place <;> simp_all [TablePlace.inside, TablePlace.ending]

/-! ## Rows of a draft -/

namespace Draft

variable {config : NamingConfig} {r : Registry W} {d next : Draft W} {event : Event} {m n : Stage}
  {place : TablePlace} {events remarks : List Event} {table : Table} {keys odd : List String}
  {rows even more : List (List String)}

/-- Rows that fit the keys join the table. -/
theorem answerAll_rows (htable : d.table = some table) (hrows : ∀ row ∈ rows, row.length = table.keys.length) :
    (builder config r).answerAll d (rows.map .tableData) =
      .ok { d with table := some ⟨table.keys, table.rows ++ rows⟩ } := by
  induction rows generalizing d table with
  | nil =>
    obtain ⟨⟩ := d
    cases htable
    rw [List.append_nil]
    rfl
  | cons row rows ih =>
    obtain ⟨hrow, hrest⟩ := List.forall_mem_cons.mp hrows
    let added : Draft W := { d with table := some ⟨table.keys, table.rows ++ [row]⟩ }
    have htable' : added.table = some ⟨table.keys, table.rows ++ [row]⟩ := rfl
    have hanswer : (builder config r).answer d (.tableData row) = .ok added := by
      rw [answer_builder, handle, htable]
      dsimp only
      rw [Table.addRow_eq_ok.mpr ⟨hrow, rfl⟩]
      rfl
    have hrows : (builder config r).answerAll added (rows.map .tableData) =
        .ok { added with table := some ⟨table.keys, table.rows ++ [row] ++ rows⟩ } :=
      ih (d := added) htable' hrest
    rw [List.map_cons, Handler.answerAll_cons_of_ok hanswer, hrows, List.append_assoc, List.singleton_append]

/-- **The events of a table** whose rows fit its keys leave the table in the draft. -/
theorem answerAll_ofTable (hrows : ∀ row ∈ rows, row.length = keys.length) :
    (builder config r).answerAll d (Event.ofTable keys rows) = .ok { d with table := some ⟨keys, rows⟩ } := by
  have hkeys : (builder config r).answer d (.startTable keys) =
      .ok { d with table := some (Table.ofKeys keys) } := answer_builder.mpr rfl
  rw [Event.ofTable, Handler.answerAll_cons_of_ok hkeys, answerAll_rows rfl hrows]
  rfl

/-- **The first row that does not fit** is refused, with its number among the rows. -/
theorem answerAll_uneven (heven : ∀ row ∈ even, row.length = keys.length) (hodd : odd.length ≠ keys.length) :
    (builder config r).answerAll d (Event.ofTable keys (even ++ odd :: more)) =
      .error (.uneven ⟨even.length + 1, keys.length, odd.length⟩) := by
  have hevents : Event.ofTable keys (even ++ odd :: more) =
      Event.ofTable keys even ++ .tableData odd :: more.map .tableData := by simp [Event.ofTable]
  have hrefused : (builder config r).answer { d with table := some ⟨keys, even⟩ } (.tableData odd) =
      .error (.uneven ⟨even.length + 1, keys.length, odd.length⟩) := by
    have hrow : Table.addRow ⟨keys, even⟩ odd = .error ⟨even.length + 1, keys.length, odd.length⟩ :=
      Table.addRow_eq_error.mpr ⟨hodd, rfl⟩
    rw [answer_builder_eq, handle]
    dsimp only
    rw [hrow]
    rfl
  rw [hevents, Handler.answerAll_append_of_ok (answerAll_ofTable heven),
    Handler.answerAll_cons_of_error hrefused]

/-- Where no lines are open, a draft makes nothing of comments and blank lines. -/
theorem answerAll_remarks (hlines : d.lines = none) (hremarks : ∀ event ∈ events, event.remarks = true) :
    (builder config r).answerAll d events = .ok d := by
  induction events with
  | nil => rfl
  | cons event events ih =>
    obtain ⟨hevent, hrest⟩ := List.forall_mem_cons.mp hremarks
    have hanswer : (builder config r).answer d event = .ok d := by
      rw [answer_builder]
      cases event with
      | comment text => rfl
      | whitespace line =>
        obtain ⟨⟩ := d
        cases hlines
        rfl
      | _ => cases hevent
    rw [Handler.answerAll_cons_of_ok hanswer, ih hrest]

/-- A table that ends is in the draft behind its rows and the remarks that follow them. -/
theorem answerAll_ending {rest : List Event} (hlines : d.lines = none)
    (hrows : ∀ row ∈ rows, row.length = keys.length) (hremarks : ∀ event ∈ remarks, event.remarks = true) :
    (builder config r).answerAll d (Event.ofTable keys rows ++ remarks ++ .finishTable :: rest) =
      (builder config r).answerAll { d with table := some ⟨keys, rows⟩ } rest := by
  have hremarked : (builder config r).answerAll { d with table := some ⟨keys, rows⟩ } remarks =
      .ok { d with table := some ⟨keys, rows⟩ } := answerAll_remarks hlines hremarks
  have hended : (builder config r).answer { d with table := some ⟨keys, rows⟩ } .finishTable =
      .ok { d with table := some ⟨keys, rows⟩ } := answer_builder.mpr rfl
  rw [List.append_assoc, Handler.answerAll_append_of_ok (answerAll_ofTable hrows),
    Handler.answerAll_append_of_ok hremarked, Handler.answerAll_cons_of_ok hended]

/-- **A step with a table** has the table attached, and nothing else. -/
theorem step_of_table {keyword : Keyword} {text : String} (hstep : d.step = some (keyword, text))
    (hcontents : d.contents = (none, none, none)) (hrows : ∀ row ∈ rows, row.length = keys.length)
    (hremarks : ∀ event ∈ remarks, event.remarks = true)
    (hanswers : (builder config r).answerAll d
      (Event.ofTable keys rows ++ remarks ++ [.finishTable, .finishStep]) = .ok next) :
    ∃ step : Step W, step.toStepText = ⟨keyword, text, none, some ⟨keys, rows⟩⟩ ∧
      next.current = d.current.map (·.addStep step) := by
  obtain ⟨hlines, hrest⟩ := Prod.mk.inj hcontents
  obtain ⟨hmultilines, -⟩ := Prod.mk.inj hrest
  let tabled : Draft W := { d with table := some ⟨keys, rows⟩ }
  rw [answerAll_ending hlines hrows hremarks] at hanswers
  obtain ⟨closed, hclosed, hnil⟩ := Handler.answerAll_cons_eq_ok.mp hanswers
  cases hnil
  have hclosed : (tabled.closeStep r).result = .ok next := answer_builder.mp hclosed
  obtain ⟨step, hmade, -, rfl⟩ := closeStep_result (d := tabled) hstep hclosed
  have hnone : tabled.multilines = none := hmultilines
  rw [hnone] at hmade
  exact ⟨step, hmade, rfl⟩

/-- **An examples block** expands the latest outline with its table, the keys as placeholders. -/
theorem expand_of_table {label : String} {tags : TagSet} {outline : Scenario W}
    (hexamples : d.examples = some (label, tags)) (houtline : d.outline = some outline)
    (hlines : d.lines = none) (hrows : ∀ row ∈ rows, row.length = keys.length)
    (hremarks : ∀ event ∈ remarks, event.remarks = true)
    (hanswers : (builder config r).answerAll d
      (Event.ofTable keys rows ++ remarks ++ [.finishTable, .finishExamples]) = .ok next) :
    ∃ scenarios, (outline.expand ⟨label, tags, ⟨keys.map outlineKey, rows⟩⟩ r).result = .ok scenarios ∧
      next.feature = d.feature.map fun f => f.addAll (nameOf config) scenarios := by
  let tabled : Draft W := { d with table := some ⟨keys, rows⟩ }
  rw [answerAll_ending hlines hrows hremarks] at hanswers
  obtain ⟨closed, hclosed, hnil⟩ := Handler.answerAll_cons_eq_ok.mp hanswers
  cases hnil
  have hclosed : (tabled.closeExamples config r).result = .ok next := answer_builder.mp hclosed
  refine ⟨tabled.ended r .finishExamples, ?_, ?_⟩
  · exact expand_of_closeExamples (d := tabled) hexamples rfl houtline hclosed
  · rw [closeExamples_result hclosed]

/-- A draft that has read a table has it until that is put where it belongs, and has no other rows then. -/
def HasOnly (place : TablePlace) (table : Table) (m : Stage) (d : Draft W) : Prop :=
  (m ∈ place.inside ∧ d.table = some table ∧ ∀ k, place = .step k → d.step.isSome = true ∧ d.multilines = none) ∨
    ∀ t, d.table = some t → t.rows = []

/-- Whatever is no row gives a draft no rows. -/
theorem rows_eq_nil_of_handle (hevent : ∀ cells, event ≠ .tableData cells) (h : ∀ t, d.table = some t → t.rows = [])
    (hnext : (d.handle config r event).result = .ok next) : ∀ t, next.table = some t → t.rows = [] := by
  cases event with
  | tableData cells => exact absurd rfl (hevent cells)
  | startTable keys =>
    cases hnext
    rintro t ht
    cases ht
    rfl
  | finishStep =>
    cases hstep : d.step with
    | none =>
      have hsame : next = d := by
        unfold handle closeStep at hnext
        rw [hstep] at hnext
        cases hnext
        rfl
      rwa [hsame]
    | some step =>
      obtain ⟨-, -, -, rfl⟩ := closeStep_result hstep hnext
      intro t ht
      dsimp only at ht
      split at ht
      · exact h t ht
      · cases ht
  | finishExamples =>
    rw [closeExamples_result hnext]
    exact nofun
  | finishScenario =>
    rw [finishScenario_result hnext]
    exact h
  | finishFeature =>
    rw [closeFeature_result hnext]
    exact h
  | _ =>
    cases hnext
    exact h

/-- **One event** that is no row leaves the table where it is, or puts it where it belongs. -/
theorem HasOnly.handle (h : d.HasOnly place table m) (hmoves : Moves m event n)
    (hevent : ∀ cells, event ≠ .tableData cells) (hnext : (d.handle config r event).result = .ok next) :
    next.HasOnly place table n := by
  rcases h with ⟨hinside, htable, hopen⟩ | hnone
  · rcases hmoves.of_inside hinside with ⟨cells, hrow⟩ | ⟨hinside, hquiet⟩ | hending
    · exact absurd hrow (hevent cells)
    · -- a remark or the end of the table
      have hsame : next.table = d.table ∧ next.step = d.step ∧ next.multilines = d.multilines := by
        rcases hquiet with hremark | rfl
        · cases event with
          | comment => cases hnext; exact ⟨rfl, rfl, rfl⟩
          | whitespace => cases hnext; exact ⟨rfl, rfl, rfl⟩
          | _ => cases hremark
        · cases hnext
          exact ⟨rfl, rfl, rfl⟩
      obtain ⟨htable', hstep', hmultilines'⟩ := hsame
      refine .inl ⟨hinside, htable'.trans htable, ?_⟩
      rwa [hstep', hmultilines']
    · cases place with
      | step k =>
        cases hending
        obtain ⟨hstep, hmultilines⟩ := hopen k rfl
        obtain ⟨step, hstep⟩ := Option.isSome_iff_exists.mp hstep
        obtain ⟨-, -, -, rfl⟩ := closeStep_result hstep hnext
        rw [hmultilines]
        exact .inr nofun
      | examples =>
        cases hending
        rw [closeExamples_result hnext]
        exact .inr nofun
  · exact .inr (rows_eq_nil_of_handle hevent hnone hnext)

/-- **Without definitions** nothing but the keys of an examples table is refused, where no other rows come. -/
theorem refusal?_of_answerAll {last : Stage} {fault : LoadFault} (hempty : r.definitions = [])
    (course : Course m events last) (hevents : ∀ event ∈ events, ∀ cells, event ≠ .tableData cells)
    (h : d.HasOnly place table m) (hanswers : (builder config r).answerAll d events = .error fault) :
    place = .examples ∧ ∃ cells ∈ table.rows, ∃ reason,
      Substitution.refusal? r.engine (table.pairs cells) = some reason ∧
        fault = .expansion (.substitution ⟨.refused reason⟩) := by
  induction course generalizing d with
  | nil => cases hanswers
  | @cons m middle last event events hmoves _ ih =>
    obtain ⟨hevent, hrest⟩ := List.forall_mem_cons.mp hevents
    cases hanswer : (builder config r).answer d event with
    | ok next =>
      rw [Handler.answerAll_cons_of_ok hanswer] at hanswers
      exact ih hrest (h.handle hmoves hevent (answer_builder.mp hanswer)) hanswers
    | error refused =>
      rw [Handler.answerAll_cons_of_error hanswer] at hanswers
      cases hanswers
      rw [answer_builder_eq] at hanswer
      cases refuses_of_handle hanswer with
      | ambiguous _ ha => simp [Registry.ambiguity?, Registry.IsAmbiguous, Registry.matching, hempty] at ha
      | uneven => exact absurd rfl (hevent _)
      | @expansion _ _ t outline cells obstacle fault _ htable _ hcells hmem hfault =>
        rcases h with ⟨hinside, hsame, -⟩ | hnone
        · rw [hsame] at htable
          cases htable
          obtain ⟨reason, hreason, rfl⟩ := Scenario.refusal?_of_fault? hempty hmem hfault
          refine ⟨?_, cells, hcells, reason, hreason, rfl⟩
          -- an examples block does not end within a step
          rw [hmoves.of_finishExamples] at hinside
          cases place with
          | step k => simp [TablePlace.inside] at hinside
          | examples => rfl
        · rw [hnone t htable] at hcells
          cases hcells

end Draft

/-! ## The end of a table -/

/-- Only the line class of table rows gives cells. -/
theorem Grammar.matcher_of_tableData_mem : ∀ s : State, ∀ row ∈ standard.rows s, .tableData ∈ row.actions →
    row.matcher = .tableRow := by
  intro s
  cases s <;> decide

namespace Parser

variable {p : Parser} {place : TablePlace} {lines : List String}

/-- **What follows a row**: a comment or a blank line, another row, or the end of the table. -/
theorem report_within_table (hstate : p.state = place.within) (line : Option String)
    (hok : (p.report line).fault = none) :
    (∃ text event, line = some text ∧ (LineClass.ofLine text).isRemark = true ∧ event.remarks = true ∧
        (p.report line).events = [event] ∧ (p.report line).parser.state = place.within) ∨
      (∃ text, line = some text ∧ LineClass.ofLine text = .tableRow) ∨
      ∃ more, (p.report line).events = place.ending ++ more := by
  rcases p.report_cases line with ⟨fault, -, hreport⟩ | ⟨text, rfl, hblank, -, hreport⟩ |
    ⟨row, parts, events, hrow, haccepts, hevents, hreport⟩
  · rw [hreport] at hok
    cases hok
  · rw [hreport]
    refine .inl ⟨text, .whitespace text, rfl, ?_, rfl, rfl, (state_count p _).trans hstate⟩
    rw [LineClass.ofLine_eq_blank.mpr hblank]
    rfl
  · rw [hreport]
    rw [hstate] at hrow
    rcases place.row_of_within row hrow with rfl | hmatcher | hactions
    · cases line with
      | none => cases haccepts.1
      | some text =>
        cases hevents with
        | cons hevent hnil =>
          cases hnil
          cases hevent
          refine .inl ⟨text, _, rfl, ?_, rfl, rfl, rfl⟩
          rw [ofLine_of_accepts haccepts rfl]
          rfl
    · cases line with
      | none =>
        rw [haccepts.1] at hmatcher
        cases hmatcher
      | some text => exact .inr (.inl ⟨text, rfl, ofLine_of_accepts haccepts (by rw [hmatcher]; rfl)⟩)
    · exact .inr (.inr (TablePlace.ending_of_reports hevents hactions))

/-- **The end of a table** is reported behind its rows and the remarks that follow them, and before anything
else. -/
theorem exists_ending (hstate : p.state = place.within) (hends : EndsTable lines)
    (hok : (p.reportAll lines).fault = none) (hclosing : ((p.reportAll lines).parser.report none).fault = none) :
    ∃ remarks more, (∀ event ∈ remarks, event.remarks = true) ∧
      (p.reportAll lines).events ++ ((p.reportAll lines).parser.report none).events =
        remarks ++ place.ending ++ more := by
  induction lines generalizing p with
  | nil =>
    rcases report_within_table hstate none hclosing with ⟨text, -, hline, -⟩ | ⟨text, hline, -⟩ | ⟨more, hmore⟩
    · cases hline
    · cases hline
    · exact ⟨[], more, List.forall_mem_nil _, hmore⟩
  | cons line lines ih =>
    rw [reportAll] at hok hclosing ⊢
    obtain ⟨hfirst, hrest⟩ := Transcript.fault_andThen_eq_none.mp hok
    rw [Transcript.andThen_of_none hfirst] at hclosing ⊢
    dsimp only at hclosing ⊢
    rcases report_within_table hstate (some line) hfirst with
      ⟨text, event, hline, hremark, hevent, hevents, hwithin⟩ | ⟨text, hline, hrow⟩ | ⟨more, hmore⟩
    · cases hline
      have hothers : EndsTable lines := fun other hother =>
        hends other (by rw [List.find?_cons_of_neg (by simp [hremark]), hother])
      obtain ⟨remarks, more, hremarks, hending⟩ := ih hwithin hothers hrest hclosing
      refine ⟨event :: remarks, more, List.forall_mem_cons.mpr ⟨hevent, hremarks⟩, ?_⟩
      rw [hevents, List.append_assoc, hending]
      rfl
    · cases hline
      exact absurd hrow (hends line (List.find?_cons_of_pos (by rw [hrow]; rfl)))
    · rw [hmore]
      exact ⟨[], _, List.forall_mem_nil _, by rw [List.append_assoc, List.append_assoc]; rfl⟩

/-- The end of input ends a table. -/
theorem fault_none_within_table (hstate : p.state = place.within) : (p.report none).fault = none := by
  refine p.recognises_nil.mpr ?_
  rw [hstate]
  cases place with
  | step k => cases k <;> decide
  | examples => decide

/-- Rows are reported of table rows only. -/
theorem tableRow_of_report {line : Option String} {cells : List String}
    (h : .tableData cells ∈ (p.report line).events) :
    ∃ text, line = some text ∧ LineClass.ofLine text = .tableRow := by
  rcases p.report_cases line with ⟨fault, -, hreport⟩ | ⟨text, -, -, -, hreport⟩ |
    ⟨row, parts, events, hrow, haccepts, hevents, hreport⟩
  · rw [hreport] at h
    cases h
  · rw [hreport] at h
    cases List.mem_singleton.mp h
  · rw [hreport] at h
    obtain ⟨action, haction, hevent⟩ := exists_left_of_mem hevents h
    have hdata : action = .tableData := by
      cases action with
      | startStep =>
        obtain ⟨keyword, text, hstep⟩ := Action.eq_startStep_of_event hevent
        cases hstep
      | _ => first | rfl | cases hevent
    have hmatcher := matcher_of_tableData_mem _ row hrow (hdata ▸ haction)
    cases line with
    | none =>
      rw [haccepts.1] at hmatcher
      cases hmatcher
    | some text => exact ⟨text, rfl, ofLine_of_accepts haccepts (by rw [hmatcher]; rfl)⟩

/-- Behind lines that are no table rows no rows are reported, and none at the end of input. -/
theorem ne_tableData_of_reportAll (h : ∀ line ∈ lines, LineClass.ofLine line ≠ .tableRow) :
    ∀ event ∈ ((p.reportAll lines).andThen fun q => q.report none).events, ∀ cells, event ≠ .tableData cells := by
  induction lines generalizing p with
  | nil =>
    rintro event hevent cells rfl
    have hend : Event.tableData cells ∈ (p.report none).events := hevent
    obtain ⟨text, hline, -⟩ := tableRow_of_report hend
    cases hline
  | cons line lines ih =>
    obtain ⟨hline, hrest⟩ := List.forall_mem_cons.mp h
    rintro event hevent cells rfl
    rw [reportAll, Transcript.andThen_assoc] at hevent
    rcases Transcript.mem_events_andThen hevent with hevent | hevent
    · obtain ⟨text, hsame, hrow⟩ := tableRow_of_report hevent
      cases hsame
      exact hline hrow
    · exact ih hrest _ hevent cells rfl

end Parser

/-- The events of a table of a step bound no block. -/
theorem boundsBlock_of_table {keys : List String} {rows : List (List String)} {remarks : List Event}
    {k : BlockKind} (hremarks : ∀ event ∈ remarks, event.remarks = true) :
    ∀ event ∈ Event.ofTable keys rows ++ remarks ++ (TablePlace.step k).ending, event.boundsBlock = false := by
  intro event hevent
  rcases List.mem_append.mp hevent with hevent | hevent
  · rcases List.mem_append.mp hevent with hevent | hevent
    · rcases List.mem_cons.mp hevent with rfl | hevent
      · rfl
      · obtain ⟨row, -, rfl⟩ := List.mem_map.mp hevent
        rfl
    · have hremark := hremarks event hevent
      cases event <;> first | rfl | cases hremark
  · rcases List.mem_pair.mp hevent with rfl | rfl <;> rfl

/-! ## The line in front of a table -/

namespace Grammar

/-- A step opens with the last action of its row. -/
theorem last_of_startStep : ∀ s : State, ∀ row ∈ standard.rows s, .startStep ∈ row.actions →
    row.actions.getLast? = some .startStep := by
  intro s
  cases s <;> decide

/-- Examples open with the last action of their row, which leads to their state. -/
theorem last_of_startExamples : ∀ s : State, ∀ row ∈ standard.rows s, .startExamples ∈ row.actions →
    row.actions.getLast? = some .startExamples ∧ row.next = .examples := by
  intro s
  cases s <;> decide

/-- The last event that a row reports is that of its last action. -/
theorem Reports.exists_last {parts : List String} {actions : List Action} {action : Action} {events : List Event}
    (h : Reports parts (actions ++ [action]) events) :
    ∃ closing event, events = closing ++ [event] ∧ action.event parts = .ok event := by
  induction actions generalizing events with
  | nil =>
    cases h with
    | cons hevent hnil =>
      cases hnil
      exact ⟨[], _, rfl, hevent⟩
  | cons first actions ih =>
    cases h with
    | cons _ hrest =>
      obtain ⟨closing, event, rfl, hevent⟩ := ih hrest
      exact ⟨_ :: closing, event, rfl, hevent⟩

end Grammar

/-! ## The outline of an examples block -/

namespace History

/-- Something sought has been met if one of the events carries it. -/
theorem isSome_latest {α : Type} (sought : Event → Option α) (past : History) :
    (past.latest sought).isSome = past.any fun event => (sought event).isSome := by
  induction past with
  | nil => rfl
  | cons event past ih =>
    unfold latest
    rw [List.any_cons, ← ih]
    cases sought event <;> rfl

/-- A block of a kind has been met if one of the events opens it. -/
theorem isSome_block? (k : BlockKind) (past : History) :
    (past.block? k).isSome = past.any fun event => (k.title? event).isSome := by
  rw [block?, Option.isSome_map, isSome_latest]

end History

/-- **An examples block has an outline**: one has ended before it. -/
theorem Draft.exists_outline {config : NamingConfig} {r : Registry W} {d : Draft W} {events : List Event}
    (hcourse : Course .outside events .examples) (hanswers : (builder config r).answerAll {} events = .ok d)
    (hended : .finishOutline ∈ events) : ∃ outline, d.outline = some outline := by
  obtain ⟨first, second, rfl⟩ := List.append_of_mem hended
  obtain ⟨m, hfirst, hrest⟩ := hcourse.exists_of_append
  obtain ⟨opened, hopened, -⟩ := Handler.answerAll_append_eq_ok.mp hanswers
  cases hrest with
  | cons hmoves _ =>
    obtain rfl := hmoves.of_finish (k := .outline) rfl
    obtain ⟨added, hbefore⟩ := (recalls_nil config).course hfirst hopened
    obtain ⟨hcurrent, hblock⟩ := hbefore.block .outline rfl
    obtain ⟨added, hrecalls⟩ := (recalls_nil config).course hcourse hanswers
    have houtline := congrArg Option.isSome (hrecalls.outline (by decide))
    have hheader := congrArg Option.isSome hcurrent
    rw [Option.isSome_map, Option.isSome_map, List.append_nil, History.isSome_block?] at houtline hheader
    rw [hblock, List.any_reverse] at hheader
    rw [List.any_reverse, List.any_append, ← hheader, Bool.true_or] at houtline
    exact Option.isSome_iff_exists.mp houtline

/-! ## Texts with a table -/

/-- The events of a document up to the end of some of its lines. -/
def Session.eventsUpTo (before : List String) : List Event :=
  .startParse textSource :: (({} : Parser).reportAll before).events

namespace Loader

variable {l : Loader W} {text : String} {suite : Suite W} {before lines rest after : List String}
  {place : TablePlace} {reached : Session (Draft W)} {keys odd : List String}
  {rows even more : List (List String)}

/-- Whether a loader comes through the first lines of a text, and to which session. -/
def ComesThrough (l : Loader W) (before : List String) (reached : Session (Draft W)) : Prop :=
  ({ state := {} } : Session (Draft W)).fed (Draft.builder l.config l.registry) Session.textSource before =
    (reached, .ok ())

/-- Whether a loader comes through the lines before a table, and stands in front of it. -/
structure Reaches (l : Loader W) (before : List String) (place : TablePlace) (reached : Session (Draft W)) :
    Prop where
  comes : l.ComesThrough before reached
  state : reached.parser.state = place.before

namespace Reaches

/-- The draft reached is what the events up to there have made. -/
theorem answers (h : l.Reaches before place reached) :
    (Draft.builder l.config l.registry).answerAll {} (Session.eventsUpTo before) = .ok reached.state ∧
      (({} : Parser).reportAll before).fault = none ∧
      (({} : Parser).reportAll before).parser = reached.parser := by
  have hfollows := Session.fed_follows (h := Draft.builder l.config l.registry) Session.textSource before
    { state := {} }
  rw [show _ = _ from h.comes, Transcript.andThen_of_none rfl] at hfollows
  obtain ⟨hanswers, hparser, hfault⟩ := hfollows.of_outcome rfl
  exact ⟨hanswers, hfault, hparser.symm⟩

/-- The events up to there have taken their course to the place of the table. -/
theorem course (h : l.Reaches before place reached) :
    Course .outside (Session.eventsUpTo before) place.stage := by
  have hstart : ∃ m, Course .outside [.startParse Session.textSource] m ∧ m ∈ State.start.stages :=
    ⟨.outside, .cons (.startParse _) (.nil _), by decide⟩
  obtain ⟨m, hcourse, hm⟩ := Stage.tracks.startParse hstart before
  obtain ⟨-, -, hparser⟩ := h.answers
  have hstages : place.before.stages = [place.stage] := by
    cases place with
    | step k => cases k <;> rfl
    | examples => rfl
  rw [hparser, h.state, hstages, List.mem_singleton] at hm
  exact hm ▸ hcourse

/-- Where an examples block is open, an outline has ended. -/
theorem finishOutline_mem (h : l.Reaches before .examples reached) :
    .finishOutline ∈ Session.eventsUpTo before := by
  obtain ⟨situation, hafter, -, -, houtlined⟩ :=
    Situation.tracks.startParse (Situation.stands_startParse Session.textSource) before
  obtain ⟨-, -, hparser⟩ := h.answers
  have hbehind := houtlined (by rw [hparser, h.state]; decide)
  obtain ⟨hbefore, -⟩ | ⟨first, second, hevents, -⟩ := Situation.endsOutline_of_afterAll hafter hbehind
  · cases hbefore
  · rw [Session.eventsUpTo, hevents]
    exact List.mem_append_right first List.mem_cons_self

/-- **Loading goes on** from the parser and the draft that have been reached. -/
theorem result_eq (h : l.Reaches before place reached) (hlines : linesOf text = before ++ rest) :
    (l.loadText text).result = l.loadRest reached.parser reached.state rest := by
  obtain ⟨hanswers, hfault, hparser⟩ := h.answers
  have hstart : (Draft.builder l.config l.registry).answer ({} : Draft W) (.startParse Session.textSource) =
      .ok { source := Session.textSource } := by rfl
  rw [Session.eventsUpTo, Handler.answerAll_cons_of_ok hstart] at hanswers
  rw [result_loadText, hlines, loadRest_append, build_of_ok hanswers hfault, ← hparser]
  rfl

end Reaches

section Opening

variable {opened : Session (Draft W)} {line : String} {row : Transition} {parts : List String} {action : Action}

/-- What a line reports last, the draft takes last. -/
theorem exists_handle_of_feed (hread : (opened.parser.count (some line)).read (some line) = .fires row parts)
    (hfeed : Session.feed (Draft.builder l.config l.registry) opened (some line) = (reached, .ok ()))
    (hlast : row.actions.getLast? = some action) :
    ∃ (d : Draft W) (event : Event), action.event parts = .ok event ∧
      (d.handle l.config l.registry event).result = .ok reached.state ∧ reached.parser.state = row.next := by
  obtain ⟨events, hevents, hreport⟩ := Parser.report_of_fires hread
  have hfollows := Session.feed_follows (h := Draft.builder l.config l.registry) (some line) opened
  rw [hfeed, hreport] at hfollows
  obtain ⟨hanswers, hparser, -⟩ := hfollows.of_outcome rfl
  obtain ⟨closing, hactions⟩ := List.getLast?_eq_some_iff.mp hlast
  rw [hactions] at hevents
  obtain ⟨closing, event, rfl, hevent⟩ := hevents.exists_last
  obtain ⟨d, -, hanswer⟩ := Handler.answerAll_append_eq_ok.mp hanswers
  obtain ⟨next, hnext, hnil⟩ := Handler.answerAll_cons_eq_ok.mp hanswer
  cases hnil
  exact ⟨d, event, hevent, Draft.answer_builder.mp hnext, congrArg Parser.state hparser⟩

/-- A line that is read on from a document that came through comes through with it. -/
theorem ComesThrough.concat (h : l.ComesThrough before opened)
    (hfeed : Session.feed (Draft.builder l.config l.registry) opened (some line) = (reached, .ok ())) :
    l.ComesThrough (before ++ [line]) reached := by
  unfold ComesThrough at h ⊢
  rw [Session.fed_append, h, Session.goOn_of_ok rfl, Session.feedAll_cons, hfeed, Session.goOn_of_ok rfl]
  rfl

/-- **A line that begins a step** leaves a loader in front of a table of the step. -/
theorem reaches_of_startStep (hcomes : l.ComesThrough before opened)
    (hread : (opened.parser.count (some line)).read (some line) = .fires row parts)
    (hstart : .startStep ∈ row.actions)
    (hfeed : Session.feed (Draft.builder l.config l.registry) opened (some line) = (reached, .ok ())) :
    ∃ (k : BlockKind) (keyword : Keyword) (stepText : String), opened.parser.ReadsStep line keyword stepText ∧
      l.Reaches (before ++ [line]) (.step k) reached ∧ reached.state.step = some (keyword, stepText) := by
  have hrow := (Parser.mem_and_accepts_of_read hread).1
  obtain ⟨keyword, stepText, hreads, hevent⟩ := Parser.startStep_of_read hread hstart
  obtain ⟨d, event, hevent', hhandle, hstate⟩ :=
    exists_handle_of_feed hread hfeed (last_of_startStep _ row hrow hstart)
  rw [hevent] at hevent'
  cases hevent'
  have hstep : { d with step := some (keyword, stepText) } = reached.state := Except.ok.inj hhandle
  have hnext : ∃ k : BlockKind, row.next = (TablePlace.step k).before := by
    rcases next_of_startStep _ row hrow hstart with hnext | hnext | hnext
    · exact ⟨.background, hnext⟩
    · exact ⟨.scenario, hnext⟩
    · exact ⟨.outline, hnext⟩
  obtain ⟨k, hnext⟩ := hnext
  exact ⟨k, keyword, stepText, hreads, ⟨hcomes.concat hfeed, hstate.trans hnext⟩, by rw [← hstep]⟩

/-- **A header of an examples block** leaves a loader in front of the table of the block. -/
theorem reaches_of_startExamples (hcomes : l.ComesThrough before opened)
    (hread : (opened.parser.count (some line)).read (some line) = .fires row parts)
    (hstart : .startExamples ∈ row.actions)
    (hfeed : Session.feed (Draft.builder l.config l.registry) opened (some line) = (reached, .ok ())) :
    ∃ tags, l.Reaches (before ++ [line]) .examples reached ∧
      reached.state.examples = some (l.config.examplesPrefix ++ slugify (parts.headD ""), tags) := by
  have hrow := (Parser.mem_and_accepts_of_read hread).1
  obtain ⟨hlast, hnext⟩ := last_of_startExamples _ row hrow hstart
  obtain ⟨d, event, hevent, hhandle, hstate⟩ := exists_handle_of_feed hread hfeed hlast
  cases hevent
  let tags := d.pendingTags
  let label := l.config.examplesPrefix ++ slugify (parts.headD "")
  have hexamples : { d with examples := some (label, tags), pendingTags := ∅ } = reached.state :=
    Except.ok.inj hhandle
  exact ⟨tags, ⟨hcomes.concat hfeed, hstate.trans hnext⟩, by rw [← hexamples]⟩

end Opening

/-- **An uneven table is caught** at its first row of another length, whatever comes behind it. -/
theorem result_of_uneven (h : l.Reaches before place reached)
    (htable : WritesTable keys (even ++ odd :: more) lines) (hlines : linesOf text = before ++ (lines ++ after))
    (heven : ∀ row ∈ even, row.length = keys.length) (hodd : odd.length ≠ keys.length) :
    (l.loadText text).result = .error (.uneven ⟨even.length + 1, keys.length, odd.length⟩) := by
  obtain ⟨q, hreports, -⟩ := Parser.reportAll_rows h.state htable
  have hrefused : l.build reached.state (reached.parser.reportAll lines) =
      .error (.uneven ⟨even.length + 1, keys.length, odd.length⟩) := by
    refine build_of_refusal ?_
    rw [hreports]
    exact Draft.answerAll_uneven heven hodd
  rw [h.result_eq hlines, loadRest_append, hrefused]
  rfl

/-- **A table whose rows fit its keys** is in the draft behind its lines. -/
theorem exists_result_of_even (h : l.Reaches before place reached) (htable : WritesTable keys rows lines)
    (hlines : linesOf text = before ++ (lines ++ after)) (heven : ∀ row ∈ rows, row.length = keys.length) :
    ∃ q : Parser, q.state = place.within ∧
      (l.loadText text).result = l.loadRest q { reached.state with table := some ⟨keys, rows⟩ } after := by
  obtain ⟨q, hreports, hwithin⟩ := Parser.reportAll_rows h.state htable
  have hbuilt : l.build reached.state (reached.parser.reportAll lines) =
      .ok (q, { reached.state with table := some ⟨keys, rows⟩ }) := by
    rw [hreports]
    exact build_of_ok (Draft.answerAll_ofTable heven) rfl
  refine ⟨q, hwithin, ?_⟩
  rw [h.result_eq hlines, loadRest_append, hbuilt]
  rfl

/-- The draft behind a table has that and no other rows. -/
theorem hasOnly_of_reaches (keys : List String) (rows : List (List String)) (h : l.Reaches before place reached) :
    ∃ m ∈ place.within.stages,
      { reached.state with table := some ⟨keys, rows⟩ }.HasOnly place ⟨keys, rows⟩ m := by
  obtain ⟨hanswers, -, -⟩ := h.answers
  have hfills := Draft.Fills.course h.course hanswers
  cases place with
  | step k =>
    obtain ⟨-, s, -, -, hstep, ⟨hcontents, -⟩, -⟩ := hfills.exists_span id
    have hopen : reached.state.step.isSome = true ∧ reached.state.multilines = none :=
      ⟨by rw [hstep]; rfl, (Prod.mk.inj (Prod.mk.inj hcontents).2).1⟩
    refine ⟨.table k, by cases k <;> decide, .inl ⟨List.mem_cons_self, rfl, fun _ _ => hopen⟩⟩
  | examples => exact ⟨.examplesTable, by decide, .inl ⟨List.mem_cons_self, rfl, nofun⟩⟩

/-- **Without definitions** such a table is loaded, unless the lines behind it have other rows or a fault, or the
engine has no room for the keys of an examples table. -/
theorem loads_of_even (hempty : l.registry.definitions = []) (h : l.Reaches before place reached)
    (htable : WritesTable keys rows lines) (hlines : linesOf text = before ++ (lines ++ after))
    (hrows : ∀ row ∈ rows, row.length = keys.length) (hafter : ∀ line ∈ after, LineClass.ofLine line ≠ .tableRow) :
    (∃ suite, (l.loadText text).result = .ok suite) ∨
      (after ≠ [] ∧ ∃ fault, (l.loadText text).result = .error (.parse fault)) ∨
      place = .examples ∧ ∃ cells ∈ rows, ∃ reason,
        Substitution.refusal? l.registry.engine (Table.pairs ⟨keys, rows⟩ cells) = some reason ∧
          (l.loadText text).result = .error (.expansion (.substitution ⟨.refused reason⟩)) := by
  obtain ⟨q, hwithin, hresult⟩ := exists_result_of_even h htable hlines hrows
  let filled : Draft W := { reached.state with table := some ⟨keys, rows⟩ }
  let t := (q.reportAll after).andThen fun q => q.report none
  rw [hresult, loadRest]
  cases hanswers : (Draft.builder l.config l.registry).answerAll filled t.events with
  | ok next =>
    cases hfault : t.fault with
    | none =>
      rw [build_of_ok hanswers hfault]
      exact .inl ⟨_, rfl⟩
    | some fault =>
      rw [build_of_fault hanswers hfault]
      refine .inr (.inl ⟨?_, fault, rfl⟩)
      rintro rfl
      cases (Parser.fault_none_within_table hwithin).symm.trans hfault
  | error fault =>
    obtain ⟨m, hm, hholds⟩ := hasOnly_of_reaches keys rows h
    have htracks : ∃ last, Course m t.events last ∧ last ∈ t.parser.state.stages :=
      Stage.tracks.andThen (Stage.tracks.reportAll (hwithin ▸ hm) after) fun _ _ hb =>
        Stage.tracks.report hb none
    obtain ⟨last, hcourse, -⟩ := htracks
    obtain ⟨hplace, cells, hcells, reason, hreason, rfl⟩ := Draft.refusal?_of_answerAll hempty hcourse
      (Parser.ne_tableData_of_reportAll hafter) hholds hanswers
    rw [build_of_refusal hanswers]
    exact .inr (.inr ⟨hplace, cells, hcells, reason, hreason, rfl⟩)

/-- **The events of a text** with a table that ends. -/
theorem exists_events_of_table (h : (l.loadText text).result = .ok suite)
    (hreaches : l.Reaches before place reached) (htable : WritesTable keys rows lines)
    (hlines : linesOf text = before ++ (lines ++ after)) (hends : EndsTable after) :
    ∃ remarks later, (∀ event ∈ remarks, event.remarks = true) ∧
      Session.eventsOf text =
        Session.eventsUpTo before ++ (Event.ofTable keys rows ++ remarks ++ place.ending) ++ later := by
  obtain ⟨-, hbefore, hparser⟩ := hreaches.answers
  obtain ⟨q, hreports, hwithin⟩ := Parser.reportAll_rows hreaches.state htable
  obtain ⟨body, closing, rfl, hbody, rfl, hclosing, hdocument⟩ :=
    Transcript.ofLines_of_fault_eq_none (fault_of_loadText h)
  have hall : ({} : Parser).reportAll (linesOf text) =
      ⟨(({} : Parser).reportAll before).events ++ (Event.ofTable keys rows ++ (q.reportAll after).events),
        (q.reportAll after).parser, (q.reportAll after).fault⟩ := by
    rw [hlines, Parser.reportAll_append, Transcript.andThen_of_none hbefore, hparser, Parser.reportAll_append,
      hreports, Transcript.andThen_of_none rfl]
  rw [hall] at hbody hclosing hdocument
  obtain ⟨remarks, more, hremarks, hending⟩ := Parser.exists_ending hwithin hends hbody hclosing
  refine ⟨remarks, more ++ [.finishParse], hremarks, ?_⟩
  rw [Session.eventsOf_eq, hdocument, Session.eventsUpTo]
  dsimp only
  rw [List.append_assoc, List.append_assoc, hending]
  simp

/-- What a table becomes at its place, when the events of a text up to some event have ended that. A step has it
attached, and nothing else. With the table of an examples block, its keys as placeholders, the latest outline is
expanded, and the feature has the scenarios. -/
def BuildsTable (l : Loader W) (text : String) (suite : Suite W) (d : Draft W) (events : List Event)
    (table : Table) : TablePlace → Prop
  | .step k => ∃ (keyword : Keyword) (stepText : String) (step : Step W) (b : Scenario W),
      d.step = some (keyword, stepText) ∧ step.toStepText = ⟨keyword, stepText, none, some table⟩ ∧
      l.BuildsStep text suite events step k b
  | .examples => ∃ (label : String) (tags : TagSet) (outline : Scenario W) (scenarios : List (Scenario W))
      (next : Draft W), d.examples = some (label, tags) ∧ d.outline = some outline ∧
      (outline.expand ⟨label, tags, ⟨table.keys.map outlineKey, table.rows⟩⟩ l.registry).result = .ok scenarios ∧
      (Draft.builder l.config l.registry).answerAll {} events = .ok next ∧
      next.feature = d.feature.map fun f => f.addAll (Draft.nameOf l.config) scenarios

/-- **A table that ends** becomes what is said at its place. -/
theorem buildsTable (h : (l.loadText text).result = .ok suite) (hreaches : l.Reaches before place reached)
    (hrows : ∀ row ∈ rows, row.length = keys.length) {remarks later : List Event}
    (hremarks : ∀ event ∈ remarks, event.remarks = true)
    (hevents : Session.eventsOf text =
      Session.eventsUpTo before ++ (Event.ofTable keys rows ++ remarks ++ place.ending) ++ later) :
    l.BuildsTable text suite reached.state
      (Session.eventsUpTo before ++ (Event.ofTable keys rows ++ remarks ++ place.ending)) ⟨keys, rows⟩ place := by
  have hcourse := hreaches.course
  obtain ⟨hanswers, -, -⟩ := hreaches.answers
  have hfills := Draft.Fills.course hcourse hanswers
  obtain ⟨⟨final, hfinal, -⟩, last, hall, -⟩ := exists_answerAll_of_loadText h
  rw [hevents] at hfinal hall
  obtain ⟨next, hnext, -⟩ := Handler.answerAll_append_eq_ok.mp hfinal
  have hended := hnext
  rw [Handler.answerAll_append_of_ok hanswers] at hended
  cases place with
  | step k =>
    obtain ⟨closed, s, -, -, hstep, ⟨hcontents, -⟩, hbuilds⟩ := hfills.exists_span id
    obtain ⟨opened, hopened, -, -⟩ := hbuilds.block
    obtain ⟨step, hmade, hcurrent⟩ := Draft.step_of_table hstep hcontents hrows hremarks hended
    rw [hopened, Option.map_some] at hcurrent
    obtain ⟨m, hpast, -⟩ := hall.exists_of_append
    obtain ⟨m', hbefore, hinner⟩ := hpast.exists_of_append
    obtain rfl := hcourse.unique hbefore
    have hm : m.part = .block k := hinner.stays_in_block rfl (boundsBlock_of_table hremarks)
    obtain ⟨b, hbuilt⟩ := exists_buildsStep h hevents hpast hm hnext hcurrent List.getLast?_concat
    exact ⟨s.keyword, s.text, step, b, hstep, hmade, hbuilt⟩
  | examples =>
    obtain ⟨-, hcontents, -⟩ := hfills.of_rests fun _ => id
    obtain ⟨added, hrecalls⟩ := (Draft.recalls_nil l.config).course hcourse hanswers
    obtain ⟨label, header, -, hexamples⟩ := hrecalls.examples rfl
    obtain ⟨outline, houtline⟩ := Draft.exists_outline hcourse hanswers hreaches.finishOutline_mem
    obtain ⟨scenarios, hexpand, hfeature⟩ :=
      Draft.expand_of_table hexamples houtline (congrArg Prod.fst hcontents) hrows hremarks hended
    exact ⟨_, _, outline, scenarios, next, hexamples, houtline, hexpand, hnext, hfeature⟩

/-- Where a table of an examples block has been loaded, the engine has room for its keys. -/
theorem refusal?_of_buildsTable {d : Draft W} {events : List Event} {table : Table}
    (h : l.BuildsTable text suite d events table .examples) :
    ∀ cells ∈ table.rows, Substitution.refusal? l.registry.engine (table.pairs cells) = none := by
  obtain ⟨label, tags, outline, scenarios, next, -, -, hexpand, -⟩ := h
  intro cells hcells
  have hexpand : (outline.expand (.ofTable label tags table) l.registry).result = .ok scenarios := hexpand
  have hkeys := (outline.expand_passes label tags table).forall_eq_none hexpand (.keys (table.pairs cells))
    (List.mem_flatMap.mpr ⟨cells, hcells, List.mem_cons_self⟩)
  rw [Scenario.Obstacle.fault?, Option.map_eq_none_iff] at hkeys
  exact hkeys

/-- **Tables come back, and uneven ones are caught.** A row of cells, with any blanks around them and around the
row, is read as the cells; and any line that is read as a row gives one cell at least, and cells that can be
written and read again. A table can be written into any text. A line that begins a step, and a header of an
examples block, leave a loader in front of a table. There a table with a row that does not fit its keys is refused,
with the number of the first such row, whatever comes behind it. If all rows fit, loading goes on with the table as
it was written, and without definitions nothing but a fault of the lines behind it, another table, or an engine
that has no room for the keys of an examples table can prevent a suite. Whenever there is a suite and the table
does not go on, the step has the table, or the outline has been expanded with it, its keys as placeholders, and
the engine has room for these. -/
theorem tables_of_loadText (l : Loader W) :
    (∀ (cells : List String) (line : String) (p : Parser), cells ≠ [] → (∀ cell ∈ cells, IsCell cell) →
        WritesRow cells line → p.partsOf .tableRow line = .ok (some cells)) ∧
      (∀ (p : Parser) (line : String) (cells : List String), p.partsOf .tableRow line = .ok (some cells) →
        cells ≠ [] ∧ (∀ cell ∈ cells, IsCell cell) ∧ WritesRow cells (rowLine cells) ∧
          ∀ (other : String) (q : Parser), WritesRow cells other → q.partsOf .tableRow other = .ok (some cells)) ∧
      (∀ (keys : List String) (rows : List (List String)) (lines : List String) (first last : String),
        WritesTable keys rows lines → first = "" ∨ first.toList.getLast? = some '\n' →
        linesOf (first ++ (String.join (lines.map (· ++ "\n")) ++ last)) =
            linesOf first ++ lines.map asRead ++ linesOf last ∧
          WritesTable keys rows (lines.map asRead)) ∧
      (∀ (before : List String) (line : String) (opened reached : Session (Draft W)) (row : Transition)
          (parts : List String), l.ComesThrough before opened →
        (opened.parser.count (some line)).read (some line) = .fires row parts →
        Session.feed (Draft.builder l.config l.registry) opened (some line) = (reached, .ok ()) →
        (.startStep ∈ row.actions → ∃ (k : BlockKind) (keyword : Keyword) (stepText : String),
          opened.parser.ReadsStep line keyword stepText ∧ l.Reaches (before ++ [line]) (.step k) reached ∧
            reached.state.step = some (keyword, stepText)) ∧
        (.startExamples ∈ row.actions → ∃ tags, l.Reaches (before ++ [line]) .examples reached ∧
          reached.state.examples = some (l.config.examplesPrefix ++ slugify (parts.headD ""), tags))) ∧
      ∀ (text : String) (before lines after : List String) (place : TablePlace) (reached : Session (Draft W))
        (keys : List String) (rows : List (List String)), l.Reaches before place reached →
        WritesTable keys rows lines → linesOf text = before ++ (lines ++ after) →
        (∀ even odd more, rows = even ++ odd :: more → (∀ row ∈ even, row.length = keys.length) →
          odd.length ≠ keys.length →
          (l.loadText text).result = .error (.uneven ⟨even.length + 1, keys.length, odd.length⟩)) ∧
        ((∀ row ∈ rows, row.length = keys.length) →
          (∃ q : Parser, q.state = place.within ∧
            (l.loadText text).result = l.loadRest q { reached.state with table := some ⟨keys, rows⟩ } after) ∧
          (l.registry.definitions = [] → (∀ line ∈ after, LineClass.ofLine line ≠ .tableRow) →
            (∃ suite, (l.loadText text).result = .ok suite) ∨
              (after ≠ [] ∧ ∃ fault, (l.loadText text).result = .error (.parse fault)) ∨
              place = .examples ∧ ∃ cells ∈ rows, ∃ reason,
                Substitution.refusal? l.registry.engine (Table.pairs ⟨keys, rows⟩ cells) = some reason ∧
                  (l.loadText text).result = .error (.expansion (.substitution ⟨.refused reason⟩))) ∧
          ∀ suite, (l.loadText text).result = .ok suite → EndsTable after →
            (place = .examples → ∀ cells ∈ rows,
              Substitution.refusal? l.registry.engine (Table.pairs ⟨keys, rows⟩ cells) = none) ∧
            ∃ events later, Session.eventsOf text = Session.eventsUpTo before ++ events ++ later ∧
              l.BuildsTable text suite reached.state (Session.eventsUpTo before ++ events) ⟨keys, rows⟩
                place) := by
  refine ⟨fun cells line p hne hcells hrow => Parser.partsOf_of_writesRow hne hcells hrow p, ?_,
    fun keys rows lines first last htable hfirst => htable.linesOf_append hfirst last,
    fun before line opened reached row parts hcomes hread hfeed =>
      ⟨fun hstart => reaches_of_startStep hcomes hread hstart hfeed,
        fun hstart => reaches_of_startExamples hcomes hread hstart hfeed⟩, ?_⟩
  · intro p line cells hparts
    obtain ⟨hne, hcells⟩ := Parser.cells_of_partsOf hparts
    exact ⟨hne, hcells, writesRow_rowLine hcells,
      fun other q hrow => Parser.partsOf_of_writesRow hne hcells hrow q⟩
  · intro text before lines after place reached keys rows hreaches htable hlines
    refine ⟨?_, fun hrows => ⟨exists_result_of_even hreaches htable hlines hrows,
      fun hempty hafter => loads_of_even hempty hreaches htable hlines hrows hafter, ?_⟩⟩
    · rintro even odd more rfl heven hodd
      exact result_of_uneven hreaches htable hlines heven hodd
    · intro suite hsuite hends
      obtain ⟨remarks, later, hremarks, hevents⟩ :=
        exists_events_of_table hsuite hreaches htable hlines hends
      have hbuilds := buildsTable hsuite hreaches hrows hremarks hevents
      refine ⟨?_, _, later, hevents, hbuilds⟩
      rintro rfl
      exact refusal?_of_buildsTable hbuilds

/-- A table with an empty key and an empty cell behind a step, one in an examples block, and one with a row that is
too short. -/
theorem tables_with_empty_cells :
    let l : Loader Unit := ⟨.empty, {}⟩
    let first := "Feature: f\nScenario: s\nGiven x\n"
    let lines := ["\t| a || ", "|1||"]
    let text := first ++ (String.join (lines.map (· ++ "\n")) ++ "")
    let header := "Feature: f\nScenario Outline: o\nExamples: e\n"
    let examples := header ++ (String.join (["|n|", "|1|"].map (· ++ "\n")) ++ "")
    let uneven := first ++ (String.join (["|a||", "|1||", "|2|", "|3||"].map (· ++ "\n")) ++ "And y\n")
    (∀ p : Parser, p.partsOf .tableRow "\t| a || " = .ok (some ["a", ""])) ∧
      (∀ q : Parser, q.partsOf .tableRow (rowLine ["a", ""]) = .ok (some ["a", ""])) ∧
      (∃ suite step events k b, (l.loadText text).result = .ok suite ∧
        step.toStepText = ⟨.given, "x", none, some ⟨["a", ""], [["1", ""]]⟩⟩ ∧
        l.BuildsStep text suite events step k b) ∧
      (∃ (suite : Suite Unit) (outline : Scenario Unit) (tags : TagSet) (scenarios : List (Scenario Unit)),
        (l.loadText examples).result = .ok suite ∧
        (outline.expand ⟨"Example_e", tags, ⟨["<n>"], [["1"]]⟩⟩ .empty).result = .ok scenarios) ∧
      (l.loadText uneven).result = .error (.uneven ⟨2, 2, 1⟩) := by
  intro l first lines text header examples uneven
  obtain ⟨hrows, hconverse, hwritten, hopening, hloaded⟩ := tables_of_loadText l
  have hkeys : WritesRow ["a", ""] "\t| a || " := by
    refine ⟨⟨"\t", [" a ", ""], " ", by decide, by decide, .cons ?_ (.cons ?_ .nil), by decide⟩, by decide⟩
    · exact ⟨" ", " ", by decide, by decide, by decide⟩
    · exact ⟨"", "", by decide, by decide, by decide⟩
  have hread (p : Parser) : p.partsOf .tableRow "\t| a || " = .ok (some ["a", ""]) :=
    hrows _ _ p (by decide) (by decide +kernel) hkeys
  have hbare (cells : List String) (hcells : ∀ cell ∈ cells, IsCell cell) : WritesRow cells (rowLine cells) :=
    writesRow_rowLine hcells
  -- a loader behind a step
  let start : Session (Draft Unit) := { state := {} }
  let builder := Draft.builder l.config l.registry
  let opened := (start.fed builder Session.textSource ["Feature: f", "Scenario: s"]).1
  let reached := (Session.feed builder opened (some "Given x")).1
  have hopened : l.ComesThrough ["Feature: f", "Scenario: s"] opened := by rfl
  have hstep : (opened.parser.count (some "Given x")).read (some "Given x") =
      .fires ⟨.step, [.startStep], .scenarioStep⟩ ["Given", "x"] := by decide +kernel
  have hfeed : Session.feed builder opened (some "Given x") = (reached, .ok ()) := by rfl
  have hgiven : reached.state.step = some (.given, "x") := by rfl
  obtain ⟨k, -, -, -, hreaches, -⟩ := (hopening _ _ _ _ _ _ hopened hstep hfeed).1 (by decide)
  have hfirst : linesOf first = ["Feature: f", "Scenario: s"] ++ ["Given x"] := by decide +kernel
  have hlast : linesOf "" = [] := by decide +kernel
  have hends : EndsTable [] := fun line hline => by cases hline
  refine ⟨hread, fun q => ?_, ?_, ?_, ?_⟩
  · obtain ⟨-, -, hbare, hagain⟩ := hconverse {} _ _ (hread {})
    exact hagain _ q hbare
  · have htable : WritesTable ["a", ""] [["1", ""]] lines :=
      ⟨by decide +kernel, .cons hkeys (.cons (hbare ["1", ""] (by decide +kernel)) .nil)⟩
    obtain ⟨hlines, hasRead⟩ := hwritten _ _ _ first "" htable (.inr (by decide))
    rw [hfirst, hlast, List.append_assoc] at hlines
    obtain ⟨-, hloads, hbuilt⟩ := (hloaded text _ _ [] _ _ _ _ hreaches hasRead hlines).2 (by decide)
    obtain ⟨suite, hsuite⟩ | ⟨hmore, -⟩ | ⟨hplace, -⟩ := hloads rfl (List.forall_mem_nil _)
    · obtain ⟨-, events, later, -, keyword, stepText, step, b, hsame, hmade, hbuilds⟩ :=
        hbuilt suite hsuite hends
      rw [hgiven] at hsame
      cases hsame
      exact ⟨suite, step, _, k, b, hsuite, hmade, hbuilds⟩
    · exact absurd rfl hmore
    · cases hplace
  · let outlined := (start.fed builder Session.textSource ["Feature: f", "Scenario Outline: o"]).1
    let awaiting := (Session.feed builder outlined (some "Examples: e")).1
    have houtlined : l.ComesThrough ["Feature: f", "Scenario Outline: o"] outlined := by rfl
    have hheader : (outlined.parser.count (some "Examples: e")).read (some "Examples: e") =
        .fires ⟨.examples, [.finishOutline, .startExamples], .examples⟩ ["e"] := by decide +kernel
    have hawaiting : Session.feed builder outlined (some "Examples: e") = (awaiting, .ok ()) := by rfl
    obtain ⟨tags, hbefore, hlabel⟩ := (hopening _ _ _ _ _ _ houtlined hheader hawaiting).2 (by decide)
    have htable : WritesTable ["n"] [["1"]] ["|n|", "|1|"] :=
      ⟨by decide +kernel, .cons (hbare ["n"] (by decide +kernel))
        (.cons (hbare ["1"] (by decide +kernel)) .nil)⟩
    obtain ⟨hlines, hasRead⟩ := hwritten _ _ _ header "" htable (.inr (by decide))
    have hfirstLines : linesOf header = ["Feature: f", "Scenario Outline: o"] ++ ["Examples: e"] := by
      decide +kernel
    rw [hfirstLines, hlast, List.append_assoc] at hlines
    obtain ⟨-, hloads, hbuilt⟩ := (hloaded examples _ _ [] _ _ _ _ hbefore hasRead hlines).2 (by decide)
    have hroom : Substitution.refusal? .standard (Table.pairs ⟨["n"], [["1"]]⟩ ["1"]) = none := by decide +kernel
    obtain ⟨suite, hsuite⟩ | ⟨hmore, -⟩ | ⟨-, cells, hcells, reason, hreason, -⟩ :=
      hloads rfl (List.forall_mem_nil _)
    · obtain ⟨-, events, later, -, label, tags', outline, scenarios, next, hsame, -, hexpand, -⟩ :=
        hbuilt suite hsuite hends
      have hslug : l.config.examplesPrefix ++ slugify (["e"].headD "") = "Example_e" := by decide +kernel
      rw [hlabel, hslug] at hsame
      cases hsame
      exact ⟨suite, outline, tags, scenarios, hsuite, hexpand⟩
    · exact absurd rfl hmore
    · cases List.mem_singleton.mp hcells
      cases hroom.symm.trans hreason
  · have htable : WritesTable ["a", ""] [["1", ""], ["2"], ["3", ""]] ["|a||", "|1||", "|2|", "|3||"] := by
      refine ⟨by decide +kernel, .cons ?_ (.cons ?_ (.cons ?_ (.cons ?_ .nil)))⟩ <;>
        exact hbare _ (by decide +kernel)
    obtain ⟨hlines, hasRead⟩ := hwritten _ _ _ first "And y\n" htable (.inr (by decide))
    rw [hfirst, List.append_assoc] at hlines
    exact (hloaded uneven _ _ _ _ _ _ _ hreaches hasRead hlines).1 [["1", ""]] ["2"] [["3", ""]] rfl (by decide)
      (by decide)

/-- A table of an examples block with one row that fits its only key. -/
theorem result_of_long_key {key : String} (hcell : IsCell key)
    (hsize : Engine.sizeLimit < key.utf8ByteSize * stateBytes) :
    let l : Loader Unit := ⟨.empty, {}⟩
    let header := "Feature: f\nScenario Outline: o\nExamples: e\n"
    let lines := [rowLine [key], rowLine ["1"]]
    (l.loadText (header ++ (String.join (lines.map (· ++ "\n")) ++ ""))).result =
      .error (.expansion (.substitution ⟨.refused "Compiled regex exceeds size limit of 10485760 bytes."⟩)) := by
  intro l header lines
  let start : Session (Draft Unit) := { state := {} }
  let builder := Draft.builder l.config l.registry
  let opened := (start.fed builder Session.textSource ["Feature: f", "Scenario Outline: o"]).1
  let reached := (Session.feed builder opened (some "Examples: e")).1
  have hopened : l.ComesThrough ["Feature: f", "Scenario Outline: o"] opened := by rfl
  have hread : (opened.parser.count (some "Examples: e")).read (some "Examples: e") =
      .fires ⟨.examples, [.finishOutline, .startExamples], .examples⟩ ["e"] := by decide +kernel
  have hfeed : Session.feed builder opened (some "Examples: e") = (reached, .ok ()) := by rfl
  obtain ⟨tags, hreaches, -⟩ := reaches_of_startExamples hopened hread (by decide) hfeed
  have hone : IsCell "1" := by decide +kernel
  have hkey : ∀ cell ∈ [key], IsCell cell := List.forall_mem_singleton.mpr hcell
  have htable : WritesTable [key] [["1"]] lines := by
    refine ⟨?_, .cons (writesRow_rowLine hkey)
      (.cons (writesRow_rowLine (List.forall_mem_singleton.mpr hone)) .nil)⟩
    simp [hcell, hone]
  have hheader : header = "" ∨ header.toList.getLast? = some '\n' := .inr (by decide)
  obtain ⟨hlines, hasRead⟩ := htable.linesOf_append hheader ""
  have hfirst : linesOf header = ["Feature: f", "Scenario Outline: o"] ++ ["Examples: e"] := by decide +kernel
  have hlast : linesOf "" = [] := by decide +kernel
  rw [hfirst, hlast, List.append_assoc] at hlines
  have hrefusal : Substitution.refusal? l.registry.engine (Table.pairs ⟨[key], [["1"]]⟩ ["1"]) =
      some "Compiled regex exceeds size limit of 10485760 bytes." := by
    refine Substitution.refusal?_standard_of_lt (Nat.lt_of_lt_of_le hsize ?_) "1"
    exact Nat.mul_le_mul_right _ (utf8ByteSize_le_outlineKey key)
  have hrows : ∀ row ∈ [["1"]], row.length = [key].length := by simp
  rcases loads_of_even rfl hreaches hasRead hlines hrows (List.forall_mem_nil _) with
    ⟨suite, hsuite⟩ | ⟨hmore, -⟩ | ⟨-, cells, hcells, reason, hreason, hresult⟩
  · obtain ⟨remarks, later, hremarks, hevents⟩ :=
      exists_events_of_table hsuite hreaches hasRead hlines nofun
    have hroom := refusal?_of_buildsTable (buildsTable hsuite hreaches hrows hremarks hevents) ["1"]
      List.mem_cons_self
    cases hroom.symm.trans hrefusal
  · exact absurd rfl hmore
  · cases List.mem_singleton.mp hcells
    cases hreason.symm.trans hrefusal
    exact hresult

/-- A key that is too long for the standard engine, above a row that fits it: there is no table of it. -/
theorem refused_long_key :
    let l : Loader Unit := ⟨.empty, {}⟩
    let key := String.ofList (List.replicate 500000 'k')
    let header := "Feature: f\nScenario Outline: o\nExamples: e\n"
    let lines := [rowLine [key], rowLine ["1"]]
    IsCell key ∧ (∀ row ∈ [["1"]], row.length = [key].length) ∧
      (l.loadText (header ++ (String.join (lines.map (· ++ "\n")) ++ ""))).result =
        .error (.expansion (.substitution ⟨.refused "Compiled regex exceeds size limit of 10485760 bytes."⟩)) := by
  intro l key header lines
  have hletters : ∀ c ∈ key.toList, c = 'k' := by
    intro c hc
    rw [String.toList_ofList] at hc
    exact List.eq_of_mem_replicate hc
  have hcell : IsCell key := {
    bar := fun hbar => absurd (hletters _ hbar) (by decide)
    oneLine := fun hfeed => absurd (hletters _ hfeed) (by decide)
    trimmed := by
      rw [Text.trimmed, Text.trim_of_all_not fun c hc => hletters c hc ▸ rfl, String.ofList_toList] }
  have hsize : Engine.sizeLimit < key.utf8ByteSize * stateBytes := by
    rw [Substitution.utf8ByteSize_replicate]
    decide
  exact ⟨hcell, by simp, result_of_long_key hcell hsize⟩

end Loader

end Acceptance
