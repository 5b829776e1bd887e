import Acceptance.Proofs.Document.Multiline
import Acceptance.Proofs.Load.Blocks
import Acceptance.Proofs.Load.Sources

/-!
# Texts in multiline blocks

What a document writes into the multiline block of a step is what the loader attaches to the step, line for
line. The events of the block make the step (`Draft.answerAll_block`), the steps of an open block stay in
their places until the block ends (`Draft.steps_of_course`), and there it is stored. So every list of texts
that are no delimiters can be written into a step and comes back from there
(`Loader.block_carries_texts`).
-/

set_option autoImplicit false

namespace Acceptance

open Acceptance.Grammar Acceptance.Text

variable {W : Type}

/-! ## Steps of an open block -/

namespace Draft

variable {config : NamingConfig} {r : Registry W} {m n : Stage} {k : BlockKind} {b : Scenario W}
  {d next : Draft W}

/-- The texts of a block join the open lines in their order. -/
theorem answerAll_data {lines : List String} (hlines : d.lines = some lines) (texts : List String) :
    (builder config r).answerAll d (texts.map .data) = .ok { d with lines := some (lines ++ texts) } := by
  induction texts generalizing d lines with
  | nil =>
    rw [List.append_nil, ← hlines]
    rfl
  | cons text texts ih =>
    have hfirst : (builder config r).answer d (.data text) = .ok (d.addLine text) :=
      answer_builder.mpr rfl
    have hadded : (d.addLine text).lines = some (lines ++ [text]) := by
      unfold addLine
      rw [hlines]
      rfl
    rw [List.map_cons, Handler.answerAll_cons_of_ok hfirst, ih hadded, List.append_assoc]
    rfl

/-- **The events of a block** make a step with the texts of the block. -/
theorem answerAll_block {keyword : Keyword} {text : String} {width : Nat} {texts : List String}
    (hstep : d.step = some (keyword, text))
    (hanswers : (builder config r).answerAll d (Event.ofBlock width texts) = .ok next) :
    ∃ step : Step W, step.toStepText = ⟨keyword, text, some texts, none⟩ ∧
      next.current = d.current.map (·.addStep step) := by
  let opened : Draft W := { d with lines := some [] }
  have hopened : (builder config r).answer d (.startMultiline width) = .ok opened := answer_builder.mpr rfl
  have hdata : (builder config r).answerAll opened (texts.map .data) =
      .ok { opened with lines := some ([] ++ texts) } := answerAll_data rfl texts
  unfold Event.ofBlock at hanswers
  rw [List.cons_append, Handler.answerAll_cons_of_ok hopened,
    Handler.answerAll_append_of_ok hdata] at hanswers
  obtain ⟨ended, hended, hlast⟩ := Handler.answerAll_cons_eq_ok.mp hanswers
  obtain ⟨closed, hclosed, hnil⟩ := Handler.answerAll_cons_eq_ok.mp hlast
  cases hnil
  let attached : Draft W := { d with lines := none, multilines := some texts }
  obtain rfl : attached = ended := Except.ok.inj (answer_builder.mp hended)
  have hclosed : (attached.closeStep r).result = .ok next := answer_builder.mp hclosed
  obtain ⟨step, hmade, -, rfl⟩ := closeStep_result (d := attached) hstep hclosed
  exact ⟨step, hmade, rfl⟩

/-- A step is open behind its line. -/
theorem exists_open_step {keyword : Keyword} {text : String} {earlier : List Event}
    (course : Course .outside (earlier ++ [.startStep keyword text]) (.step k))
    (hanswers : (builder config r).answerAll {} (earlier ++ [.startStep keyword text]) = .ok d) :
    d.step = some (keyword, text) ∧ ∃ b, d.current = some b := by
  constructor
  · obtain ⟨before, -, hlast⟩ := Handler.answerAll_append_eq_ok.mp hanswers
    obtain ⟨next, hstart, hnil⟩ := Handler.answerAll_cons_eq_ok.mp hlast
    cases hnil
    cases answer_builder.mp hstart
    rfl
  · obtain ⟨closed, s, -, -, -, -, hbuilds⟩ := (Fills.course course hanswers).exists_span id
    obtain ⟨b, hb, -, -⟩ := hbuilds.block
    exact ⟨b, hb⟩

/-- The end of a step leaves the steps in front of it in their places. -/
theorem steps_of_closeStep (hnext : (d.closeStep r).result = .ok next) (hb : d.current = some b) :
    ∃ b', next.current = some b' ∧ b.steps <+: b'.steps := by
  cases hstep : d.step with
  | none =>
    unfold closeStep at hnext
    rw [hstep] at hnext
    cases hnext
    exact ⟨b, hb, List.prefix_rfl⟩
  | some step =>
    obtain ⟨keyword, text⟩ := step
    obtain ⟨made, -, -, rfl⟩ := closeStep_result hstep hnext
    refine ⟨b.addStep made, ?_, List.prefix_append _ _⟩
    dsimp only
    rw [hb]
    rfl

/-- An event in a block leaves the steps of the block in their places. -/
theorem steps_of_moves {event : Event} (hmoves : Moves m event n) (hm : m.part = .block k)
    (hevent : event.boundsBlock = false) (hnext : (d.handle config r event).result = .ok next)
    (hb : d.current = some b) : ∃ b', next.current = some b' ∧ b.steps <+: b'.steps := by
  cases hmoves with
  | finishStep | finishAttached => exact steps_of_closeStep hnext hb
  | tableData =>
    rw [tableData_result hnext]
    exact ⟨b, hb, List.prefix_rfl⟩
  | comment | whitespace | startStep | startMultiline | content | finishMultiline | startTable
  | finishTable =>
    cases hnext
    exact ⟨b, hb, List.prefix_rfl⟩
  | finishBlock other => cases other <;> cases hevent
  | tags _ hplace | finishParse hplace => rcases hplace with rfl | rfl <;> cases hm
  | _ => cases hm

/-- **The steps of an open block** stay in their places until it ends. -/
theorem steps_of_course {events : List Event} (hcourse : Course m events n) (hm : m.part = .block k)
    (hbounds : ∀ event ∈ events, event.boundsBlock = false)
    (hanswers : (builder config r).answerAll d events = .ok next) (hb : d.current = some b) :
    ∃ b', next.current = some b' ∧ b.steps <+: b'.steps := by
  induction hcourse generalizing d b with
  | nil =>
    cases hanswers
    exact ⟨b, hb, List.prefix_rfl⟩
  | cons hmoves hrest ih =>
    obtain ⟨hevent, hevents⟩ := List.forall_mem_cons.mp hbounds
    obtain ⟨after, hanswer, hanswers⟩ := Handler.answerAll_cons_eq_ok.mp hanswers
    obtain ⟨b', hb', hsteps⟩ := steps_of_moves hmoves hm hevent (answer_builder.mp hanswer) hb
    obtain ⟨b'', hb'', hmore⟩ := ih (hmoves.stays_in_block hm hevent) hevents hanswers hb'
    exact ⟨b'', hb'', hsteps.trans hmore⟩

end Draft

/-! ## Blocks of a text -/

namespace Grammar

/-- A block as it is written into a text. -/
def blockText (margin : String) (texts : List String) : String :=
  String.join ((blockLines margin texts).map (· ++ "\n"))

variable {margin : String} {texts : List String}

/-- The lines of a block are read as their delimiters and their texts, behind the margin. -/
theorem map_asRead_blockLines : (blockLines margin texts).map asRead =
    (margin ++ quotes) :: texts.map (fun text => asRead (margin ++ text)) ++ [margin ++ quotes] := by
  have hdelimiter : asRead (margin ++ quotes) = margin ++ quotes := by
    refine asRead_of_ne ?_
    rw [String.toList_append, List.getLast?_append_of_ne_nil _ (by decide)]
    decide
  unfold blockLines
  rw [List.map_append, List.map_cons, List.map_map, List.map_singleton, hdelimiter]
  rfl

/-- A block can be written into any text, behind a complete line. -/
theorem linesOf_block {first : String} (hfirst : first = "" ∨ first.toList.getLast? = some '\n')
    (hmargin : '\n' ∉ margin.toList) (htexts : ∀ text ∈ texts, '\n' ∉ text.toList) (last : String) :
    linesOf (first ++ (blockText margin texts ++ last)) =
      linesOf first ++ (blockLines margin texts).map asRead ++ linesOf last := by
  have hlines : ∀ line ∈ blockLines margin texts, '\n' ∉ line.toList := by
    have hopening := notMem_opening hmargin
    intro line hline
    rcases List.mem_append.mp hline with hline | hline
    · rcases List.mem_cons.mp hline with rfl | hline
      · exact hopening
      · obtain ⟨text, htext, rfl⟩ := List.mem_map.mp hline
        rw [String.toList_append, List.mem_append]
        exact fun hmem => hmem.elim hmargin (htexts text htext)
    · rw [List.mem_singleton.mp hline]
      exact hopening
  exact linesOf_lines hfirst hlines last

/-- The stage of an open step determines the state of the parser. -/
theorem State.eq_step_of_stages : ∀ (s : State) (k : BlockKind), .step k ∈ s.stages → s = k.states.step := by
  intro s k
  cases s <;> cases k <;> decide

end Grammar

/-- What is reported about some lines comes first in what is reported about a document that begins with
them. -/
theorem Transcript.events_prefix_ofLines (source : String) (first second : List String) :
    .startParse source :: (({} : Parser).reportAll first).events <+:
      (ofLines source (first ++ second) none).events := by
  have hlines : (({} : Parser).reportAll first).events <+:
      (({} : Parser).reportAll (first ++ second)).events := by
    rw [Parser.reportAll_append]
    exact events_prefix_andThen _ _
  unfold ofLines
  rw [andThen_of_none rfl]
  exact (List.prefix_append_right_inj [.startParse source]).mpr (hlines.trans (events_prefix_andThen _ _))

/-- What a session that records has read, its parser has reported. -/
theorem Session.reports_of_fed {source : String} {lines : List String} {reached : Session (List Event)}
    (h : ({ state := [] } : Session (List Event)).fed recorder source lines = (reached, .ok ())) :
    reached.state = .startParse source :: (({} : Parser).reportAll lines).events ∧
      (({} : Parser).reportAll lines).fault = none := by
  have accepting : recorder.Accepting := fun _ _ => rfl
  have hfollows := fed_follows (h := recorder) source lines { state := [] }
  rw [h, Transcript.andThen_of_none rfl] at hfollows
  obtain ⟨hanswers, -, hok⟩ := hfollows.of_outcome rfl
  rw [accepting.answerAll_eq_ok, foldl_recorder, Except.ok.injEq] at hanswers
  exact ⟨hanswers.symm, hok⟩

/-- Behind the beginning of a step that step is open. -/
theorem Course.of_concat_startStep {m n : Stage} {earlier : List Event} {keyword : Keyword} {text : String}
    (h : Course m (earlier ++ [.startStep keyword text]) n) : ∃ k, n = .step k := by
  obtain ⟨middle, -, hlast⟩ := h.exists_of_append
  cases hlast with
  | cons hmoves hnil =>
    cases hnil
    obtain ⟨k, -, rfl⟩ := hmoves.of_startStep
    exact ⟨k, rfl⟩

/-- The events of a multiline block bound no other block. -/
theorem Event.boundsBlock_ofBlock (width : Nat) (texts : List String) :
    ∀ event ∈ ofBlock width texts, event.boundsBlock = false := by
  intro event hevent
  rcases List.mem_append.mp hevent with hevent | hevent
  · rcases List.mem_cons.mp hevent with rfl | hevent
    · rfl
    · obtain ⟨text, -, rfl⟩ := List.mem_map.mp hevent
      rfl
  · rcases List.mem_pair.mp hevent with rfl | rfl <;> rfl

namespace Loader

/-- A step that the events of a text up to some place have built: it is the latest of the block that is open
there. This one is a block `b` of kind `k` when it has ended, with the steps so far in their places, and is
stored as such. A scenario that no later one of its name replaces is the scenario of its test case. -/
structure BuildsStep (l : Loader W) (text : String) (suite : Suite W) (events : List Event) (step : Step W)
    (k : BlockKind) (b : Scenario W) : Prop where
  latest : ∃ (d : Draft W) (opened : Scenario W),
    (Draft.builder l.config l.registry).answerAll {} events = .ok d ∧ d.current = some opened ∧
    opened.steps.getLast? = some step ∧ opened.steps <+: b.steps
  stored : ∃ (body later : List Event) (d : Draft W),
    Session.eventsOf text = events ++ body ++ [k.finish] ++ later ∧
    (∀ event ∈ body, event.boundsBlock = false) ∧
    (Draft.builder l.config l.registry).answerAll {} (events ++ body ++ [k.finish]) = .ok d ∧
    d.Stores l.config b k ∧
    (k = .scenario → ∃ others,
      History.origins l.config (Session.eventsOf text).reverse =
        History.origins l.config (events ++ body ++ [k.finish]).reverse ++ others ∧
      ((∀ o ∈ others, o.name l.config ≠ Draft.nameOf l.config b) →
        ∃ c ∈ suite, c.info.name = Draft.nameOf l.config b ∧ c.scenario = some b ∧
          ∀ other ∈ suite, other.info.name = c.info.name → other = c))

variable {l : Loader W} {text : String} {suite : Suite W} {margin : String} {texts : List String}
  {keyword : Keyword} {stepText : String} {earlier : List Event}

/-- **A step of an open block** stays in its place until the block ends, and is stored with it. -/
theorem exists_buildsStep (h : (l.loadText text).result = .ok suite) {past rest : List Event} {m : Stage}
    {k : BlockKind} {d : Draft W} {opened : Scenario W} {step : Step W}
    (hevents : Session.eventsOf text = past ++ rest) (hcourse : Course .outside past m)
    (hm : m.part = .block k) (hd : (Draft.builder l.config l.registry).answerAll {} past = .ok d)
    (hopened : d.current = some opened) (hlatest : opened.steps.getLast? = some step) :
    ∃ b, l.BuildsStep text suite past step k b := by
  obtain ⟨⟨final, hanswers, rfl⟩, last, hall, hlast⟩ := exists_answerAll_of_loadText h
  rw [hevents] at hanswers hall
  obtain ⟨middle, hpast, hrest⟩ := hall.exists_of_append
  obtain rfl := hcourse.unique hpast
  have hlastPart : last.part ≠ .block k := by
    rcases hlast with rfl | rfl <;> nofun
  obtain ⟨body, later, rfl, hbody, hlater, hbounds⟩ := hrest.exists_finish hm hlastPart
  obtain ⟨d', hd', hanswersRest⟩ := Handler.answerAll_append_eq_ok.mp hanswers
  obtain rfl : d = d' := Except.ok.inj (hd.symm.trans hd')
  obtain ⟨reached, hreached, -⟩ := Handler.answerAll_append_eq_ok.mp hanswersRest
  obtain ⟨b, hb, hsteps⟩ := Draft.steps_of_course hbody hm hbounds hreached hopened
  have hsplit : past ++ (body ++ k.finish :: later) = past ++ body ++ [k.finish] ++ later := by simp
  rw [hsplit] at hevents hanswers
  obtain ⟨stored, hstored, hstores, hscenario⟩ :=
    Draft.exists_stored (hpast.append hbody) (Handler.answerAll_append_eq_ok.mpr ⟨d, hd, hreached⟩) hb
      hlater hlast hanswers
  refine ⟨b, ⟨d, opened, hd, hopened, hlatest, hsteps⟩, body, later, stored, hevents, hbounds, hstored,
    hstores, ?_⟩
  rw [hevents]
  exact hscenario

/-- **A step with a block** among the events of a text becomes a step with the texts of the block. -/
theorem exists_step_of_events (h : (l.loadText text).result = .ok suite) {width : Nat} {rest : List Event}
    (hevents : Session.eventsOf text =
      earlier ++ [.startStep keyword stepText] ++ Event.ofBlock width texts ++ rest) :
    ∃ (step : Step W) (k : BlockKind) (b : Scenario W),
      step.toStepText = ⟨keyword, stepText, some texts, none⟩ ∧
      l.BuildsStep text suite (earlier ++ [.startStep keyword stepText] ++ Event.ofBlock width texts) step k
        b := by
  obtain ⟨⟨final, hanswers, -⟩, last, hall, -⟩ := exists_answerAll_of_loadText h
  rw [hevents] at hanswers hall
  obtain ⟨middle, hblock, -⟩ := hall.exists_of_append
  obtain ⟨m, hcourse, htextsCourse⟩ := hblock.exists_of_append
  obtain ⟨k, rfl⟩ := hcourse.of_concat_startStep
  have hmiddle : middle.part = .block k :=
    htextsCourse.stays_in_block rfl (Event.boundsBlock_ofBlock width texts)
  obtain ⟨next, hnext, -⟩ := Handler.answerAll_append_eq_ok.mp hanswers
  obtain ⟨d, hd, htexts⟩ := Handler.answerAll_append_eq_ok.mp hnext
  obtain ⟨hstep, opened, hopened⟩ := Draft.exists_open_step hcourse hd
  obtain ⟨step, hmade, hcurrent⟩ := Draft.answerAll_block hstep htexts
  rw [hopened, Option.map_some] at hcurrent
  obtain ⟨b, hbuilds⟩ := exists_buildsStep h hevents hblock hmiddle hnext hcurrent List.getLast?_concat
  exact ⟨step, k, b, hmade, hbuilds⟩

/-- **A block that is written into a text** behind a step becomes the lines of the step. -/
theorem exists_step_of_block (h : (l.loadText text).result = .ok suite) {before after : List String}
    {reached : Session (List Event)}
    (hfed : ({ state := [] } : Session (List Event)).fed recorder Session.textSource before =
      (reached, .ok ()))
    (hstep : reached.state = earlier ++ [.startStep keyword stepText])
    (hmargin : isBlankText margin = true) (hline : '\n' ∉ margin.toList)
    (htexts : ∀ text ∈ texts, ¬ BareDelimiter text ∧ text.toList.getLast? ≠ some '\r')
    (hlines : linesOf text = before ++ (blockLines margin texts).map asRead ++ after) :
    ∃ (step : Step W) (k : BlockKind) (b : Scenario W),
      step.toStepText = ⟨keyword, stepText, some texts, none⟩ ∧
      l.BuildsStep text suite (reached.state ++ Event.ofBlock margin.length texts) step k b := by
  obtain ⟨hstate, hfault⟩ := Session.reports_of_fed hfed
  have hstart : ∃ m, Course .outside [.startParse Session.textSource] m ∧ m ∈ State.start.stages :=
    ⟨.outside, .cons (.startParse _) (.nil _), by decide⟩
  obtain ⟨m, hcourse, hm⟩ := Stage.tracks.startParse hstart before
  rw [← hstate, hstep] at hcourse
  obtain ⟨k, rfl⟩ := hcourse.of_concat_startStep
  have hparser : (({} : Parser).reportAll before).parser.state = k.states.step :=
    State.eq_step_of_stages _ k hm
  have hdelimits : Delimits margin.length (margin ++ quotes) := delimits_of_margin hmargin
  have hlineOf : ∀ text ∈ texts, Within margin.length (asRead (margin ++ text)) ∧
      cut margin.length (asRead (margin ++ text)) = text :=
    fun text htext => within_of_asRead hmargin (htexts text htext).1 (htexts text htext).2
  obtain ⟨q, hblock, -⟩ :=
    Parser.reportAll_block hparser hdelimits (notMem_opening hline) hlineOf hdelimits
  rw [← map_asRead_blockLines] at hblock
  have hprefix := Transcript.events_prefix_ofLines Session.textSource
    (before ++ (blockLines margin texts).map asRead) after
  rw [Parser.reportAll_append, Transcript.andThen_of_none hfault, hblock, ← hlines, ← Session.eventsOf_eq]
    at hprefix
  obtain ⟨rest, hrest⟩ := hprefix
  rw [hstep]
  have hevents : Session.eventsOf text =
      earlier ++ [.startStep keyword stepText] ++ Event.ofBlock margin.length texts ++ rest := by
    rw [← hrest, ← hstep, hstate]
    rfl
  exact exists_step_of_events h hevents

/-- **Multiline blocks carry any text.** A line that begins a step leaves the parser behind a step. From there
a handler that refuses nothing takes every list of texts that are no delimiters, written behind any blanks,
and is shown the texts themselves; and whatever lines follow an opening delimiter, they are content up to
where the block ends. The block can be written into any text, and a loader makes a step of it that has the
texts as its lines. -/
theorem block_carries_texts {σ ε : Type} {h : Handler σ ε} (accepting : h.Accepting)
    (s : Session (σ × List Event)) (l : Loader W) :
    (∀ (before : Session (σ × List Event)) (line : String) (closing : List Event) (keyword : Keyword)
        (stepText : String), Session.feed h.recording before (some line) = (s, .ok ()) →
      s.state.2 = before.state.2 ++ (closing ++ [.startStep keyword stepText]) →
      ∃ k : BlockKind, s.parser.state = k.states.step) ∧
    (∀ k : BlockKind, s.parser.state = k.states.step →
      (∀ (margin : String) (texts : List String), isBlankText margin = true → '\n' ∉ margin.toList →
        (∀ text ∈ texts, ¬ BareDelimiter text) →
        ∃ fed, s.Takes h (blockLines margin texts) (Event.ofBlock margin.length texts) fed ∧
          fed.parser.state = k.states.header) ∧
      ∀ (opening : String) (lines : List String), LineClass.ofLine opening = .delimiter →
        '\n' ∉ opening.toList →
        ∃ content rest fed, lines = content ++ rest ∧ (∀ line ∈ content, Within (width opening) line) ∧
          s.Takes h (opening :: content)
            (.startMultiline (width opening) :: content.map fun line => .data (cut (width opening) line)) fed ∧
          (∀ line ∈ content, line.length ≤ width opening → cut (width opening) line = "") ∧
          fed.parser.state = k.states.multiline ∧ fed.EndsBlock h (width opening) k.states.header rest) ∧
    (∀ (first last margin : String) (texts : List String), first = "" ∨ first.toList.getLast? = some '\n' →
      '\n' ∉ margin.toList → (∀ text ∈ texts, '\n' ∉ text.toList) →
      linesOf (first ++ (blockText margin texts ++ last)) =
        linesOf first ++ (blockLines margin texts).map asRead ++ linesOf last) ∧
    ∀ (text : String) (suite : Suite W) (before after : List String) (reached : Session (List Event))
      (earlier : List Event) (keyword : Keyword) (stepText margin : String) (texts : List String),
      (l.loadText text).result = .ok suite →
      linesOf text = before ++ (blockLines margin texts).map asRead ++ after →
      ({ state := [] } : Session (List Event)).fed recorder Session.textSource before = (reached, .ok ()) →
      reached.state = earlier ++ [.startStep keyword stepText] →
      isBlankText margin = true → '\n' ∉ margin.toList →
      (∀ text ∈ texts, ¬ BareDelimiter text ∧ text.toList.getLast? ≠ some '\r') →
      ∃ (step : Step W) (k : BlockKind) (b : Scenario W),
        step.toStepText = ⟨keyword, stepText, some texts, none⟩ ∧
        l.BuildsStep text suite (reached.state ++ Event.ofBlock margin.length texts) step k b := by
  refine ⟨fun before line closing keyword stepText hfed hstep =>
      Session.exists_state_of_startStep accepting hfed hstep, fun k hstate => ⟨?_, ?_⟩,
    fun first last margin texts hfirst hmargin htexts => linesOf_block hfirst hmargin htexts last,
    fun text suite before after reached earlier keyword stepText margin texts hload hlines hfed hstep hmargin
      hline htexts => exists_step_of_block hload hfed hstep hmargin hline htexts hlines⟩
  · intro margin texts hmargin hline htexts
    exact Session.exists_takes_block accepting hstate hmargin hline htexts
  · intro opening lines hclass hline
    obtain ⟨content, rest, fed, hlines, hwithin, htakes, hopened, hends⟩ :=
      Session.exists_endsBlock accepting hstate hclass hline lines
    exact ⟨content, rest, fed, hlines, hwithin, htakes, fun line _ hshort => cut_of_length_le hshort, hopened,
      hends⟩

/-- A block of lines that read as a header, a delimiter of another width, a table row and a comment, and a
delimiter with a line behind it that is indented less. -/
theorem block_carries_headers_and_delimiters :
    let before : Session (List Event × List Event) :=
      (Session.fed recorder.recording ⟨{}, ([], []), []⟩ "f" ["Feature: f", "Scenario: s"]).1
    let s := (Session.feed recorder.recording before (some "Given x")).1
    let l : Loader Unit := ⟨.empty, {}⟩
    let texts := ["Scenario: t", " \"\"\"", "", "| a |", "# b"]
    let text := "Feature: f\nScenario: s\nGiven x\n" ++ (blockText "\t " texts ++ "And y\n")
    (∃ fed, s.Takes recorder (blockLines "\t " texts) (Event.ofBlock 2 texts) fed ∧
        fed.parser.state = .scenario) ∧
      (∃ content rest fed, ["   a", "", "b"] = content ++ rest ∧
        s.Takes recorder ("\t \"\"\"" :: content)
          (.startMultiline 2 :: content.map fun line => .data (cut 2 line)) fed ∧
        fed.EndsBlock recorder 2 .scenario rest) ∧
      ∃ suite events step k b, (l.loadText text).result = .ok suite ∧
        step.toStepText = ⟨.given, "x", some texts, none⟩ ∧ l.BuildsStep text suite events step k b := by
  intro before s l texts text
  have accepting : recorder.Accepting := fun _ _ => rfl
  obtain ⟨hbehind, hblock, hwritten, hloaded⟩ := block_carries_texts accepting s l
  have hfed : Session.feed recorder.recording before (some "Given x") = (s, .ok ()) := by rfl
  have hstep : s.state.2 = before.state.2 ++ ([] ++ [.startStep .given "x"]) := by rfl
  obtain ⟨k, hk⟩ := hbehind before "Given x" [] .given "x" hfed hstep
  obtain rfl : k = .scenario := by
    have hstate : s.parser.state = .scenarioStep := by rfl
    rw [hstate] at hk
    cases k <;> first | rfl | cases hk
  obtain ⟨hcarries, hends⟩ := hblock .scenario hk
  have hbare : ∀ text ∈ texts, ¬ BareDelimiter text ∧ text.toList.getLast? ≠ some '\r' := by
    decide +kernel
  refine ⟨hcarries "\t " texts (by decide) (by decide) fun text htext => (hbare text htext).1, ?_, ?_⟩
  · obtain ⟨content, rest, fed, hlines, -, htakes, -, -, hend⟩ :=
      hends "\t \"\"\"" ["   a", "", "b"] (by decide +kernel) (by decide)
    exact ⟨content, rest, fed, hlines, htakes, hend⟩
  · let first := "Feature: f\nScenario: s\nGiven x\n"
    have hok : (l.loadText text).result.isOk = true := by decide +kernel
    have hlines := hwritten first "And y\n" "\t " texts (.inr (by decide)) (by decide) (by decide)
    have hfirst : linesOf first = ["Feature: f", "Scenario: s", "Given x"] := by decide +kernel
    rw [hfirst] at hlines
    let start : Session (List Event) := { state := [] }
    let reached := (start.fed recorder Session.textSource ["Feature: f", "Scenario: s", "Given x"]).1
    have hreached : start.fed recorder Session.textSource ["Feature: f", "Scenario: s", "Given x"] =
        (reached, .ok ()) := by rfl
    have hlast : reached.state = reached.state.dropLast ++ [.startStep .given "x"] := by decide +kernel
    cases hresult : (l.loadText text).result with
    | error fault =>
      rw [hresult] at hok
      cases hok
    | ok suite =>
      obtain ⟨step, k, b, hmade, hbuilds⟩ := hloaded text suite _ _ reached _ .given "x" "\t " texts hresult
        hlines hreached hlast (by decide) (by decide) hbare
      exact ⟨suite, _, step, k, b, rfl, hmade, hbuilds⟩

end Loader

end Acceptance
