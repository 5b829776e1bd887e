import Mathlib.Data.List.Nodup
import Acceptance.Proofs.Load.Steps
import Acceptance.Proofs.Load.Tags

/-!
# Blocks with their steps

A block that a document begins comes to its end, and between the two nothing bounds a block. What the loader
has built by then is a block with the title of the header and with one step for each step that its events ask
for (`Loader.steps_of_loadText`). A scenario that no later one replaces is the scenario of its test case.
-/

set_option autoImplicit false

namespace Acceptance

variable {W : Type}

/-! ## The events of a block -/

section Course

variable {m n last : Stage} {k : BlockKind} {event : Event} {events : List Event}

/-- The header of a block bounds it. -/
theorem BlockKind.boundsBlock_start (k : BlockKind) (title : String) :
    (k.start title).boundsBlock = true := by
  cases k <;> rfl

/-- The end of a block bounds it. -/
theorem BlockKind.boundsBlock_finish (k : BlockKind) : k.finish.boundsBlock = true := by
  cases k <;> rfl

/-- A block begins in the feature. -/
theorem Moves.of_start {title : String} (h : Moves m event n) (hevent : event = k.start title) :
    m = .body ∧ n = .block k := by
  cases h with
  | startBlock other =>
    cases other <;> cases k <;> cases hevent <;> exact ⟨rfl, rfl⟩
  | finishBlock other =>
    cases other <;> cases k <;> cases hevent
  | _ => cases k <;> cases hevent

/-- A step begins in a block. -/
theorem Moves.of_startStep {keyword : Keyword} {text : String} (h : Moves m (.startStep keyword text) n) :
    ∃ k, m = .block k ∧ n = .step k := by
  generalize hevent : Event.startStep keyword text = event at h
  cases h with
  | startStep k => exact ⟨k, rfl, rfl⟩
  | startBlock k => cases k <;> cases hevent
  | finishBlock k => cases k <;> cases hevent
  | _ => cases hevent

/-- In a block an event ends the block, or it bounds no block. -/
theorem Moves.in_block (h : Moves m event n) (hm : m.part = .block k) :
    (m = .block k ∧ event = k.finish ∧ n = .body) ∨ (n.part = .block k ∧ event.boundsBlock = false) := by
  cases h with
  | finishBlock other =>
    cases hm
    exact .inl ⟨rfl, rfl, rfl⟩
  | comment | whitespace => exact .inr ⟨hm, rfl⟩
  | tags _ hplace | finishParse hplace => rcases hplace with rfl | rfl <;> cases hm
  | startStep | finishStep | startMultiline | content | finishMultiline | startTable | tableData
  | finishTable | finishAttached =>
    exact .inr ⟨hm, rfl⟩
  | _ => cases hm

/-- An event that bounds no block stays in the one that is open. -/
theorem Moves.stays_in_block (h : Moves m event n) (hm : m.part = .block k)
    (hevent : event.boundsBlock = false) : n.part = .block k := by
  rcases h.in_block hm with ⟨-, rfl, -⟩ | ⟨hpart, -⟩
  · cases k <;> cases hevent
  · exact hpart

/-- Events that bound no block stay in it. -/
theorem Course.stays_in_block (h : Course m events n) (hm : m.part = .block k)
    (hbounds : ∀ event ∈ events, event.boundsBlock = false) : n.part = .block k := by
  induction h with
  | nil => exact hm
  | cons hmoves _ ih =>
    obtain ⟨hevent, hevents⟩ := List.forall_mem_cons.mp hbounds
    exact ih (hmoves.stays_in_block hm hevent) hevents

/-- An event leads from a stage to one other only. -/
theorem Moves.unique {n' : Stage} (h : Moves m event n) (h' : Moves m event n') : n = n' := by
  generalize hsame : event = event' at h'
  cases h with
  | startBlock k => rw [(h'.of_start hsame.symm).2]
  | finishBlock k =>
    rcases h'.in_block rfl with ⟨-, -, rfl⟩ | ⟨-, hevent⟩
    · rfl
    · rw [← hsame, k.boundsBlock_finish] at hevent
      cases hevent
  | _ =>
    have hbounds := congrArg Event.boundsBlock hsame
    cases h' <;> first
      | rfl
      | cases hsame
      | (rw [BlockKind.boundsBlock_start] at hbounds; cases hbounds)
      | (rw [BlockKind.boundsBlock_finish] at hbounds; cases hbounds)

/-- **Events take one course**: where they lead from a stage is told by them. -/
theorem Course.unique {n' : Stage} (h : Course m events n) (h' : Course m events n') : n = n' := by
  induction h with
  | nil =>
    cases h'
    rfl
  | cons hmoves _ ih =>
    cases h' with
    | cons hmoves' hrest =>
      obtain rfl := hmoves.unique hmoves'
      exact ih hrest

/-- **A block comes to its end**, and up to there nothing bounds a block. -/
theorem Course.exists_finish (h : Course m events last) (hm : m.part = .block k)
    (hlast : last.part ≠ .block k) :
    ∃ body later, events = body ++ k.finish :: later ∧ Course m body (.block k) ∧
      Course .body later last ∧ ∀ event ∈ body, event.boundsBlock = false := by
  induction h with
  | nil => exact absurd hm hlast
  | cons hmoves hrest ih =>
    rcases hmoves.in_block hm with ⟨rfl, rfl, rfl⟩ | ⟨hpart, hevent⟩
    · exact ⟨[], _, rfl, .nil _, hrest, List.forall_mem_nil _⟩
    · obtain ⟨body, later, rfl, hbody, hlater, hbounds⟩ := ih hpart hlast
      exact ⟨_ :: body, later, rfl, .cons hmoves hbody, hlater, List.forall_mem_cons.mpr ⟨hevent, hbounds⟩⟩

/-- **A header begins a block** that comes to its end. -/
theorem Course.exists_block {title : String} {earlier rest : List Event}
    (h : Course m (earlier ++ k.start title :: rest) last) (hlast : last.part ≠ .block k) :
    ∃ body later, rest = body ++ k.finish :: later ∧ (∀ event ∈ body, event.boundsBlock = false) ∧
      Course m (earlier ++ k.start title :: body) (.block k) ∧ Course .body later last := by
  obtain ⟨middle, hearlier, hfrom⟩ := h.exists_of_append
  cases hfrom with
  | cons hmoves hrest =>
    obtain ⟨rfl, rfl⟩ := hmoves.of_start rfl
    obtain ⟨body, later, rfl, hbody, hlater, hbounds⟩ := hrest.exists_finish rfl hlast
    exact ⟨body, later, rfl, hbounds, hearlier.append (.cons hmoves hbody), hlater⟩

end Course

namespace History

/-- What is sought in vain among the later events is the latest of the earlier ones. -/
theorem latest_append {α : Type} {sought : Event → Option α} {events past : History}
    (h : ∀ event ∈ events, sought event = none) : latest sought (events ++ past) = latest sought past := by
  induction events with
  | nil => rfl
  | cons event events ih =>
    obtain ⟨hevent, hevents⟩ := List.forall_mem_cons.mp h
    rw [List.cons_append, latest, hevent, ih hevents]

/-- The block that is open is the one of the last header. -/
theorem block?_of_header {k : BlockKind} {title : String} {body : List Event} {past : History}
    (hbody : ∀ event ∈ body, event.boundsBlock = false) :
    ∃ o, block? k (body.reverse ++ k.start title :: past) = some o ∧ o.title = title := by
  have hskip : ∀ event ∈ body.reverse, k.title? event = none := by
    intro event hevent
    have hbounds := hbody event (List.mem_reverse.mp hevent)
    cases k <;> cases event <;> first | rfl | cases hbounds
  have hheader : latest k.title? (k.start title :: past) = some (title, past) := by
    cases k <;> rfl
  rw [block?, latest_append hskip, hheader]
  exact ⟨_, rfl, rfl⟩

/-- Later events add origins behind the earlier ones. -/
theorem exists_origins_append (config : NamingConfig) (events past : History) :
    ∃ others, origins config (events ++ past) = origins config past ++ others := by
  induction events with
  | nil => exact ⟨[], (List.append_nil _).symm⟩
  | cons event events ih =>
    obtain ⟨others, hothers⟩ := ih
    exact ⟨others ++ ended config (events ++ past) event, by
      rw [List.cons_append, origins, hothers, List.append_assoc]⟩

end History

/-! ## What becomes of a block -/

namespace Draft

/-- Where a block stands when it has ended. -/
def Stores (config : NamingConfig) (d : Draft W) (b : Scenario W) : BlockKind → Prop
  | .background => d.background = some b
  | .scenario => ∃ f, d.feature = some f ∧ (nameOf config b, b) ∈ f.scenarios
  | .outline => d.outline = some b

variable {config : NamingConfig} {r : Registry W} {past : History} {added : List (Scenario W)}
  {events : List Event} {k : BlockKind} {b : Scenario W} {d next : Draft W}

/-- Before a document nothing has been filled in. -/
theorem fills_nil : Fills .outside (History.sinceBound []) ({} : Draft W) :=
  .resting rfl rfl nofun

/-- A draft that comes through some events has filled in what they tell of the open block. -/
theorem Fills.course {m : Stage} (course : Course .outside events m)
    (hanswers : (builder config r).answerAll {} events = .ok d) :
    Fills m (History.sinceBound events.reverse) d := by
  have hfills := course.invariant (I := fun m past d => Fills m (History.sinceBound past) d)
    (fun hmoves h hnext => h.step hmoves hnext) hanswers fills_nil
  rwa [List.append_nil] at hfills

/-- **The open block** has the title of its header and the steps of the events behind that. -/
theorem exists_open {title : String} {earlier body : List Event}
    (course : Course .outside (earlier ++ k.start title :: body) (.block k))
    (hanswers : (builder config r).answerAll {} (earlier ++ k.start title :: body) = .ok d)
    (hbounds : ∀ event ∈ body, event.boundsBlock = false) :
    ∃ b, d.current = some b ∧ b.title = title ∧
      b.steps.map Step.toStepText = (Span.ofEvents body).map Span.stepText ∧
      ∀ step ∈ b.steps, step.multilines = none ∨ step.table = none := by
  have hpast : (earlier ++ k.start title :: body).reverse =
      body.reverse ++ k.start title :: earlier.reverse := by
    rw [List.reverse_append, List.reverse_cons, List.append_assoc, List.singleton_append]
  have hfills := Fills.course course hanswers
  rw [hpast, History.sinceBound_of_header (BlockKind.boundsBlock_start k title) hbounds] at hfills
  obtain ⟨-, -, -, b, hb, hsteps, hone⟩ := hfills.of_block
  obtain ⟨added, hrecalls⟩ := (recalls_nil config).course course hanswers
  obtain ⟨b', o, hb', ho, hkey⟩ := hrecalls.exists_current
  obtain rfl : b = b' := Option.some.inj (hb.symm.trans hb')
  have hheaded : ∃ o, History.block? k (body.reverse ++ k.start title :: earlier.reverse) = some o ∧
      o.title = title := History.block?_of_header hbounds
  obtain ⟨o', ho', htitle⟩ := hheaded
  rw [List.append_nil, hpast, ho', Option.some.injEq] at ho
  refine ⟨b, hb, ?_, hsteps, hone⟩
  rw [← htitle, ho]
  exact congrArg Prod.fst hkey

/-- A block that ends stands where it belongs. -/
theorem Recalls.stores (h : Recalls config (.block k) past added d) (hb : d.current = some b)
    (hnext : (d.handle config r k.finish).result = .ok next) : next.Stores config b k := by
  cases k with
  | background =>
    cases hnext
    exact hb
  | outline =>
    cases hnext
    exact hb
  | scenario =>
    obtain ⟨b', hb', hrecalls⟩ := h.finishScenario hnext
    obtain rfl : b = b' := Option.some.inj (hb.symm.trans hb')
    obtain ⟨f, hfeature, -, hkeeps⟩ := hrecalls.feature nofun nofun
    exact ⟨f, hfeature, hkeeps.mem_iff.mpr ⟨added, [], rfl, rfl, List.forall_mem_nil _⟩⟩

/-- A scenario that none of its name follows is the scenario of its test case. -/
theorem Recalls.exists_case {earlier later : List (Scenario W)}
    (h : Recalls config .closed past (earlier ++ b :: later) d)
    (hlater : ∀ other ∈ later, nameOf config other ≠ nameOf config b) :
    ∃ c ∈ d.suite, c.info.name = nameOf config b ∧ c.scenario = some b ∧
      ∀ other ∈ d.suite, other.info.name = c.info.name → other = c := by
  obtain ⟨f, group, hsuite, -, hkeeps⟩ := h.closed rfl
  have hkept : (nameOf config b, b) ∈ f.scenarios :=
    hkeeps.mem_iff.mpr ⟨earlier, later, rfl, rfl, hlater⟩
  rw [hsuite]
  refine ⟨_, Feature.mem_cases.mpr (.inr ⟨_, b, hkept, rfl⟩), rfl, rfl, ?_⟩
  intro other hother hname
  rcases Feature.mem_cases.mp hother with ⟨hnone, -⟩ | ⟨name, s, hs, rfl⟩
  · rw [hnone] at hkept
    cases hkept
  · have hsame : (name, s) = (nameOf config b, b) :=
      List.inj_on_of_nodup_map hkeeps.nodup_names hs hkept hname
    cases hsame
    rfl

/-- A scenario that has been added, with the origins of what comes later. -/
theorem Recalls.exists_others {last : Stage} {earlier : List (Scenario W)} {final : Draft W}
    (h : Recalls config .body past (earlier ++ [b]) d) (course : Course .body events last)
    (hlast : last = .outside ∨ last = .closed) (hanswers : (builder config r).answerAll d events = .ok final) :
    ∃ others, History.origins config (events.reverse ++ past) = History.origins config past ++ others ∧
      ((∀ o ∈ others, o.name config ≠ nameOf config b) →
        ∃ c ∈ final.suite, c.info.name = nameOf config b ∧ c.scenario = some b ∧
          ∀ other ∈ final.suite, other.info.name = c.info.name → other = c) := by
  obtain ⟨later, hrecalls⟩ := h.course course hanswers
  obtain ⟨others, hothers⟩ := History.exists_origins_append config events.reverse past
  refine ⟨others, hothers, fun hnames => ?_⟩
  have hall := hrecalls.origins
  rw [hothers] at hall
  have hbehind := Origin.forall₂_of_append h.origins hall
  have hlater := (Origin.forall_name_ne_iff hbehind).mp hnames
  rcases hlast with rfl | rfl
  · obtain ⟨-, -, -, hnone⟩ := hrecalls.outside rfl
    simp at hnone
  · rw [List.append_assoc, List.singleton_append] at hrecalls
    exact hrecalls.exists_case hlater

/-- **A block that ends** is stored, and a scenario that none of its name follows gets into the suite. -/
theorem exists_stored {last : Stage} {later : List Event} {final : Draft W}
    (hopened : Course .outside events (.block k)) (hd : (builder config r).answerAll {} events = .ok d)
    (hb : d.current = some b) (hlater : Course .body later last) (hlast : last = .outside ∨ last = .closed)
    (hanswers : (builder config r).answerAll {} (events ++ [k.finish] ++ later) = .ok final) :
    ∃ next, (builder config r).answerAll {} (events ++ [k.finish]) = .ok next ∧ next.Stores config b k ∧
      (k = .scenario → ∃ others,
        History.origins config (events ++ [k.finish] ++ later).reverse =
          History.origins config (events ++ [k.finish]).reverse ++ others ∧
        ((∀ o ∈ others, o.name config ≠ nameOf config b) →
          ∃ c ∈ final.suite, c.info.name = nameOf config b ∧ c.scenario = some b ∧
            ∀ other ∈ final.suite, other.info.name = c.info.name → other = c)) := by
  obtain ⟨stored, hstored, hfinal⟩ := Handler.answerAll_append_eq_ok.mp hanswers
  obtain ⟨d', hd', hend⟩ := Handler.answerAll_append_eq_ok.mp hstored
  obtain rfl : d = d' := Except.ok.inj (hd.symm.trans hd')
  obtain ⟨next, hfinish, hnext⟩ := Handler.answerAll_cons_eq_ok.mp hend
  obtain rfl : next = stored := Except.ok.inj hnext
  have hfinish := answer_builder.mp hfinish
  obtain ⟨added, hrecalls⟩ := (recalls_nil config).course hopened hd
  refine ⟨next, hstored, hrecalls.stores hb hfinish, ?_⟩
  rintro rfl
  obtain ⟨b', hb', hrecalled⟩ := hrecalls.finishScenario hfinish
  obtain rfl : b = b' := Option.some.inj (hb.symm.trans hb')
  obtain ⟨others, horigins, hcase⟩ := hrecalled.exists_others hlater hlast hfinal
  have hpast : (events ++ [BlockKind.scenario.finish]).reverse = .finishScenario :: events.reverse :=
    List.reverse_concat
  refine ⟨others, ?_, hcase⟩
  rw [List.append_nil, ← hpast] at horigins
  rw [List.reverse_append, horigins]

end Draft

namespace Loader

variable {l : Loader W} {text : String} {suite : Suite W}

/-- **Every block has its steps**: one for each step among the events up to its end, in order and with the
lines or the table of that step. A scenario that is not replaced by a later one of its name is the scenario
of its test case. -/
theorem steps_of_loadText (h : (l.loadText text).result = .ok suite) {k : BlockKind} {title : String}
    {earlier rest : List Event} (hheader : Session.eventsOf text = earlier ++ k.start title :: rest) :
    ∃ body later, rest = body ++ k.finish :: later ∧ (∀ event ∈ body, event.boundsBlock = false) ∧
      let events := earlier ++ k.start title :: body ++ [k.finish]
      ∃ (d : Draft W) (b : Scenario W),
        (Draft.builder l.config l.registry).answerAll {} events = .ok d ∧ d.Stores l.config b k ∧
        b.title = title ∧
        b.steps.map Step.toStepText = (Span.ofEvents body).map Span.stepText ∧
        (∀ step ∈ b.steps, step.multilines = none ∨ step.table = none) ∧
        (k = .scenario → ∃ others,
          History.origins l.config (Session.eventsOf text).reverse =
            History.origins l.config events.reverse ++ others ∧
          ((∀ o ∈ others, o.name l.config ≠ Draft.nameOf l.config b) →
            ∃ c ∈ suite, c.info.name = Draft.nameOf l.config b ∧ c.scenario = some b ∧
              ∀ other ∈ suite, other.info.name = c.info.name → other = c)) := by
  obtain ⟨⟨final, hanswers, rfl⟩, last, hcourse, hlast⟩ := exists_answerAll_of_loadText h
  rw [hheader] at hanswers hcourse
  have hlastPart : last.part ≠ .block k := by
    rcases hlast with rfl | rfl <;> nofun
  obtain ⟨body, later, rfl, hbounds, hopened, hlater⟩ := hcourse.exists_block hlastPart
  refine ⟨body, later, rfl, hbounds, ?_⟩
  intro events
  have hsplit : earlier ++ k.start title :: (body ++ k.finish :: later) = events ++ later := by
    simp [events]
  rw [hsplit] at hanswers
  obtain ⟨stored, hstored, -⟩ := Handler.answerAll_append_eq_ok.mp hanswers
  obtain ⟨d, hd, -⟩ := Handler.answerAll_append_eq_ok.mp hstored
  obtain ⟨b, hb, htitle, hsteps, hone⟩ := Draft.exists_open hopened hd hbounds
  obtain ⟨next, hnext, hstores, hscenario⟩ := Draft.exists_stored hopened hd hb hlater hlast hanswers
  refine ⟨next, b, hnext, hstores, htitle, hsteps, hone, ?_⟩
  rw [hheader, hsplit]
  exact hscenario

/-- A scenario with a step that has a table and a step that has lines. -/
theorem steps_table_and_lines :
    let l : Loader Unit := ⟨.empty, {}⟩
    let text := "Feature: f\nScenario: s\nGiven x\n| a |\n| 1 |\nAnd y\n\"\"\"\nz\n\"\"\"\n"
    ∃ suite c b, (l.loadText text).result = .ok suite ∧ c ∈ suite ∧ c.scenario = some b ∧
      b.steps.map Step.toStepText =
        [⟨.given, "x", none, some ⟨["a"], [["1"]]⟩⟩, ⟨.and, "y", some ["z"], none⟩] := by
  intro l text
  have hok : (l.loadText text).result.isOk = true := by decide +kernel
  have hheader : Session.eventsOf text = (Session.eventsOf text).take 2 ++
      BlockKind.scenario.start "s" :: (Session.eventsOf text).drop 3 := by decide +kernel
  cases hresult : (l.loadText text).result with
  | error fault =>
    rw [hresult] at hok
    cases hok
  | ok suite =>
    obtain ⟨body, later, hrest, hbounds, d, b, -, -, -, hsteps, -, hscenario⟩ :=
      steps_of_loadText hresult hheader
    have hbody : body = ((Session.eventsOf text).drop 3).takeWhile (!Event.boundsBlock ·) := by
      have hinner : ∀ event ∈ body, (!event.boundsBlock) = true := by
        intro event hevent
        rw [hbounds event hevent]
        rfl
      rw [hrest, List.takeWhile_append_of_pos hinner, List.takeWhile_cons_of_neg (by decide),
        List.append_nil]
    obtain ⟨others, horigins, hcase⟩ := hscenario rfl
    rw [hbody] at hsteps horigins
    have hothers : others = [] := by
      have hone : (History.origins l.config (Session.eventsOf text).reverse).length = 1 := by
        decide +kernel
      have hended : (History.origins l.config ((Session.eventsOf text).take 2 ++
          BlockKind.scenario.start "s" :: ((Session.eventsOf text).drop 3).takeWhile
            (!Event.boundsBlock ·) ++ [BlockKind.scenario.finish]).reverse).length = 1 := by
        decide +kernel
      rw [horigins, List.length_append, hended] at hone
      exact List.eq_nil_of_length_eq_zero (by omega)
    obtain ⟨c, hc, -, hscenario, -⟩ := hcase (by rw [hothers]; exact List.forall_mem_nil _)
    refine ⟨suite, c, b, rfl, hc, hscenario, hsteps.trans ?_⟩
    decide +kernel

end Loader

end Acceptance
