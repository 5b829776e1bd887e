import Acceptance.Proofs.Load.Blocks

/-!
# Blocks and their backgrounds

A block that a document asks for is a `Passage`: what its header says, and its steps. The background that a
scenario or an outline refers to is settled at its header: it is the latest background that has ended by
then (`History.scope?`), and nothing that comes behind the header changes that.

A draft keeps the backgrounds that its history asks for (`Draft.Scopes`): the latest one that has ended, the
one of the open block, and the one of the latest outline, which its examples blocks use much later.
-/

set_option autoImplicit false

namespace Acceptance

variable {W : Type}

/-! ## What a document asks for -/

/-- The end of an outline. -/
def Event.outlineEnd? : Event → Option Unit
  | .finishOutline => some ()
  | _ => none

/-- A block that a document asks for: the title and the tags of its header, and its steps. -/
structure Passage extends Origin where
  steps : List Span

/-- A block that a document asks for, with the background that it refers to. -/
structure Scoped where
  block : Passage
  background : Option Passage

namespace History

/-- The latest block of a kind, with the steps that it has so far. -/
def passage? (k : BlockKind) (past : History) : Option Passage :=
  (past.block? k).map fun o => ⟨o, Span.ofEvents past.sinceBound⟩

/-- The latest background that has ended. -/
def background? (past : History) : Option Passage :=
  (past.latest Event.backgroundEnd?).bind fun (_, closed) => closed.passage? .background

/-- The background that the latest block of a kind refers to: the latest one that has ended before its header.
A background refers to none. -/
def scope? (k : BlockKind) (past : History) : Option Passage :=
  if k = .background then none else (past.latest k.title?).bind fun (_, header) => background? header

/-- The latest block of a kind, with the background that it refers to. -/
def scoped? (k : BlockKind) (past : History) : Option Scoped :=
  (past.passage? k).map fun p => ⟨p, past.scope? k⟩

/-- The latest outline that has ended, with the background that it refers to. -/
def outline? (past : History) : Option Scoped :=
  (past.latest Event.outlineEnd?).bind fun (_, closed) => closed.scoped? .outline

variable {event : Event} {past : History}

/-- An event that is not sought leaves the latest one that is. -/
theorem latest_cons_of_none {α : Type} {sought : Event → Option α} (h : sought event = none) :
    latest sought (event :: past) = latest sought past := by
  rw [latest, h]

/-- An event that ends no background leaves the latest one. -/
theorem background?_cons (h : event.backgroundEnd? = none) :
    background? (event :: past) = background? past := by
  rw [background?, background?, latest_cons_of_none h]

/-- An event that ends no outline leaves the latest one. -/
theorem outline?_cons (h : event.outlineEnd? = none) : outline? (event :: past) = outline? past := by
  rw [outline?, outline?, latest_cons_of_none h]

/-- Only a header settles what a block refers to. -/
theorem scope?_cons (h : event.boundsBlock = false) (k : BlockKind) :
    scope? k (event :: past) = scope? k past := by
  have hheader : k.title? event = none := by
    cases k <;> cases event <;> first | rfl | cases h
  rw [scope?, scope?, latest_cons_of_none hheader]

/-- **A header refers to the latest background** that has ended before it. -/
theorem scope?_start {k : BlockKind} (hk : k ≠ .background) (title : String) (past : History) :
    scope? k (k.start title :: past) = past.background? := by
  cases k with
  | background => exact absurd rfl hk
  | _ => rfl

end History

/-! ## What is made of it -/

/-- A step is bound by its own text. -/
def Step.IsBound (r : Registry W) (step : Step W) : Prop :=
  r.resolve step.keyword step.text = .ok step.binding

/-- What a step of a document becomes: what it asks for, bound by its text. -/
structure Span.Makes (r : Registry W) (span : Span) (step : Step W) : Prop where
  text : step.toStepText = span.stepText
  bound : step.IsBound r

/-- What a block of a document becomes. -/
structure Passage.Makes (r : Registry W) (p : Passage) (b : Block W) : Prop where
  title : b.title = p.title
  tags : b.tags = .ofList p.tags
  steps : List.Forall₂ (Span.Makes r) p.steps b.steps

/-- What a block with its background becomes: it has the one that it refers to, or none. -/
structure Scoped.Makes (r : Registry W) (x : Scoped) (s : Scenario W) : Prop where
  block : x.block.Makes r s.toBlock
  backgrounds : List.Forall₂ (Passage.Makes r) x.background.toList s.backgrounds

/-- Steps with the texts of spans, each resolved by its own text, are what the spans make. -/
theorem Span.forall₂_makes {r : Registry W} {spans : List Span} {steps : List (Step W)}
    (htexts : steps.map Step.toStepText = spans.map Span.stepText)
    (hbound : ∀ step ∈ steps, step.IsBound r) : List.Forall₂ (Span.Makes r) spans steps := by
  induction spans generalizing steps with
  | nil =>
    rw [List.map_eq_nil_iff.mp htexts]
    exact .nil
  | cons span spans ih =>
    cases steps with
    | nil => cases htexts
    | cons step steps =>
      obtain ⟨htext, hrest⟩ := List.cons.inj htexts
      obtain ⟨hstep, hsteps⟩ := List.forall_mem_cons.mp hbound
      exact .cons ⟨htext, hstep⟩ (ih hrest hsteps)

namespace Draft

/-- The open block has steps that are bound, and of backgrounds those of a list. -/
def Refers (r : Registry W) (d : Draft W) (backgrounds : List Passage) : Prop :=
  ∃ b, d.current = some b ∧ (∀ step ∈ b.steps, step.IsBound r) ∧
    List.Forall₂ (Passage.Makes r) backgrounds b.backgrounds

/-- **The backgrounds that a draft keeps** at a stage, given its history. -/
structure Scopes (r : Registry W) (m : Stage) (past : History) (d : Draft W) : Prop where
  background : Option.Rel (fun p b => Passage.Makes r p b.toBlock ∧ b.backgrounds = [])
    past.background? d.background
  current : ∀ k, m.part = .block k → d.Refers r (past.scope? k).toList
  outline : Option.Rel (Scoped.Makes r) past.outline? d.outline

variable {config : NamingConfig} {r : Registry W} {m n : Stage} {k : BlockKind} {event : Event}
  {past : History} {added : List (Scenario W)} {d next : Draft W}

/-- A block that begins has no steps, and refers to the latest background. -/
theorem refers_openScenario (h : Scopes r m past d) (title : String) :
    (d.openScenario title).Refers r past.background?.toList := by
  have hbackground := h.background
  unfold openScenario
  cases hheld : d.background with
  | none =>
    rw [hheld] at hbackground
    generalize past.background? = latest at hbackground ⊢
    cases hbackground
    exact ⟨_, rfl, List.forall_mem_nil _, .nil⟩
  | some b =>
    rw [hheld] at hbackground
    generalize past.background? = latest at hbackground ⊢
    cases hbackground with
    | some hmakes =>
      obtain ⟨hmakes, hnone⟩ := hmakes
      refine ⟨_, rfl, List.forall_mem_nil _, .cons hmakes ?_⟩
      rw [hnone]
      exact .nil

/-- A step that ends is bound. -/
theorem Refers.closeStep {backgrounds : List Passage} (h : d.Refers r backgrounds)
    (hnext : (d.closeStep r).result = .ok next) : next.Refers r backgrounds := by
  obtain ⟨b, hb, hbound, hbackgrounds⟩ := h
  cases hstep : d.step with
  | none =>
    unfold Draft.closeStep at hnext
    rw [hstep] at hnext
    cases hnext
    exact ⟨b, hb, hbound, hbackgrounds⟩
  | some step =>
    obtain ⟨keyword, text⟩ := step
    obtain ⟨made, htext, hbinding, rfl⟩ := closeStep_result hstep hnext
    have hmade : made.IsBound r := by
      have hkeyword : made.keyword = keyword := by rw [htext]
      have htext : made.text = text := by rw [htext]
      rw [Step.IsBound, hkeyword, htext]
      exact hbinding
    refine ⟨b.addStep made, congrArg (Option.map _) hb, ?_, hbackgrounds⟩
    exact List.forall_mem_append.mpr ⟨hbound, List.forall_mem_singleton.mpr hmade⟩

namespace Scopes

/-- An event that ends no background and no outline. -/
theorem advance (h : Scopes r m past d) (hbackgroundEnd : event.backgroundEnd? = none)
    (houtlineEnd : event.outlineEnd? = none) (hbackground : next.background = d.background)
    (houtline : next.outline = d.outline)
    (hcurrent : ∀ k, n.part = .block k → next.Refers r (History.scope? k (event :: past)).toList) :
    Scopes r n (event :: past) next where
  background := by
    rw [History.background?_cons hbackgroundEnd, hbackground]
    exact h.background
  current := hcurrent
  outline := by
    rw [History.outline?_cons houtlineEnd, houtline]
    exact h.outline

/-- An event that bounds no block leaves the open one what it refers to. -/
theorem within (h : Scopes r m past d) (hevent : event.boundsBlock = false) (hpart : n.part = m.part)
    (hbackground : next.background = d.background) (houtline : next.outline = d.outline)
    (hcurrent : ∀ backgrounds, d.Refers r backgrounds → next.Refers r backgrounds) :
    Scopes r n (event :: past) next := by
  refine h.advance ?_ ?_ hbackground houtline fun k hk => ?_
  · cases event <;> first | rfl | cases hevent
  · cases event <;> first | rfl | cases hevent
  · rw [History.scope?_cons hevent]
    exact hcurrent _ (h.current k (hpart ▸ hk))

/-- A block begins in the scope of the background that has ended before it. -/
theorem startBlock (h : Scopes r .body past d) {title : String}
    (hnext : (d.handle config r (k.start title)).result = .ok next) :
    Scopes r (.block k) (k.start title :: past) next := by
  cases k with
  | background =>
    cases hnext
    refine h.advance rfl rfl rfl rfl ?_
    rintro _ ⟨⟩
    exact ⟨_, rfl, List.forall_mem_nil _, .nil⟩
  | scenario =>
    cases hnext
    refine h.advance rfl rfl rfl rfl ?_
    rintro _ ⟨⟩
    rw [History.scope?_start (k := .scenario) nofun]
    exact refers_openScenario h title
  | outline =>
    cases hnext
    refine h.advance rfl rfl rfl rfl ?_
    rintro _ ⟨⟩
    rw [History.scope?_start (k := .outline) nofun]
    exact refers_openScenario h title

/-- **The open block** is what its header and its steps ask for, with the background that it refers to. -/
theorem exists_scoped (h : Scopes r (.block k) past d) (hrecalls : Recalls config (.block k) past added d)
    (hfills : Fills (.block k) past.sinceBound d) :
    ∃ b x, d.current = some b ∧ past.scoped? k = some x ∧ x.background = past.scope? k ∧ x.Makes r b := by
  obtain ⟨b, hb, hbound, hbackgrounds⟩ := h.current k rfl
  obtain ⟨b', o, hb', ho, hkey⟩ := hrecalls.exists_current
  obtain rfl : b = b' := Option.some.inj (hb.symm.trans hb')
  obtain ⟨-, -, -, b', hb', hsteps, -⟩ := hfills.of_block
  obtain rfl : b = b' := Option.some.inj (hb.symm.trans hb')
  obtain ⟨htitle, htags⟩ := Prod.mk.inj hkey
  have hscoped : past.scoped? k = some ⟨⟨o, Span.ofEvents past.sinceBound⟩, past.scope? k⟩ := by
    rw [History.scoped?, History.passage?, ho]
    rfl
  exact ⟨b, _, hb, hscoped, rfl, ⟨htitle, htags, Span.forall₂_makes hsteps hbound⟩, hbackgrounds⟩

/-- A background that ends is in scope for the blocks behind it. -/
theorem finishBackground (h : Scopes r (.block .background) past d)
    (hrecalls : Recalls config (.block .background) past added d)
    (hfills : Fills (.block .background) past.sinceBound d) :
    Scopes r .body (.finishBackground :: past) { d with background := d.current, current := none } where
  background := by
    obtain ⟨b, x, hb, hscoped, hscope, hmakes⟩ := h.exists_scoped hrecalls hfills
    obtain ⟨p, hp, rfl⟩ := Option.map_eq_some_iff.mp hscoped
    have hlatest : History.background? (.finishBackground :: past) = some p := hp
    have hnone : b.backgrounds = [] := List.forall₂_nil_left_iff.mp hmakes.backgrounds
    rw [hlatest, hb]
    exact .some ⟨hmakes.block, hnone⟩
  current _ hk := by cases hk
  outline := h.outline

/-- An outline that ends is the one for the examples blocks behind it. -/
theorem finishOutline (h : Scopes r (.block .outline) past d)
    (hrecalls : Recalls config (.block .outline) past added d)
    (hfills : Fills (.block .outline) past.sinceBound d) :
    Scopes r .body (.finishOutline :: past) { d with outline := d.current, current := none } where
  background := h.background
  current _ hk := by cases hk
  outline := by
    obtain ⟨b, x, hb, hscoped, -, hmakes⟩ := h.exists_scoped hrecalls hfills
    have hlatest : History.outline? (.finishOutline :: past) = some x := hscoped
    rw [hlatest, hb]
    exact .some hmakes

/-- **Every event preserves** the backgrounds that a draft keeps. -/
theorem step (hmoves : Moves m event n) (h : Scopes r m past d) (hrecalls : Recalls config m past added d)
    (hfills : Fills m past.sinceBound d) (hnext : (d.handle config r event).result = .ok next) :
    Scopes r n (event :: past) next := by
  cases hmoves with
  | startBlock k title => exact h.startBlock hnext
  | finishBlock k =>
    cases k with
    | background =>
      cases hnext
      exact h.finishBackground hrecalls hfills
    | outline =>
      cases hnext
      exact h.finishOutline hrecalls hfills
    | scenario =>
      rw [finishScenario_result hnext]
      exact h.advance rfl rfl rfl rfl nofun
  | startFeature title =>
    -- before the feature there is no background that the header could take away
    obtain ⟨-, hnone, -, -⟩ := hrecalls.outside rfl
    cases hnext
    exact h.advance rfl rfl hnone.symm rfl nofun
  | finishStep k | finishAttached k =>
    have hkeeps : next.background = d.background ∧ next.outline = d.outline := by
      obtain ⟨_, _, _, rfl⟩ := exists_closeStep_result hnext
      exact ⟨rfl, rfl⟩
    exact h.within rfl rfl hkeeps.1 hkeeps.2 fun _ hrefers => hrefers.closeStep hnext
  | tableData k cells | examplesData cells =>
    rw [tableData_result hnext]
    exact h.within rfl rfl rfl rfl fun _ => id
  | finishExamples =>
    rw [closeExamples_result hnext]
    exact h.advance rfl rfl rfl rfl nofun
  | finishFeature =>
    rw [closeFeature_result hnext]
    exact h.advance rfl rfl rfl rfl nofun
  | startExamples label =>
    cases hnext
    exact h.advance rfl rfl rfl rfl nofun
  | _ =>
    cases hnext
    exact h.within rfl rfl rfl rfl fun _ => id

end Scopes

/-- Before a document nothing is in scope. -/
theorem scopes_nil (r : Registry W) : Scopes r .outside [] ({} : Draft W) where
  background := .none
  current _ hk := by cases hk
  outline := .none

/-- **A course of events preserves** the backgrounds that a draft keeps. -/
theorem Scopes.course {events : List Event} (course : Course .outside events m)
    (hanswers : (builder config r).answerAll {} events = .ok d) : Scopes r m events.reverse d := by
  have hall := course.invariant (r := r)
    (I := fun m past d => ∃ added, Recalls config m past added d ∧ Fills m past.sinceBound d ∧
      Scopes r m past d)
    (fun hmoves hrun hnext => by
      obtain ⟨added, hrecalls, hfills, hscopes⟩ := hrun
      exact ⟨_, hrecalls.step hmoves hnext, hfills.step hmoves hnext,
        hscopes.step hmoves hrecalls hfills hnext⟩)
    hanswers ⟨[], recalls_nil config, fills_nil, scopes_nil r⟩
  rw [List.append_nil] at hall
  obtain ⟨-, -, -, hscopes⟩ := hall
  exact hscopes

end Draft

end Acceptance
