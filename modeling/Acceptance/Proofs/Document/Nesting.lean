import Acceptance.Proofs.Document.Transcript

/-!
# Nesting

The constructs of a document open and close like brackets. A stack of the constructs that are open runs
along with the events; what is on the stack after a line depends on the state of the parser alone
(`State.opened`). The rows of the grammar are checked once, against a `Situation` that also keeps what the
grammar promises about places: where a construct may open, that a feature opens once, and that an examples
block follows the end of an outline.
-/

set_option autoImplicit false

namespace Acceptance

open Acceptance.Grammar

/-- What has a beginning and an end in a document. -/
inductive Construct where
  | feature
  | description
  | background
  | scenario
  | outline
  | examples
  | step
  | multiline
  | table
  deriving DecidableEq, Repr

/-- What a report does to the constructs that are open. -/
inductive Mark where
  | opening (c : Construct)
  | closing (c : Construct)
  | neither
  deriving DecidableEq, Repr

/-- What an event does to the constructs that are open. -/
def Event.mark : Event → Mark
  | .startFeature _ => .opening .feature
  | .finishFeature => .closing .feature
  | .startDescription => .opening .description
  | .finishDescription => .closing .description
  | .startBackground _ => .opening .background
  | .finishBackground => .closing .background
  | .startScenario _ => .opening .scenario
  | .finishScenario => .closing .scenario
  | .startOutline _ => .opening .outline
  | .finishOutline => .closing .outline
  | .startExamples _ => .opening .examples
  | .finishExamples => .closing .examples
  | .startStep _ _ => .opening .step
  | .finishStep => .closing .step
  | .startMultiline _ => .opening .multiline
  | .finishMultiline => .closing .multiline
  | .startTable _ => .opening .table
  | .finishTable => .closing .table
  | .startParse _ | .finishParse | .data _ | .tableData _ | .tags _ | .comment _ | .whitespace _ =>
    .neither

/-- What the event of an action does to the constructs that are open. -/
def Grammar.Action.mark : Grammar.Action → Mark
  | .startFeature => .opening .feature
  | .finishFeature => .closing .feature
  | .startDescription => .opening .description
  | .finishDescription => .closing .description
  | .startBackground => .opening .background
  | .finishBackground => .closing .background
  | .startScenario => .opening .scenario
  | .finishScenario => .closing .scenario
  | .startOutline => .opening .outline
  | .finishOutline => .closing .outline
  | .startExamples => .opening .examples
  | .finishExamples => .closing .examples
  | .startStep => .opening .step
  | .finishStep => .closing .step
  | .startMultiline => .opening .multiline
  | .finishMultiline => .closing .multiline
  | .startTable => .opening .table
  | .finishTable => .closing .table
  | .data | .multilineData | .tableData | .tags | .comment => .neither

/-- An event opens or closes what its action says. -/
theorem Grammar.Action.mark_event {parts : List String} {a : Action} {event : Event}
    (h : a.event parts = .ok event) : event.mark = a.mark := by
  cases a with
  | startStep =>
    obtain ⟨keyword, text, rfl⟩ := Action.eq_startStep_of_event h
    rfl
  | _ => cases h; rfl

/-- Events open and close what their actions say, in order. -/
theorem Grammar.Reports.map_mark {parts : List String} {actions : List Action} {events : List Event}
    (h : Reports parts actions events) : events.map Event.mark = actions.map Action.mark := by
  induction h with
  | nil => rfl
  | cons hevent _ ih => simp only [List.map_cons, ih, Action.mark_event hevent]

/-! ## Properly nested words -/

/-- A properly nested word of events: every beginning has its own end behind it, and what begins between
the two ends between them. -/
inductive Nested : List Event → Prop where
  | nil : Nested []
  | plain {event : Event} {rest : List Event} :
      event.mark = .neither → Nested rest → Nested (event :: rest)
  | construct {c : Construct} {first last : Event} {body rest : List Event} :
      first.mark = .opening c → Nested body → last.mark = .closing c → Nested rest →
        Nested (first :: (body ++ last :: rest))

/-- The open constructs after a report, the innermost first. Nothing but the innermost one can close. -/
def Construct.after (stack : List Construct) : Mark → Option (List Construct)
  | .opening c => some (c :: stack)
  | .closing c =>
    match stack with
    | [] => none
    | top :: stack => if top = c then some stack else none
  | .neither => some stack

/-- The open constructs after events, the innermost first, given those that were open before. -/
def Construct.openAfter (stack : List Construct) (events : List Event) : Option (List Construct) :=
  (events.map Event.mark).foldlM Construct.after stack

/-- The event that ends a construct. -/
def Construct.finish : Construct → Event
  | .feature => .finishFeature
  | .description => .finishDescription
  | .background => .finishBackground
  | .scenario => .finishScenario
  | .outline => .finishOutline
  | .examples => .finishExamples
  | .step => .finishStep
  | .multiline => .finishMultiline
  | .table => .finishTable

/-- What closes must be what was opened last. -/
theorem Construct.after_closing {stack next : List Construct} {c : Construct} :
    after stack (.closing c) = some next ↔ stack = c :: next := by
  cases stack with
  | nil => simp [after]
  | cons top stack => simp [after]

/-- The constructs that are open after some events are followed event by event. -/
theorem Construct.openAfter_cons {stack last : List Construct} {event : Event}
    {events : List Event} :
    openAfter stack (event :: events) = some last ↔
      ∃ next, after stack event.mark = some next ∧ openAfter next events = some last := by
  unfold openAfter
  rw [List.map_cons, List.foldlM_cons]
  exact Option.bind_eq_some_iff

/-- The constructs that are open after some events are where the next events begin. -/
theorem Construct.openAfter_append {stack last : List Construct} {first second : List Event} :
    openAfter stack (first ++ second) = some last ↔
      ∃ next, openAfter stack first = some next ∧ openAfter next second = some last := by
  unfold openAfter
  rw [List.map_append, List.foldlM_append]
  exact Option.bind_eq_some_iff

/-- The closing event of a construct closes it. -/
theorem Construct.mark_finish (c : Construct) : c.finish.mark = .closing c := by
  cases c <;> rfl

/-- What is nested can be put behind something nested. -/
theorem Nested.append {first second : List Event} (hfirst : Nested first) (hsecond : Nested second) :
    Nested (first ++ second) := by
  induction hfirst with
  | nil => exact hsecond
  | plain hmark _ ih => exact .plain hmark ih
  | construct hopening hbody hclosing _ _ ih =>
    rw [List.cons_append, List.append_assoc, List.cons_append]
    exact .construct hopening hbody hclosing ih

/-- A word that closes the constructs of a stack, from the innermost to the outermost, and is nested
between. -/
inductive Unwinds : List Construct → List Event → Prop where
  | nil {word : List Event} : Nested word → Unwinds [] word
  | cons {c : Construct} {stack : List Construct} {before after : List Event} {last : Event} :
      Nested before → last.mark = .closing c → Unwinds stack after →
        Unwinds (c :: stack) (before ++ last :: after)

/-- Something nested can come before the constructs on the stack are closed. -/
theorem Unwinds.append_left {stack : List Construct} {before word : List Event} (hbefore : Nested before)
    (h : Unwinds stack word) : Unwinds stack (before ++ word) := by
  cases h with
  | nil hword => exact .nil (hbefore.append hword)
  | cons hfirst hclosing hrest =>
    rw [← List.append_assoc]
    exact .cons (hbefore.append hfirst) hclosing hrest

/-- **Soundness of the stack**: events that empty a stack unwind it. -/
theorem Construct.unwinds_of_openAfter {stack : List Construct} {events : List Event}
    (h : openAfter stack events = some []) : Unwinds stack events := by
  induction events generalizing stack with
  | nil =>
    cases h
    exact .nil .nil
  | cons event events ih =>
    obtain ⟨next, hnext, hrest⟩ := openAfter_cons.mp h
    cases hmark : event.mark with
    | opening c =>
      rw [hmark] at hnext
      cases hnext
      -- the construct that begins here is the first one to be unwound
      cases ih hrest with
      | cons hbody hclosing hunwinds =>
        have hword := Nested.construct hmark hbody hclosing .nil
        simpa using hunwinds.append_left hword
    | closing c =>
      rw [hmark, after_closing] at hnext
      rw [hnext]
      exact .cons .nil hmark (ih hrest)
    | neither =>
      rw [hmark] at hnext
      cases hnext
      exact (ih hrest).append_left (.plain hmark .nil)

/-- Where nothing is open before and after some events, they are nested. -/
theorem Construct.nested_of_openAfter {events : List Event} (h : openAfter [] events = some []) :
    Nested events := by
  cases unwinds_of_openAfter h with
  | nil hnested => exact hnested

/-- Closing the constructs on the stack from the top leaves none open. -/
theorem Construct.openAfter_map_finish (stack : List Construct) :
    openAfter stack (stack.map finish) = some [] := by
  induction stack with
  | nil => rfl
  | cons c stack ih =>
    rw [List.map_cons, openAfter_cons]
    exact ⟨stack, by rw [mark_finish, after_closing], ih⟩

/-- **Events that a stack runs along with** are the beginning of a properly nested word. -/
theorem Construct.exists_nested_append {stack : List Construct} {events : List Event}
    (h : openAfter [] events = some stack) : ∃ rest, Nested (events ++ rest) :=
  ⟨stack.map finish, nested_of_openAfter (openAfter_append.mpr ⟨stack, h, openAfter_map_finish stack⟩)⟩

/-! ## The grammar -/

/-- The constructs that are open in a state, the innermost first. -/
def Grammar.State.opened : State → List Construct
  | .start | .ended => []
  | .feature | .featureBody | .afterOutline => [.feature]
  | .description => [.description, .feature]
  | .background => [.background, .feature]
  | .backgroundStep => [.step, .background, .feature]
  | .backgroundMultiline => [.multiline, .step, .background, .feature]
  | .backgroundTable => [.table, .step, .background, .feature]
  | .scenario => [.scenario, .feature]
  | .scenarioStep => [.step, .scenario, .feature]
  | .scenarioMultiline => [.multiline, .step, .scenario, .feature]
  | .scenarioTable => [.table, .step, .scenario, .feature]
  | .outline => [.outline, .feature]
  | .outlineStep => [.step, .outline, .feature]
  | .outlineMultiline => [.multiline, .step, .outline, .feature]
  | .outlineTable => [.table, .step, .outline, .feature]
  | .examples => [.examples, .feature]
  | .examplesTable => [.table, .examples, .feature]

/-- The stacks of open constructs on which a construct may open. -/
def Construct.places : Construct → List (List Construct)
  | .feature => [[]]
  | .description | .background | .scenario | .outline | .examples => [[.feature]]
  | .step => [[.background, .feature], [.scenario, .feature], [.outline, .feature]]
  | .multiline =>
    [[.step, .background, .feature], [.step, .scenario, .feature], [.step, .outline, .feature]]
  | .table =>
    [[.step, .background, .feature], [.step, .scenario, .feature], [.step, .outline, .feature],
      [.examples, .feature]]

/-- The end of an outline with no beginning of a background or a scenario behind it. -/
def EndsOutline (before : List Event) : Prop :=
  ∃ first second, before = first ++ .finishOutline :: second ∧
    ∀ e ∈ second, e.mark ≠ .opening .background ∧ e.mark ≠ .opening .scenario

/-- What has gone before in a document, as far as the places of constructs depend on it. -/
structure Situation where
  /-- The open constructs, the innermost first. -/
  stack : List Construct
  /-- Whether a feature has begun. -/
  begun : Bool
  /-- Whether an outline has ended and no background or scenario has begun since. -/
  outlined : Bool
  deriving DecidableEq

namespace Situation

/-- Whether a construct may open. -/
def Fits (sit : Situation) (c : Construct) : Prop :=
  sit.stack ∈ c.places ∧ (c = .feature → sit.begun = false) ∧ (c = .examples → sit.outlined = true)

instance (sit : Situation) (c : Construct) : Decidable (sit.Fits c) :=
  inferInstanceAs (Decidable (_ ∧ _))

/-- The situation after a report, if nothing opens or closes out of place. -/
def after (sit : Situation) : Mark → Option Situation
  | .opening c =>
    if sit.Fits c then
      some
        { stack := c :: sit.stack
          begun := sit.begun || c == .feature
          outlined := sit.outlined && c != .background && c != .scenario }
    else none
  | .closing c =>
    (Construct.after sit.stack (.closing c)).map fun stack =>
      { sit with stack := stack, outlined := sit.outlined || c == .outline }
  | .neither => some sit

/-- The situation after events, if nothing opens or closes out of place. -/
def afterAll (sit : Situation) (events : List Event) : Option Situation :=
  (events.map Event.mark).foldlM Situation.after sit

/-- What a state tells about the situation: all that is open, that no feature has begun before one is
expected, and that an outline has ended where an examples block may follow. -/
def Stands (sit : Situation) (s : State) : Prop :=
  sit.stack = s.opened ∧ (s = .start → sit.begun = false) ∧
    (s ∈ [.afterOutline, .examples, .examplesTable] → sit.outlined = true)

instance (sit : Situation) (s : State) : Decidable (sit.Stands s) :=
  inferInstanceAs (Decidable (_ ∧ _))

/-- **Every row of the grammar** opens and closes constructs in their places, and leads to a state that
tells the truth about the situation. -/
theorem exists_stands_of_row : ∀ (s : State) (begun outlined : Bool),
    Stands ⟨s.opened, begun, outlined⟩ s → ∀ row ∈ standard.rows s,
      ∃ next ∈ (row.actions.map Action.mark).foldlM after ⟨s.opened, begun, outlined⟩,
        next.Stands row.next := by
  intro s
  cases s <;> decide

variable {sit next : Situation} {event : Event} {events : List Event}

/-- A situation is followed event by event. -/
theorem afterAll_cons :
    sit.afterAll (event :: events) = some next ↔
      ∃ middle, sit.after event.mark = some middle ∧ middle.afterAll events = some next := by
  unfold afterAll
  rw [List.map_cons, List.foldlM_cons]
  exact Option.bind_eq_some_iff

/-- A situation is followed through some events and then through others. -/
theorem afterAll_append {first second : List Event} :
    sit.afterAll (first ++ second) = some next ↔
      ∃ middle, sit.afterAll first = some middle ∧ middle.afterAll second = some next := by
  unfold afterAll
  rw [List.map_append, List.foldlM_append]
  exact Option.bind_eq_some_iff

/-- A construct may open where it fits, and is then the innermost one. -/
theorem after_opening {c : Construct} :
    sit.after (.opening c) = some next ↔
      sit.Fits c ∧
        next =
          { stack := c :: sit.stack
            begun := sit.begun || c == .feature
            outlined := sit.outlined && c != .background && c != .scenario } := by
  by_cases hfits : sit.Fits c
  · simp [after, hfits, eq_comm]
  · simp [after, hfits]

/-- The innermost construct may close, and an outline that closes is remembered. -/
theorem after_closing {c : Construct} :
    sit.after (.closing c) = some next ↔
      ∃ stack, sit.stack = c :: stack ∧
        next = { sit with stack := stack, outlined := sit.outlined || c == .outline } := by
  simp only [after, Option.map_eq_some_iff, Construct.after_closing]
  exact exists_congr fun stack => and_congr_right fun _ => eq_comm

/-- An event that opens and closes nothing leaves the situation as it was. -/
theorem after_neither : sit.after .neither = some next ↔ next = sit := by
  simp [after, eq_comm]

/-- A situation has on its stack what the brackets of the events leave open. -/
theorem stack_after {mark : Mark} (h : sit.after mark = some next) :
    Construct.after sit.stack mark = some next.stack := by
  cases mark with
  | opening c =>
    obtain ⟨-, rfl⟩ := after_opening.mp h
    rfl
  | closing c =>
    obtain ⟨stack, hstack, rfl⟩ := after_closing.mp h
    exact Construct.after_closing.mpr hstack
  | neither =>
    obtain rfl := after_neither.mp h
    rfl

/-- Following situations follows the open constructs. -/
theorem openAfter_of_afterAll (h : sit.afterAll events = some next) :
    Construct.openAfter sit.stack events = some next.stack := by
  induction events generalizing sit with
  | nil =>
    cases h
    rfl
  | cons event events ih =>
    obtain ⟨middle, hafter, hrest⟩ := afterAll_cons.mp h
    exact Construct.openAfter_cons.mpr ⟨middle.stack, stack_after hafter, ih hrest⟩

/-- A feature opens once at most. -/
theorem countP_feature_of_afterAll (h : sit.afterAll events = some next) :
    sit.begun.toNat + events.countP (fun e => e.mark = .opening .feature) = next.begun.toNat := by
  induction events generalizing sit with
  | nil =>
    cases h
    rfl
  | cons event events ih =>
    obtain ⟨middle, hafter, hrest⟩ := afterAll_cons.mp h
    have hcount := ih hrest
    rw [List.countP_cons]
    cases hmark : event.mark with
    | opening c =>
      rw [hmark] at hafter
      obtain ⟨hfits, rfl⟩ := after_opening.mp hafter
      by_cases hc : c = .feature
      · have hbegun := hfits.2.1 hc
        simp [hc, hbegun] at hcount ⊢
        omega
      · have hbeq : (c == Construct.feature) = false := by simpa using hc
        simpa [hc, hbeq] using hcount
    | closing c =>
      rw [hmark] at hafter
      obtain ⟨stack, -, rfl⟩ := after_closing.mp hafter
      simpa using hcount
    | neither =>
      rw [hmark] at hafter
      obtain rfl := after_neither.mp hafter
      simpa using hcount

/-- An outline that counts as ended has ended, and nothing has begun since that would end its reach. -/
theorem endsOutline_of_afterAll (h : sit.afterAll events = some next) (hnext : next.outlined = true) :
    (sit.outlined = true ∧
        ∀ e ∈ events, e.mark ≠ .opening .background ∧ e.mark ≠ .opening .scenario) ∨
      EndsOutline events := by
  induction events generalizing sit with
  | nil =>
    cases h
    exact .inl ⟨hnext, by simp⟩
  | cons event events ih =>
    obtain ⟨middle, hafter, hrest⟩ := afterAll_cons.mp h
    rcases ih hrest with ⟨hmiddle, hevents⟩ | hends
    · cases hmark : event.mark with
      | opening c =>
        rw [hmark] at hafter
        obtain ⟨-, rfl⟩ := after_opening.mp hafter
        simp only [Bool.and_eq_true, bne_iff_ne, ne_eq] at hmiddle
        refine .inl ⟨hmiddle.1.1, List.forall_mem_cons.mpr ⟨?_, hevents⟩⟩
        simpa [hmark] using ⟨hmiddle.1.2, hmiddle.2⟩
      | closing c =>
        rw [hmark] at hafter
        obtain ⟨stack, -, rfl⟩ := after_closing.mp hafter
        by_cases hc : c = .outline
        · have hevent : event = .finishOutline := by
            rw [hc] at hmark
            cases event <;> simp [Event.mark] at hmark ⊢
          exact .inr ⟨[], events, by rw [hevent, List.nil_append], hevents⟩
        · simp only [Bool.or_eq_true, beq_iff_eq, hc, or_false] at hmiddle
          exact .inl ⟨hmiddle, List.forall_mem_cons.mpr ⟨by simp [hmark], hevents⟩⟩
      | neither =>
        rw [hmark] at hafter
        obtain rfl := after_neither.mp hafter
        exact .inl ⟨hmiddle, List.forall_mem_cons.mpr ⟨by simp [hmark], hevents⟩⟩
    · obtain ⟨first, second, rfl, hsecond⟩ := hends
      exact .inr ⟨event :: first, second, rfl, hsecond⟩

/-- **The situation runs along** with the events of a document, and the state tells the truth about it. -/
theorem tracks : Tracks (fun sit events next => afterAll sit events = some next) Stands where
  nil _ := rfl
  append hfirst hsecond := afterAll_append.mpr ⟨_, hfirst, hsecond⟩
  row := by
    intro sit s row parts events hsit hrow hevents
    obtain ⟨stack, begun, outlined⟩ := sit
    obtain rfl : stack = s.opened := hsit.1
    obtain ⟨next, hnext, hstands⟩ := exists_stands_of_row s begun outlined hsit row hrow
    refine ⟨next, ?_, hstands⟩
    rw [afterAll, hevents.map_mark]
    exact hnext
  blank _ hsit _ := ⟨_, rfl, hsit⟩

/-- At the beginning of a document nothing is open and no feature has begun. -/
theorem stands_startParse (source : String) :
    ∃ next, afterAll ⟨[], false, false⟩ [.startParse source] = some next ∧ next.Stands .start :=
  ⟨_, rfl, by decide⟩

end Situation

/-! ## What a reading reports -/

/-- Events that are properly nested as far as they go, and the state that they lead to. -/
structure Bracketed (events : List Event) (state : State) : Prop where
  /-- At every moment they are the beginning of a properly nested word. -/
  nested : ∀ seen, seen <+: events → ∃ rest, Nested (seen ++ rest)
  /-- What is open is told by the state. -/
  opened : Construct.openAfter [] events = some state.opened
  /-- A feature begins once at most. -/
  feature : events.countP (fun e => e.mark = .opening .feature) ≤ 1
  /-- A construct begins directly within one of its places. -/
  places : ∀ before event behind c, events = before ++ event :: behind → event.mark = .opening c →
    ∃ stack ∈ c.places, Construct.openAfter [] before = some stack
  /-- An examples block begins where an outline has ended, with no background or scenario since. -/
  examples : ∀ before label behind, events = before ++ .startExamples label :: behind →
    EndsOutline before

/-- Events that take the situation at the start of a document to one that a state tells the truth
about. -/
theorem Situation.bracketed {events : List Event} {state : State} {next : Situation}
    (h : afterAll ⟨[], false, false⟩ events = some next) (hstands : next.Stands state) :
    Bracketed events state where
  nested := by
    rintro seen ⟨rest, rfl⟩
    obtain ⟨middle, hmiddle, -⟩ := afterAll_append.mp h
    exact Construct.exists_nested_append (openAfter_of_afterAll hmiddle)
  opened := by
    rw [← hstands.1]
    exact openAfter_of_afterAll h
  feature := by
    have hcount := countP_feature_of_afterAll h
    have hle := Bool.toNat_le next.begun
    simp only [Bool.toNat_false, Nat.zero_add] at hcount
    omega
  places := by
    rintro before event behind c rfl hmark
    obtain ⟨middle, hmiddle, hrest⟩ := afterAll_append.mp h
    obtain ⟨_, hafter, -⟩ := afterAll_cons.mp hrest
    rw [hmark] at hafter
    exact ⟨middle.stack, (after_opening.mp hafter).1.1, openAfter_of_afterAll hmiddle⟩
  examples := by
    rintro before label behind rfl
    obtain ⟨middle, hmiddle, hrest⟩ := afterAll_append.mp h
    obtain ⟨_, hafter, -⟩ := afterAll_cons.mp hrest
    have hfits : middle.Fits .examples := (after_opening.mp hafter).1
    have hends := endsOutline_of_afterAll hmiddle (hfits.2.2 rfl)
    exact hends.resolve_left fun houtlined => Bool.false_ne_true houtlined.1

variable {σ ε : Type}

/-- **Well-bracketed reports.** A handler that refuses nothing is shown properly nested events: after any
lines of a document, and at the end of any reading, however that was begun and wherever it failed. What is
open is told by the state of the parser. A reading that succeeds closes everything before it finishes. -/
theorem Session.bracketed_of_accepting {h : Handler σ ε} (accepting : h.Accepting) (p : Parser)
    (state : σ) (log : Log) :
    let s : Session (σ × List Event) := ⟨p, (state, []), log⟩
    (∀ source fed,
      let reached := (feedAll h.recording fed (begin h.recording s source).1).1
      Bracketed reached.state.2 reached.parser.state) ∧
    ∀ ended, Parsed h.recording s ended →
      Bracketed ended.1.state.2 ended.1.parser.state ∧
      (ended.2 = .ok () → ∃ body, ended.1.state.2 = body ++ [.finishParse] ∧ Nested body) := by
  intro s
  constructor
  · intro source fed reached
    have hbegin : Follows h.recording s { events := [.startParse source], parser := {} }
        (begin h.recording s source) := send_follows (.startParse source) { s with parser := {} }
    obtain ⟨hparser, hstarted, -⟩ := hbegin.recording accepting
    have hfed := feedAll_follows (h := h.recording) fed (begin h.recording s source).1
    obtain ⟨hreached, hevents, -⟩ := hfed.recording accepting
    obtain ⟨next, hnext, hstands⟩ := Situation.tracks.startParse (Situation.stands_startParse source) fed
    rw [hparser] at hreached hevents
    rw [show reached.parser = _ from hreached, show reached.state.2 = _ from hevents, hstarted]
    exact Situation.bracketed hnext hstands
  · intro ended parsed
    obtain ⟨source, lines, unreadable, follows⟩ := parsed.follows
    obtain ⟨hparser, hevents, houtcome⟩ := follows.recording accepting
    rw [hparser, hevents, houtcome, List.nil_append]
    have hstart := Situation.stands_startParse source
    obtain ⟨next, hnext, hstands⟩ := Situation.tracks.ofLines hstart
      (fun sit h => ⟨sit, rfl, h⟩) lines unreadable
    refine ⟨Situation.bracketed hnext hstands, fun hok => ?_⟩
    obtain ⟨body, closing, rfl, hbody, rfl, hclosing, hdocument⟩ :=
      Transcript.ofLines_of_fault_eq_none (Transcript.outcome_eq_ok.mp hok)
    refine ⟨_, by rw [hdocument], ?_⟩
    -- all but the last event take the parser to the state in which nothing is open
    obtain ⟨read, hread, hlines⟩ := Situation.tracks.startParse hstart lines
    obtain ⟨last, hlast, hended⟩ := Situation.tracks.report hlines none
    rw [Parser.state_report_none hclosing] at hended
    have hopened := Situation.openAfter_of_afterAll (Situation.afterAll_append.mpr ⟨read, hread, hlast⟩)
    rw [hended.1] at hopened
    exact Construct.nested_of_openAfter hopened

/-- A scenario whose last step has a table, read from a text. -/
theorem Session.bracketed_scenario_table :
    let s : Session (List Event × List Event) := ⟨{}, ([], []), []⟩
    let ended := s.parseText recorder.recording "@a\nFeature: f\n  Scenario: s\n    Given x\n      | k |\n"
    recorder.Accepting ∧ Parsed recorder.recording s ended ∧ ended.2 = .ok () ∧
      Bracketed ended.1.state.2 ended.1.parser.state ∧
      ∃ body, ended.1.state.2 = body ++ [.finishParse] ∧ Nested body := by
  intro s ended
  have accepting : recorder.Accepting := fun _ _ => rfl
  have hok : ended.2 = .ok () := by rfl
  have parsed : Parsed recorder.recording s ended := .text _
  have hbracketed := (bracketed_of_accepting accepting {} [] []).2 ended parsed
  exact ⟨accepting, parsed, hok, hbracketed.1, hbracketed.2 hok⟩

end Acceptance
