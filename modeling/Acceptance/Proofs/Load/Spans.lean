import Acceptance.Proofs.Load.History

/-!
# The steps that a document asks for

The events of a block stand between its header and its end, and within a block every step is a `Span`: the
line of the step and the events from there to the end of the step. What a span asks for is a `StepText`,
with the lines of its multiline block or with its table.
-/

set_option autoImplicit false

namespace Acceptance

namespace Event

/-- Whether an event is the header or the end of a block. -/
def boundsBlock : Event → Bool
  | .startBackground _ | .finishBackground | .startScenario _ | .finishScenario | .startOutline _
  | .finishOutline => true
  | _ => false

/-- Whether an event begins or ends a step. -/
def boundsStep : Event → Bool
  | .startStep _ _ | .finishStep => true
  | _ => false

/-- Whether an event is a comment or a blank line. -/
def remarks : Event → Bool
  | .comment _ | .whitespace _ => true
  | _ => false

/-- Whether an event begins a multiline block. -/
def startsMultiline : Event → Bool
  | .startMultiline _ => true
  | _ => false

/-- The text of a line of contents. -/
def data? : Event → Option String
  | .data text => some text
  | _ => none

/-- The keys at the beginning of a table. -/
def keys? : Event → Option (List String)
  | .startTable keys => some keys
  | _ => none

/-- The cells of a row. -/
def cells? : Event → Option (List String)
  | .tableData cells => some cells
  | _ => none

end Event

namespace History

/-- The events since the latest header or end of a block, in the order of the document. -/
def sinceBound : History → List Event
  | [] => []
  | event :: past => if event.boundsBlock then [] else sinceBound past ++ [event]

/-- Events that bound no block belong to the block that is open. -/
theorem sinceBound_append {events : List Event} {past : History}
    (h : ∀ event ∈ events, event.boundsBlock = false) :
    sinceBound (events.reverse ++ past) = past.sinceBound ++ events := by
  induction events using List.reverseRecOn with
  | nil => simp
  | append_singleton events last ih =>
    obtain ⟨hevents, hlast⟩ := List.forall_mem_append.mp h
    have hlast : last.boundsBlock = false := hlast last (List.mem_singleton_self last)
    rw [List.reverse_append, List.reverse_singleton, List.singleton_append, List.cons_append, sinceBound,
      hlast, ih hevents]
    simp

/-- Behind the header of a block there are the events of its body. -/
theorem sinceBound_of_header {header : Event} {body : List Event} {past : History}
    (hheader : header.boundsBlock = true) (hbody : ∀ event ∈ body, event.boundsBlock = false) :
    sinceBound (body.reverse ++ header :: past) = body := by
  rw [sinceBound_append hbody, sinceBound, if_pos hheader, List.nil_append]

end History

/-- A step of a document: its line, and the events from there to its end. -/
structure Span where
  keyword : Keyword
  text : String
  inner : List Event

namespace Span

/-- The lines of the multiline block, if there is one. -/
def lines? (s : Span) : Option (List String) :=
  if s.inner.any Event.startsMultiline then some (s.inner.filterMap Event.data?) else none

/-- The table, if there is one. -/
def table? (s : Span) : Option Table :=
  (s.inner.findSome? Event.keys?).map fun keys => ⟨keys, s.inner.filterMap Event.cells?⟩

/-- What the step asks for. -/
def stepText (s : Span) : StepText :=
  ⟨s.keyword, s.text, s.lines?, s.table?⟩

/-- The steps in a list of events, in order. -/
def ofEvents : List Event → List Span
  | [] => []
  | .startStep keyword text :: rest =>
    ⟨keyword, text, rest.takeWhile (· ≠ .finishStep)⟩ :: ofEvents rest
  | _ :: rest => ofEvents rest

/-- The events of a step whose end is not there yet. -/
def opening (s : Span) : List Event :=
  .startStep s.keyword s.text :: s.inner

/-- The step with one more event. -/
def addEvent (s : Span) (event : Event) : Span :=
  { s with inner := s.inner ++ [event] }

/-- Events that end every step that they begin, so that others behind them leave their steps as they are. -/
def Whole (events : List Event) : Prop :=
  ∀ rest, ofEvents (events ++ rest) = ofEvents events ++ ofEvents rest

variable {s : Span} {event : Event} {events rest : List Event}

/-- An event between steps is in no span. -/
theorem ofEvents_cons (h : event.boundsStep = false) : ofEvents (event :: rest) = ofEvents rest := by
  cases event <;> first | rfl | cases h

/-- Events between steps are in no span. -/
theorem ofEvents_append (h : ∀ event ∈ events, event.boundsStep = false) :
    ofEvents (events ++ rest) = ofEvents rest := by
  induction events with
  | nil => rfl
  | cons event events ih =>
    obtain ⟨hevent, hevents⟩ := List.forall_mem_cons.mp h
    rw [List.cons_append, ofEvents_cons hevent, ih hevents]

/-- Of no spans each is whole. -/
theorem whole_nil : Whole [] :=
  fun _ => rfl

/-- An event between two steps makes no step. -/
theorem Whole.append_event (h : Whole events) (hevent : event.boundsStep = false) :
    Whole (events ++ [event]) ∧ ofEvents (events ++ [event]) = ofEvents events := by
  have hsame : ofEvents (events ++ [event]) = ofEvents events := by
    rw [h [event], ofEvents_cons hevent]
    exact List.append_nil _
  refine ⟨fun rest => ?_, hsame⟩
  rw [hsame, List.append_assoc, h, List.singleton_append, ofEvents_cons hevent]

/-- A step that ends is the step that has been open. -/
theorem ofEvents_opening (hinner : ∀ event ∈ s.inner, event.boundsStep = false) (rest : List Event) :
    ofEvents (s.opening ++ .finishStep :: rest) = s :: ofEvents rest := by
  have hwhile : (s.inner ++ .finishStep :: rest).takeWhile (· ≠ .finishStep) = s.inner := by
    have hother : ∀ event ∈ s.inner, decide (event ≠ .finishStep) = true := by
      intro event hevent
      refine decide_eq_true fun hsame => ?_
      have hbounds := hinner event hevent
      rw [hsame] at hbounds
      cases hbounds
    rw [List.takeWhile_append_of_pos hother, List.takeWhile_cons_of_neg (by simp), List.append_nil]
  have hrest : ofEvents (s.inner ++ .finishStep :: rest) = ofEvents rest := by
    rw [ofEvents_append hinner]
    rfl
  rw [opening, List.cons_append, ofEvents, hwhile, hrest]

/-- A step joins the steps before it when it ends. -/
theorem Whole.append_step (h : Whole events) (hinner : ∀ event ∈ s.inner, event.boundsStep = false) :
    Whole (events ++ s.opening ++ [.finishStep]) ∧
      ofEvents (events ++ s.opening ++ [.finishStep]) = ofEvents events ++ [s] := by
  have hjoined (rest : List Event) : ofEvents (events ++ s.opening ++ [.finishStep] ++ rest) =
      ofEvents events ++ s :: ofEvents rest := by
    rw [List.append_assoc, List.append_assoc, List.singleton_append, h, ofEvents_opening hinner]
  have hnone := hjoined []
  rw [List.append_nil] at hnone
  refine ⟨fun rest => ?_, hnone⟩
  rw [hnone, hjoined]
  exact List.append_cons _ s _

/-! ## What an event adds to a step -/

/-- A span has a block of lines once one of its events opens one, and its lines are those of its events. -/
theorem lines?_addEvent : (s.addEvent event).lines? =
    if s.inner.any Event.startsMultiline || event.startsMultiline then
      some (s.inner.filterMap Event.data? ++ event.data?.toList)
    else none := by
  have hdata : [event].filterMap Event.data? = event.data?.toList := by cases event <;> rfl
  unfold lines? addEvent
  rw [List.any_append, List.any_cons, List.any_nil, Bool.or_false, List.filterMap_append, hdata]

/-- An open block of lines grows by the line that an event carries. -/
theorem lines?_addEvent_of_some {lines : List String} (h : s.lines? = some lines) :
    (s.addEvent event).lines? = some (lines ++ event.data?.toList) := by
  unfold lines? at h
  split at h
  · next hany =>
    cases h
    rw [lines?_addEvent, hany]
    rfl
  · cases h

/-- An event that opens no block of lines leaves a span without one. -/
theorem lines?_addEvent_of_none (h : s.lines? = none) (hevent : event.startsMultiline = false) :
    (s.addEvent event).lines? = none := by
  unfold lines? at h
  split at h
  · cases h
  · next hany =>
    rw [lines?_addEvent, Bool.eq_false_iff.mpr hany, hevent]
    rfl

/-- A table grows by the row that an event carries. -/
theorem table?_addEvent_of_some {t : Table} (h : s.table? = some t) :
    (s.addEvent event).table? = some ⟨t.keys, t.rows ++ event.cells?.toList⟩ := by
  unfold table? at h ⊢
  obtain ⟨keys, hkeys, rfl⟩ := Option.map_eq_some_iff.mp h
  unfold addEvent
  rw [List.findSome?_append, hkeys, List.filterMap_append]
  cases event <;> rfl

/-- An event that opens no table leaves a span without one. -/
theorem table?_addEvent_of_none (h : s.table? = none) (hevent : event.keys? = none) :
    (s.addEvent event).table? = none := by
  unfold table? at h ⊢
  rw [Option.map_eq_none_iff] at h ⊢
  unfold addEvent
  rw [List.findSome?_append, h, List.findSome?_singleton, hevent]
  rfl

/-- Comments and blank lines attach nothing to a step. -/
def Bare (s : Span) : Prop :=
  ∀ event ∈ s.inner, event.remarks = true

namespace Bare

/-- No event of a bare span opens a block of lines. -/
theorem startsMultiline (h : s.Bare) : s.inner.any Event.startsMultiline = false := by
  rw [List.any_eq_false]
  intro event hevent
  have hremark := h event hevent
  cases event <;> first | exact Bool.false_ne_true | cases hremark

/-- No event of a bare span carries a line. -/
theorem data (h : s.Bare) : s.inner.filterMap Event.data? = [] := by
  rw [List.filterMap_eq_nil_iff]
  intro event hevent
  have hremark := h event hevent
  cases event <;> first | rfl | cases hremark

/-- No event of a bare span carries keys. -/
theorem keys (h : s.Bare) : s.inner.findSome? Event.keys? = none := by
  rw [List.findSome?_eq_none_iff]
  intro event hevent
  have hremark := h event hevent
  cases event <;> first | rfl | cases hremark

/-- No event of a bare span carries cells. -/
theorem cells (h : s.Bare) : s.inner.filterMap Event.cells? = [] := by
  rw [List.filterMap_eq_nil_iff]
  intro event hevent
  have hremark := h event hevent
  cases event <;> first | rfl | cases hremark

/-- A bare span has no block of lines. -/
theorem lines?_eq (h : s.Bare) : s.lines? = none := by
  rw [lines?, h.startsMultiline]
  rfl

/-- A bare span has no table. -/
theorem table?_eq (h : s.Bare) : s.table? = none := by
  rw [table?, h.keys]
  rfl

/-- Blank lines, comments and tags leave a span bare. -/
theorem addEvent (h : s.Bare) (hevent : event.remarks = true) : (s.addEvent event).Bare :=
  List.forall_mem_append.mpr ⟨h, List.forall_mem_singleton.mpr hevent⟩

/-- A bare span gets an empty block of lines when one opens. -/
theorem lines?_startMultiline (h : s.Bare) (indent : Nat) :
    (s.addEvent (.startMultiline indent)).lines? = some [] := by
  rw [lines?_addEvent, h.startsMultiline, h.data]
  rfl

/-- A bare span gets a table of the keys alone when one opens. -/
theorem table?_startTable (h : s.Bare) (keys : List String) :
    (s.addEvent (.startTable keys)).table? = some (.ofKeys keys) := by
  unfold table? Span.addEvent
  rw [List.findSome?_append, h.keys, List.filterMap_append, h.cells]
  rfl

end Bare

end Span

end Acceptance
