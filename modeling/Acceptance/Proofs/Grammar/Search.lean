import Mathlib.Data.List.Basic
import Mathlib.Logic.Function.Iterate
import Acceptance.Grammar.Declaration

/-!
# The search for states

The search from the first state takes turns (`TransitionTable.turn`). A turn takes one state from those that wait, so
after as many turns as there are states none is left, whatever cycles there are
(`TransitionTable.turn_iterate_unreachableStates`). Every turn preserves that what has been seen can be reached, and
that the rows of what has had its turn lead to what has been seen (`TransitionTable.Searched`). So where nothing waits
any more, the states that have not been seen are those to which no path of rows leads
(`TransitionTable.mem_unreachableStates_iff`).
-/

set_option autoImplicit false

namespace Acceptance.Grammar

/-- The list of states is complete. -/
theorem State.mem_all (s : State) : s ∈ all := by
  cases s <;> decide

/-- The list of states names each of them once. -/
theorem State.nodup_all : all.Nodup := by
  decide

namespace TransitionTable

variable {t : TransitionTable} {s target : State}

/-- A path of rows from a state to a state. -/
inductive Path (t : TransitionTable) (source : State) : List Transition → State → Prop where
  | nil : Path t source [] source
  | concat {rows : List Transition} {s : State} {row : Transition} : Path t source rows s → row ∈ t.rows s →
      Path t source (rows ++ [row]) row.next

/-- Whether a row of a state leads to a state. -/
def leads (t : TransitionTable) (s target : State) : Bool :=
  (t.rows s).any fun row => row.next == target

/-- A state leads to another by one of its rows. -/
theorem leads_iff : t.leads s target = true ↔ ∃ row ∈ t.rows s, row.next = target := by
  simp [leads]

/-! ## Turns -/

/-- One turn of the search, from the states that wait and the states that have not been seen: the first state that
waits is taken, and what its rows lead to for the first time has been seen, and waits behind the others. -/
def turn (t : TransitionTable) : List State × List State → List State × List State
  | ([], unseen) => ([], unseen)
  | (s :: pending, unseen) => (pending ++ unseen.filter (t.leads s), unseen.filter fun target => !t.leads s target)

/-- The search goes on from where a turn has led. -/
theorem remaining_cons (t : TransitionTable) (s : State) (pending unseen : List State) :
    t.remaining (s :: pending) unseen =
      t.remaining (t.turn (s :: pending, unseen)).1 (t.turn (s :: pending, unseen)).2 := by
  rw [remaining]
  rfl

/-- A turn leaves one state less, of those that wait and those that have not been seen. -/
theorem length_turn (t : TransitionTable) (s : State) (pending unseen : List State) :
    (t.turn (s :: pending, unseen)).1.length + (t.turn (s :: pending, unseen)).2.length =
      pending.length + unseen.length := by
  have hsplit := length_filter_add_length_filter_not (t.leads s) unseen
  simp only [turn, List.length_append]
  omega

/-- **The search ends**, by induction on the number of turns: every state takes one turn at most. -/
theorem turn_iterate (t : TransitionTable) {turns : Nat} {pending unseen : List State}
    (h : pending.length + unseen.length ≤ turns) :
    t.turn^[turns] (pending, unseen) = ([], t.remaining pending unseen) := by
  induction turns generalizing pending unseen with
  | zero =>
    have hpending : pending = [] := List.eq_nil_of_length_eq_zero (by omega)
    rw [hpending, remaining]
    rfl
  | succ turns ih =>
    cases pending with
    | nil =>
      rw [remaining]
      exact Function.iterate_fixed rfl _
    | cons s pending =>
      rw [Function.iterate_succ_apply, remaining_cons]
      rw [List.length_cons] at h
      exact ih (Nat.le_trans (Nat.le_of_eq (t.length_turn s pending unseen)) (by omega))

/-- After as many turns as there are states, nothing waits any more. -/
theorem turn_iterate_unreachableStates (t : TransitionTable) :
    t.turn^[State.all.length] ([.start], State.all.filter (· != .start)) = ([], t.unreachableStates) :=
  t.turn_iterate (by decide)

/-! ## What has been seen -/

/-- What holds between two turns, of the states that wait and the states that have not been seen. -/
structure Searched (t : TransitionTable) (search : List State × List State) : Prop where
  order : search.2.Sublist State.all
  start : .start ∉ search.2
  /-- What waits has been seen. -/
  waiting : ∀ s ∈ search.1, s ∉ search.2
  /-- What has been seen can be reached. -/
  sound : ∀ s, s ∉ search.2 → ∃ rows, t.Path .start rows s
  /-- What has been seen and does not wait leads to what has been seen. -/
  closed : ∀ s, s ∉ search.2 → s ∉ search.1 → ∀ row ∈ t.rows s, row.next ∉ search.2

/-- At the beginning of the search nothing is found but the first state. -/
theorem searched_start (t : TransitionTable) : t.Searched ([.start], State.all.filter (· != .start)) := by
  have hseen {s : State} (hs : s ∉ State.all.filter (· != .start)) : s = .start := by
    simpa [State.mem_all s] using hs
  have hstart : State.start ∉ State.all.filter (· != .start) := by decide
  exact {
    order := List.filter_sublist
    start := hstart
    waiting := fun s hs => List.mem_singleton.mp hs ▸ hstart
    sound := fun s hs => ⟨[], hseen hs ▸ .nil⟩
    closed := fun s hs hwaits => absurd (List.mem_singleton.mpr (hseen hs)) hwaits }

/-- **A turn preserves** what holds of the search. -/
theorem Searched.turn {search : List State × List State} (h : t.Searched search) : t.Searched (t.turn search) := by
  obtain ⟨pending, unseen⟩ := search
  cases pending with
  | nil => exact h
  | cons s pending =>
    obtain ⟨rows, hrows⟩ := h.sound s (h.waiting s List.mem_cons_self)
    have hleft {target : State} : target ∈ unseen.filter (fun target => !t.leads s target) ↔
        target ∈ unseen ∧ t.leads s target = false := by
      simp
    exact {
      order := List.filter_sublist.trans h.order
      start := fun hmem => h.start (hleft.mp hmem).1
      waiting := fun target htarget hmem => by
        obtain ⟨hunseen, hleads⟩ := hleft.mp hmem
        rcases List.mem_append.mp htarget with htarget | htarget
        · exact h.waiting target (List.mem_cons_of_mem s htarget) hunseen
        · rw [(List.mem_filter.mp htarget).2] at hleads
          cases hleads
      sound := fun target hseen => by
        by_cases hunseen : target ∈ unseen
        · -- it has been seen in this turn, behind the state that was taken
          have hleads : t.leads s target = true := by
            simpa [hunseen] using mt hleft.mpr hseen
          obtain ⟨row, hrow, rfl⟩ := leads_iff.mp hleads
          exact ⟨rows ++ [row], hrows.concat hrow⟩
        · exact h.sound target hunseen
      closed := fun source hseen hwaits row hrow hmem => by
        obtain ⟨hunseen, hleads⟩ := hleft.mp hmem
        have hbefore : source ∉ unseen := fun hsource => hwaits <| by
          refine List.mem_append_right pending (List.mem_filter.mpr ⟨hsource, ?_⟩)
          simpa [hsource] using mt hleft.mpr hseen
        by_cases hsource : source = s
        · rw [leads_iff.mpr ⟨row, hsource ▸ hrow, rfl⟩] at hleads
          cases hleads
        · refine h.closed source hbefore (fun htaken => ?_) row hrow hunseen
          rcases List.mem_cons.mp htaken with htaken | htaken
          · exact hsource htaken
          · exact hwaits (List.mem_append_left _ htaken) }

/-- **Any turns preserve** what holds of the search. -/
theorem Searched.iterate {search : List State × List State} (h : t.Searched search) (turns : Nat) :
    t.Searched (t.turn^[turns] search) := by
  induction turns generalizing search with
  | zero => exact h
  | succ turns ih =>
    rw [Function.iterate_succ_apply]
    exact ih h.turn

/-- The states that the search leaves are those that cannot be reached. -/
theorem searched_unreachableStates (t : TransitionTable) : t.Searched ([], t.unreachableStates) := by
  rw [← turn_iterate_unreachableStates]
  exact t.searched_start.iterate _

/-- What a path leads to has been seen when the search has ended. -/
theorem Path.notMem_unreachableStates {rows : List Transition} (h : t.Path .start rows s) :
    s ∉ t.unreachableStates := by
  have hsearched := t.searched_unreachableStates
  induction h with
  | nil => exact hsearched.start
  | concat _ hrow ih => exact hsearched.closed _ ih List.not_mem_nil _ hrow

/-- **The states that the search leaves** are those to which no path of rows leads. -/
theorem mem_unreachableStates_iff : s ∈ t.unreachableStates ↔ ¬ ∃ rows, t.Path .start rows s := by
  constructor
  · rintro hs ⟨rows, hrows⟩
    exact hrows.notMem_unreachableStates hs
  · intro hs
    by_contra hseen
    exact hs (t.searched_unreachableStates.sound s hseen)

end TransitionTable

end Acceptance.Grammar
