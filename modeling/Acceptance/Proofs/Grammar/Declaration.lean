import Mathlib.Data.List.Nodup
import Mathlib.Data.List.Perm.Basic
import Acceptance.Proofs.Grammar.Search

/-!
# Declarations and their tables

A declaration compiles just where no state is declared twice and every state but the last is declared. Otherwise the
fault names the first entry that repeats an earlier one, and where there is none, the first state that is missing
(`TransitionTable.compile_cases`). The table of a declaration gives back its rows, lists each of them once, tells the
pairs of states that they connect from all other pairs, and names the states to which no path of them leads
(`TransitionTable.Describes`).
-/

set_option autoImplicit false

namespace Acceptance.Grammar

/-! ## Faults of declarations -/

/-- The state of the first entry that repeats an earlier one. -/
def RepeatsFirst (declared : List StateRows) (s : State) : Prop :=
  ∃ before entry after, declared = before ++ entry :: after ∧ entry.state = s ∧
    (before.map (·.state)).Nodup ∧ s ∈ before.map (·.state)

/-- The first state, in the order of a document, that is not the last one and has no entry. -/
def LacksFirst (declared : List StateRows) (s : State) : Prop :=
  ∃ before after, State.all = before ++ s :: after ∧ s ≠ .ended ∧ s ∉ declared.map (·.state) ∧
    ∀ other ∈ before, other ≠ .ended → other ∈ declared.map (·.state)

variable {declared : List StateRows} {seen : List State} {s : State}

/-- **The first repetition**, by induction on the entries: those before it repeat neither each other nor what has been
seen before them. -/
theorem firstRepeat_eq_some_iff (hseen : seen.Nodup) : firstRepeat seen declared = some s ↔
    ∃ before entry after, declared = before ++ entry :: after ∧ entry.state = s ∧
      (seen ++ before.map (·.state)).Nodup ∧ s ∈ seen ++ before.map (·.state) := by
  induction declared generalizing seen with
  | nil => simp [firstRepeat]
  | cons first rest ih =>
    unfold firstRepeat
    by_cases hfirst : first.state ∈ seen
    · rw [if_pos (by simpa using hfirst), Option.some.injEq]
      constructor
      · rintro rfl
        exact ⟨[], first, rest, rfl, rfl, by simpa using hseen, by simpa using hfirst⟩
      · rintro ⟨before, entry, after, hsplit, rfl, hnodup, -⟩
        cases before with
        | nil => rw [(List.cons.inj hsplit).1]
        | cons other before =>
          -- no entry stands behind one that has been seen
          rw [← (List.cons.inj hsplit).1, List.map_cons] at hnodup
          exact absurd rfl ((List.nodup_append.mp hnodup).2.2 _ hfirst _ List.mem_cons_self)
    · have hmore : (first.state :: seen).Nodup := List.nodup_cons.mpr ⟨hfirst, hseen⟩
      have hmoved (before : List StateRows) : (first.state :: seen ++ before.map (·.state)).Perm
          (seen ++ (first :: before).map (·.state)) := List.perm_middle.symm
      rw [if_neg (by simpa using hfirst), ih hmore]
      constructor
      · rintro ⟨before, entry, after, rfl, hentry, hnodup, hmem⟩
        exact ⟨first :: before, entry, after, rfl, hentry, (hmoved before).nodup_iff.mp hnodup,
          (hmoved before).mem_iff.mp hmem⟩
      · rintro ⟨before, entry, after, hsplit, hentry, hnodup, hmem⟩
        cases before with
        | nil =>
          rw [← hentry, ← (List.cons.inj hsplit).1, List.map_nil, List.append_nil] at hmem
          exact absurd hmem hfirst
        | cons other before =>
          obtain ⟨rfl, hrest⟩ := List.cons.inj hsplit
          exact ⟨before, entry, after, hrest, hentry, (hmoved before).nodup_iff.mpr hnodup,
            (hmoved before).mem_iff.mpr hmem⟩

/-- No state is found twice just where the states seen and declared are different ones. -/
theorem firstRepeat_eq_none_iff (hseen : seen.Nodup) :
    firstRepeat seen declared = none ↔ (seen ++ declared.map (·.state)).Nodup := by
  induction declared generalizing seen with
  | nil => simpa [firstRepeat] using hseen
  | cons first rest ih =>
    unfold firstRepeat
    by_cases hfirst : first.state ∈ seen
    · rw [if_pos (by simpa using hfirst)]
      refine iff_of_false nofun fun hnodup => ?_
      exact absurd rfl ((List.nodup_append.mp hnodup).2.2 _ hfirst _ List.mem_cons_self)
    · rw [if_neg (by simpa using hfirst), ih (List.nodup_cons.mpr ⟨hfirst, hseen⟩), List.map_cons,
        List.perm_middle.nodup_iff, List.cons_append]

/-- The declared states are different ones just where none is found twice. -/
theorem nodup_iff_firstRepeat : (declared.map (·.state)).Nodup ↔ firstRepeat [] declared = none :=
  (firstRepeat_eq_none_iff List.nodup_nil).symm

/-- The state that is found twice is the first one that is declared again. -/
theorem repeatsFirst_iff : RepeatsFirst declared s ↔ firstRepeat [] declared = some s := by
  rw [firstRepeat_eq_some_iff List.nodup_nil]
  rfl

/-- Some state is declared twice just where an entry is the first that repeats an earlier one. -/
theorem exists_repeatsFirst_iff : (∃ s, RepeatsFirst declared s) ↔ ¬ (declared.map (·.state)).Nodup := by
  rw [nodup_iff_firstRepeat, ← ne_eq, Option.ne_none_iff_exists']
  exact exists_congr fun s => repeatsFirst_iff

/-- Whether a state other than the last one has no entry. -/
def lacks (declared : List StateRows) (s : State) : Bool :=
  s != .ended && !declared.any (fun e => e.state == s)

/-- A state is lacking if it is declared nowhere, and is not the one behind the document. -/
theorem lacks_iff : lacks declared s = true ↔ s ≠ .ended ∧ s ∉ declared.map (·.state) := by
  simp [lacks]

/-- The state that is found lacking is the first one of all that is. -/
theorem lacksFirst_iff : LacksFirst declared s ↔ State.all.find? (lacks declared) = some s := by
  have hothers (before : List State) : (∀ other ∈ before, !lacks declared other) ↔
      ∀ other ∈ before, other ≠ .ended → other ∈ declared.map (·.state) := by
    simp only [Bool.not_eq_true', ← Bool.not_eq_true, lacks_iff, not_and, not_not]
  rw [List.find?_eq_some_iff_append, lacks_iff]
  constructor
  · rintro ⟨before, after, hsplit, hended, hmissing, hbefore⟩
    exact ⟨⟨hended, hmissing⟩, before, after, hsplit, (hothers before).mpr hbefore⟩
  · rintro ⟨⟨hended, hmissing⟩, before, after, hsplit, hbefore⟩
    exact ⟨before, after, hsplit, hended, hmissing, (hothers before).mp hbefore⟩

/-- Some state is missing just where one is the first that is. -/
theorem exists_lacksFirst_iff :
    (∃ s, LacksFirst declared s) ↔ ∃ s, s ≠ .ended ∧ s ∉ declared.map (·.state) := by
  calc (∃ s, LacksFirst declared s) ↔ ∃ s, State.all.find? (lacks declared) = some s :=
        exists_congr fun _ => lacksFirst_iff
    _ ↔ ∃ s ∈ State.all, lacks declared s = true := by
        rw [← Option.isSome_iff_exists, List.find?_isSome]
    _ ↔ ∃ s, s ≠ .ended ∧ s ∉ declared.map (·.state) :=
        exists_congr fun s => (and_iff_right s.mem_all).trans lacks_iff

namespace TransitionTable

variable {t : TransitionTable} {source target : State}

/-! ## Compilation -/

/-- A declaration is checked for states declared twice, and then for states that are lacking. -/
theorem compile_eq (declared : List StateRows) : compile declared =
    match firstRepeat [] declared with
    | some s => .error (.duplicateState s)
    | none =>
      match State.all.find? (lacks declared) with
      | some s => .error (.missingState s)
      | none => .ok ⟨declared⟩ := rfl

/-- A state is reported as declared twice just where it is the first one. -/
theorem compile_eq_duplicateState_iff :
    compile declared = .error (.duplicateState s) ↔ RepeatsFirst declared s := by
  rw [repeatsFirst_iff, compile_eq]
  cases firstRepeat [] declared with
  | some other => simp
  | none => cases State.all.find? (lacks declared) <;> simp

/-- A state is reported as missing just where none is declared twice, and it is the first one that is
lacking. -/
theorem compile_eq_missingState_iff : compile declared = .error (.missingState s) ↔
    (declared.map (·.state)).Nodup ∧ LacksFirst declared s := by
  rw [nodup_iff_firstRepeat, lacksFirst_iff, compile_eq]
  cases firstRepeat [] declared with
  | some other => simp
  | none => cases State.all.find? (lacks declared) <;> simp

/-- **A declaration compiles** where every state is declared once, but for the last one, which need not be. -/
theorem compile_of_nodup (hnodup : (declared.map (·.state)).Nodup)
    (hall : ∀ s, s ≠ .ended → s ∈ declared.map (·.state)) : compile declared = .ok ⟨declared⟩ := by
  have hrepeat : firstRepeat [] declared = none := nodup_iff_firstRepeat.mp hnodup
  have hlacks : State.all.find? (lacks declared) = none :=
    List.find?_eq_none.mpr fun s _ hs => (lacks_iff.mp hs).2 (hall s (lacks_iff.mp hs).1)
  rw [compile_eq, hrepeat, hlacks]

/-! ## Rows and events -/

/-- Where states are declared once, a state has the rows that are declared for it. -/
theorem rows_of_mem (hnodup : (declared.map (·.state)).Nodup) {entry : StateRows} (hentry : entry ∈ declared) :
    (⟨declared⟩ : TransitionTable).rows entry.state = entry.rows := by
  unfold rows
  cases hfind : declared.find? (fun e => e.state == entry.state) with
  | none => exact absurd (beq_self_eq_true entry.state) (List.find?_eq_none.mp hfind entry hentry)
  | some other =>
    have hstate : other.state = entry.state := by simpa using List.find?_some hfind
    rw [List.inj_on_of_nodup_map hnodup (List.mem_of_find?_eq_some hfind) hentry hstate]

/-- A state that is not declared has no rows. -/
theorem rows_of_notMem (h : s ∉ declared.map (·.state)) : (⟨declared⟩ : TransitionTable).rows s = [] := by
  have hnone : declared.find? (fun e => e.state == s) = none :=
    List.find?_eq_none.mpr fun entry hentry hstate =>
      h (List.mem_map.mpr ⟨entry, hentry, by simpa using hstate⟩)
  rw [rows, hnone]

/-- Every row that is declared is an event of the table. -/
theorem length_declaredEvents (t : TransitionTable) :
    t.declaredEvents.length = (t.declared.flatMap (·.rows)).length := by
  simp [declaredEvents, List.length_flatMap]

/-- A row stands behind the rows of the entries before its own, and behind those of its own entry before it. -/
theorem getElem?_declaredEvents {before after : List StateRows} {entry : StateRows} {first second : List Transition}
    {row : Transition} (hdeclared : t.declared = before ++ entry :: after)
    (hrows : entry.rows = first ++ row :: second) :
    t.declaredEvents[(before.flatMap (·.rows)).length + first.length]? = some (entry.state, row.matcher) := by
  let earlier : List (State × Matcher) :=
    (before.flatMap fun e => e.rows.map fun row => (e.state, row.matcher)) ++
      first.map fun row => (entry.state, row.matcher)
  have hsplit : ∃ later, t.declaredEvents = earlier ++ (entry.state, row.matcher) :: later := by
    simp [declaredEvents, earlier, hdeclared, hrows]
  have hlength : earlier.length = (before.flatMap (·.rows)).length + first.length := by
    simp [earlier, List.length_flatMap]
  obtain ⟨later, hsplit⟩ := hsplit
  rw [hsplit, ← hlength, List.getElem?_append_right (Nat.le_refl _), Nat.sub_self]
  rfl

/-! ## Transitions -/

/-- The transitions of a table are those of its rows. -/
theorem mem_reachableTransitions_iff : (source, target) ∈ t.reachableTransitions ↔
    ∃ entry ∈ t.declared, entry.state = source ∧ ∃ row ∈ entry.rows, row.next = target := by
  simp [reachableTransitions, possibleTransitions, connects, State.mem_all]

/-- The possible transitions are all pairs of states. -/
theorem possibleTransitions_eq : possibleTransitions = State.all ×ˢ State.all := rfl

/-- **Every pair of states** is either connected or not, and listed once. -/
theorem count_transitions (t : TransitionTable) (pair : State × State) :
    (t.reachableTransitions ++ t.unreachableTransitions).count pair = 1 := by
  have hperm : (t.reachableTransitions ++ t.unreachableTransitions).Perm possibleTransitions :=
    List.filter_append_perm (fun pair : State × State => t.connects pair.1 pair.2) possibleTransitions
  have hmem : pair ∈ State.all ×ˢ State.all :=
    List.pair_mem_product.mpr ⟨pair.1.mem_all, pair.2.mem_all⟩
  rw [hperm.count_eq, possibleTransitions_eq,
    List.count_eq_one_of_mem (State.nodup_all.product State.nodup_all) hmem]

/-! ## Tables -/

/-- What the table of a declaration says about it. -/
structure Describes (t : TransitionTable) (declared : List StateRows) : Prop where
  rows : ∀ entry ∈ declared, t.rows entry.state = entry.rows
  /-- Only the last state can be undeclared, and has no rows then. -/
  undeclared : ∀ s, s ∉ declared.map (·.state) → s = .ended ∧ t.rows s = []
  /-- Every row is listed once, in the order of the declaration. -/
  length_events : t.declaredEvents.length = (declared.flatMap (·.rows)).length
  events : ∀ before entry after first row second, declared = before ++ entry :: after →
    entry.rows = first ++ row :: second →
    t.declaredEvents[(before.flatMap (·.rows)).length + first.length]? = some (entry.state, row.matcher)
  connected : ∀ source target, (source, target) ∈ t.reachableTransitions ↔
    ∃ entry ∈ declared, entry.state = source ∧ ∃ row ∈ entry.rows, row.next = target
  /-- Every pair of states is in one of the two lists, and there once. -/
  pairs : ∀ pair, (t.reachableTransitions ++ t.unreachableTransitions).count pair = 1
  /-- The unreachable states are listed in the order of a document and without repetition. -/
  order : t.unreachableStates.Sublist State.all ∧ t.unreachableStates.Nodup
  unreachable : ∀ s, s ∈ t.unreachableStates ↔ ¬ ∃ rows, t.Path .start rows s
  start : .start ∉ t.unreachableStates
  /-- The search for them ends after as many turns as there are states. -/
  search : t.turn^[State.all.length] ([.start], State.all.filter (· != .start)) = ([], t.unreachableStates)

/-- A table of all states, each declared once, is what the declaration describes. -/
theorem describes_of_nodup (hnodup : (declared.map (·.state)).Nodup)
    (hall : ∀ s, s ≠ .ended → s ∈ declared.map (·.state)) :
    (⟨declared⟩ : TransitionTable).Describes declared where
  rows _ hentry := rows_of_mem hnodup hentry
  undeclared s hs := ⟨not_not.mp (mt (hall s) hs), rows_of_notMem hs⟩
  length_events := length_declaredEvents _
  events _ _ _ _ _ _ hdeclared hrows := getElem?_declaredEvents hdeclared hrows
  connected _ _ := mem_reachableTransitions_iff
  pairs := count_transitions _
  order :=
    have horder := (searched_unreachableStates _).order
    ⟨horder, State.nodup_all.sublist horder⟩
  unreachable _ := mem_unreachableStates_iff
  start := (searched_unreachableStates _).start
  search := turn_iterate_unreachableStates _

/-- **What becomes of a declaration**: a repeated state is reported before a missing one, the first entry that
repeats an earlier one before any other, and the first missing state in the order of a document. Where no state is
repeated and none but the last is missing, there is a table, which says of the declaration what it should. -/
theorem compile_cases (declared : List StateRows) :
    (∀ s, compile declared = .error (.duplicateState s) ↔ RepeatsFirst declared s) ∧
      ((∃ s, RepeatsFirst declared s) ↔ ¬ (declared.map (·.state)).Nodup) ∧
      (∀ s, compile declared = .error (.missingState s) ↔
        (declared.map (·.state)).Nodup ∧ LacksFirst declared s) ∧
      ((∃ s, LacksFirst declared s) ↔ ∃ s, s ≠ .ended ∧ s ∉ declared.map (·.state)) ∧
      ((declared.map (·.state)).Nodup → (∀ s, s ≠ .ended → s ∈ declared.map (·.state)) →
        ∃ t, compile declared = .ok t ∧ t.Describes declared) :=
  ⟨fun _ => compile_eq_duplicateState_iff, exists_repeatsFirst_iff, fun _ => compile_eq_missingState_iff,
    exists_lacksFirst_iff, fun hnodup hall => ⟨_, compile_of_nodup hnodup hall, describes_of_nodup hnodup hall⟩⟩

/-- A declaration with a cycle that the first state leads into, and with cycles to which no path leads. -/
theorem compile_cases_cycles :
    let next (s : State) : State := if s = .start then .feature else if s = .feature then .start else s
    let declared : List StateRows := State.all.map fun s => ⟨s, [⟨.text, [.data], next s⟩, ⟨.comment, [], s⟩]⟩
    (declared.map (·.state)).Nodup ∧ (∀ s, s ≠ .ended → s ∈ declared.map (·.state)) ∧
      ∃ t, compile declared = .ok t ∧ t.Describes declared ∧
        t.unreachableStates = State.all.filter fun s => s != .start && s != .feature := by
  intro next declared
  have hnodup : (declared.map (·.state)).Nodup := by decide
  have hall : ∀ s, s ≠ .ended → s ∈ declared.map (·.state) := by
    intro s _
    cases s <;> decide
  obtain ⟨t, ht, hdescribes⟩ := (compile_cases declared).2.2.2.2 hnodup hall
  have hsame : compile declared = .ok ⟨declared⟩ := by decide +kernel
  obtain rfl := Except.ok.inj (hsame.symm.trans ht)
  have hsearch := hdescribes.search
  have hturns : (turn ⟨declared⟩)^[State.all.length] ([.start], State.all.filter (· != .start)) =
      ([], State.all.filter fun s => s != .start && s != .feature) := by decide +kernel
  rw [hturns] at hsearch
  exact ⟨hnodup, hall, _, ht, hdescribes, (congrArg Prod.snd hsearch).symm⟩

end TransitionTable

end Acceptance.Grammar
