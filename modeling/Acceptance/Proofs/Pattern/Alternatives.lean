import Acceptance.Pattern.Matcher
import Acceptance.Proofs.Pattern.Machine

/-!
# Searching for alternatives

An expression without repetitions leads on from a position in one way or in several, of which one is preferred
(`Expression.leads`), and its program does the same (`outcome_fragment`). So the matcher of some texts, written as
alternatives, finds the first place where one of them begins, and there the first of them that does
(`find?_anyOf`).
-/

set_option autoImplicit false

namespace Acceptance.Pattern

variable {program : Array Instruction}

/-! ## Stretches of instructions -/

/-- What holds of every instruction of a stretch and its number, when the first one has the given number. -/
def AllFrom (P : Nat → Instruction → Prop) : Nat → List Instruction → Prop
  | _, [] => True
  | at_, instruction :: code => P at_ instruction ∧ AllFrom P (at_ + 1) code

section AllFrom

variable {P : Nat → Instruction → Prop}

/-- A stretch in two parts. -/
theorem allFrom_append {at_ : Nat} {first second : List Instruction} :
    AllFrom P at_ (first ++ second) ↔ AllFrom P at_ first ∧ AllFrom P (at_ + first.length) second := by
  induction first generalizing at_ with
  | nil => simp [AllFrom]
  | cons instruction first ih =>
    rw [List.cons_append, AllFrom, AllFrom, ih, and_assoc, List.length_cons, Nat.add_assoc,
      Nat.add_comm 1]

/-- A stretch, instruction by instruction. -/
theorem allFrom_iff {at_ : Nat} {code : List Instruction} :
    AllFrom P at_ code ↔ ∀ index instruction, code[index]? = some instruction → P (at_ + index) instruction := by
  induction code generalizing at_ with
  | nil => simp [AllFrom]
  | cons first code ih =>
    rw [AllFrom, ih]
    constructor
    · rintro ⟨hfirst, hcode⟩ index instruction hat
      cases index with
      | zero =>
        cases hat
        exact hfirst
      | succ index =>
        have := hcode index instruction (by simpa using hat)
        rwa [Nat.add_right_comm] at this
    · intro h
      refine ⟨h 0 first rfl, fun index instruction hat => ?_⟩
      have := h (index + 1) instruction (by simpa using hat)
      rwa [Nat.add_right_comm]

/-- A program that consists of one stretch. -/
theorem isForward_toArray {code : List Instruction} (h : AllFrom (fun at_ i => i.LeadsBeyond at_) 0 code) :
    IsForward code.toArray := by
  intro at_ instruction hat
  have := allFrom_iff.mp h at_ instruction (by simpa using hat)
  rwa [Nat.zero_add] at this

/-- Whether a program has a stretch of instructions from a number on. -/
def HasCode (program : Array Instruction) : Nat → List Instruction → Prop :=
  AllFrom fun at_ instruction => program[at_]? = some instruction

/-- A program that consists of one stretch has it from the beginning. -/
theorem hasCode_toArray (code : List Instruction) : HasCode code.toArray 0 code := by
  apply allFrom_iff.mpr
  intro index instruction hat
  simpa using hat

end AllFrom

/-! ## What expressions lead to -/

namespace Expression

/-- Whether an expression repeats nothing. -/
def IsPlain : Expression → Prop
  | nothing | one _ | anchor _ => True
  | capture _ body => body.IsPlain
  | sequence first second | choice first second => first.IsPlain ∧ second.IsPlain
  | repeated _ _ _ _ => False

/-- What an expression without repetitions comes to where it is followed by `next`: at each choice the first
alternative is tried first, together with all that follows. -/
def leads : Expression → (Position → Marks → Option Marks) → Position → Marks → Option Marks
  | nothing, next, p, marks => next p marks
  | one set, next, p, marks =>
    match p.text with
    | [] => none
    | c :: rest => if set.contains c then next ⟨some c, p.offset + 1, rest⟩ marks else none
  | anchor a, next, p, marks => if a.holds p.place then next p marks else none
  | capture index body, next, p, marks =>
    body.leads (fun p marks => next p ((2 * index + 1, p.offset) :: marks)) p
      ((2 * index, p.offset) :: marks)
  | sequence first second, next, p, marks => first.leads (second.leads next) p marks
  | choice first second, next, p, marks => (first.leads next p marks).or (second.leads next p marks)
  | repeated _ _ _ _, _, _, _ => none

/-- An expression without repetitions leads forward only. -/
theorem allFrom_fragment {e : Expression} (h : e.IsPlain) (at_ : Nat) :
    AllFrom (fun at_ i => i.LeadsBeyond at_) at_ (e.fragment at_) := by
  induction e generalizing at_ with
  | nothing => trivial
  | one set => exact ⟨Nat.lt_succ_self at_, trivial⟩
  | anchor a => exact ⟨Nat.lt_succ_self at_, trivial⟩
  | capture group body ih =>
    refine ⟨Nat.lt_succ_self at_, allFrom_append.mpr ⟨ih h _, Nat.lt_succ_self _, trivial⟩⟩
  | sequence first second ihfirst ihsecond =>
    exact allFrom_append.mpr ⟨ihfirst h.1 _, ihsecond h.2 _⟩
  | choice first second ihfirst ihsecond =>
    have hfork : at_ < at_ + 1 ∧ at_ < at_ + 2 + (first.fragment (at_ + 1)).length :=
      ⟨Nat.lt_succ_self at_, by omega⟩
    refine ⟨hfork, allFrom_append.mpr ⟨ihfirst h.1 _, ?_, ?_⟩⟩
    · show _ < _
      omega
    · have hother : at_ + 1 + (first.fragment (at_ + 1)).length + 1 =
          at_ + 2 + (first.fragment (at_ + 1)).length := by omega
      rw [hother]
      exact ihsecond h.2 _
  | repeated => exact h.elim

/-- A program without repetitions leads forward only. -/
theorem isForward_program {e : Expression} (h : e.IsPlain) : IsForward e.program :=
  isForward_toArray (allFrom_append.mpr ⟨allFrom_fragment h 0, trivial, trivial⟩)

/-- **A program does what its expression does.** Where the instructions of an expression stand in a program, a
thread that enters them comes to what the expression comes to, followed by the rest of the program. -/
theorem outcome_fragment (hforward : IsForward program) {e : Expression} (h : e.IsPlain) (at_ : Nat)
    (hcode : HasCode program at_ (e.fragment at_)) (p : Position) (marks : Marks) :
    outcome program p ⟨at_, marks⟩ =
      e.leads (fun p marks => outcome program p ⟨at_ + (e.fragment at_).length, marks⟩) p marks := by
  induction e generalizing at_ p marks with
  | nothing => rfl
  | one set =>
    rw [outcome_of_take hforward hcode.1]
    rfl
  | anchor a =>
    rw [outcome_of_check hforward hcode.1]
    rfl
  | capture group body ih =>
    obtain ⟨hopen, hrest⟩ := hcode
    obtain ⟨hbody, hclose, -⟩ := allFrom_append.mp hrest
    have hend : at_ + 1 + (body.fragment (at_ + 1)).length + 1 =
        at_ + ((capture group body).fragment at_).length := by
      simp [fragment]
      omega
    rw [outcome_of_mark hforward hopen, ih h _ hbody, leads]
    congr 1
    funext p marks
    rw [outcome_of_mark hforward hclose, hend]
  | sequence first second ihfirst ihsecond =>
    obtain ⟨hfirst, hsecond⟩ := allFrom_append.mp hcode
    have hend : at_ + (first.fragment at_).length +
          (second.fragment (at_ + (first.fragment at_).length)).length =
        at_ + ((sequence first second).fragment at_).length := by
      simp [fragment, Fragment.followedBy, Nat.add_assoc]
    rw [ihfirst h.1 _ hfirst, leads]
    congr 1
    funext p marks
    rw [ihsecond h.2 _ hsecond, hend]
  | choice first second ihfirst ihsecond =>
    obtain ⟨hfork, hrest⟩ := hcode
    obtain ⟨hfirst, hjump, hsecond⟩ := allFrom_append.mp hrest
    have hother : at_ + 1 + (first.fragment (at_ + 1)).length + 1 =
        at_ + 2 + (first.fragment (at_ + 1)).length := by omega
    rw [hother] at hsecond
    have hend : at_ + 2 + (first.fragment (at_ + 1)).length +
          (second.fragment (at_ + 2 + (first.fragment (at_ + 1)).length)).length =
        at_ + ((choice first second).fragment at_).length := by
      simp [fragment]
      omega
    rw [outcome_of_fork hforward hfork, ihfirst h.1 _ hfirst, ihsecond h.2 _ hsecond, leads, hend]
    congr 2
    funext p marks
    rw [outcome_of_jump hforward hjump, hend]
  | repeated => exact h.elim

/-- What the program of an expression comes to at a position. -/
theorem outcome_program {e : Expression} (h : e.IsPlain) (p : Position) (marks : Marks) :
    outcome e.program p ⟨0, marks⟩ = e.leads (fun _ marks => some marks) p marks := by
  have hcode := hasCode_toArray (e.fragment 0 ++ [.accept])
  obtain ⟨hfragment, haccept, -⟩ := allFrom_append.mp hcode
  rw [outcome_fragment (isForward_program h) h 0 hfragment]
  congr 1
  funext p marks
  exact outcome_of_accept haccept

/-! ## Sequences and choices of several expressions -/

section Joined

variable {combine : Expression → Expression → Expression} {e : Expression} {es : List Expression}

/-- Several expressions are put together from the first one and all others. -/
theorem joined_cons (hes : es ≠ []) : joined combine (e :: es) = combine e (joined combine es) := by
  obtain ⟨last, earlier, hreverse⟩ := List.exists_cons_of_ne_nil (List.reverse_ne_nil_iff.mpr hes)
  rw [joined, joined, List.reverse_cons, hreverse, List.cons_append]
  dsimp only
  rw [List.foldl_append]
  rfl

/-- What keeps expressions plain keeps several of them plain. -/
theorem isPlain_joined (hcombine : ∀ first second, first.IsPlain → second.IsPlain → (combine first second).IsPlain)
    (h : ∀ e ∈ es, e.IsPlain) : (joined combine es).IsPlain := by
  induction es with
  | nil => trivial
  | cons e es ih =>
    obtain ⟨he, hes⟩ := List.forall_mem_cons.mp h
    by_cases hnil : es = []
    · rw [hnil]
      exact he
    · rw [joined_cons hnil]
      exact hcombine _ _ he (ih hes)

/-- Expressions one after the other are followed by one another. -/
theorem leads_sequenceOf (es : List Expression) (next : Position → Marks → Option Marks) :
    (sequenceOf es).leads next = es.foldr leads next := by
  induction es with
  | nil => rfl
  | cons e es ih =>
    by_cases hnil : es = []
    · rw [hnil]
      rfl
    · rw [sequenceOf, joined_cons hnil]
      funext p marks
      rw [leads, ← sequenceOf, ih]
      rfl

/-- Of several alternatives the first one counts that leads anywhere. -/
theorem leads_choiceOf (hes : es ≠ []) (next : Position → Marks → Option Marks) (p : Position)
    (marks : Marks) : (choiceOf es).leads next p marks = es.findSome? fun e => e.leads next p marks := by
  induction es with
  | nil => exact absurd rfl hes
  | cons e es ih =>
    rw [List.findSome?_cons]
    by_cases hnil : es = []
    · rw [hnil]
      cases h : e.leads next p marks <;> simp [choiceOf, joined, h]
    · rw [choiceOf, joined_cons hnil, leads, ← choiceOf, ih hnil]
      cases e.leads next p marks <;> rfl

end Joined

end Expression

/-! ## Texts as expressions -/

/-- The expression that matches the given characters. -/
def ofChars (cs : List Char) : Expression :=
  .sequenceOf (cs.map fun c => .one (.single c))

/-- The expression that matches any of the given texts, the first ones preferred. -/
def anyOf (keys : List (List Char)) : Expression :=
  .choiceOf (keys.map ofChars)

/-- The position behind a number of characters. -/
def Position.skip (p : Position) (length : Nat) : Position :=
  ⟨(p.text.take length).getLast?.or p.before, p.offset + length, p.text.drop length⟩

section Texts

variable {keys : List (List Char)} {next : Position → Marks → Option Marks} {p : Position} {marks : Marks}

/-- A set of one character has that one. -/
theorem contains_single (c d : Char) : (CharSet.single c).contains d = (c == d) := by
  rw [Bool.eq_iff_iff]
  simp only [CharSet.single, CharSet.contains, Bool.and_eq_true, decide_eq_true_eq, beq_iff_eq]
  constructor
  · rintro ⟨hle, hge⟩
    exact Char.le_antisymm hle hge
  · rintro rfl
    exact ⟨Char.le_refl c, Char.le_refl c⟩

/-- Behind one character and then behind others. -/
theorem Position.skip_succ {c : Char} {rest : List Char} (h : p.text = c :: rest) (length : Nat) :
    p.skip (length + 1) = Position.skip ⟨some c, p.offset + 1, rest⟩ length := by
  unfold Position.skip
  rw [h, List.take_succ_cons, List.drop_succ_cons, List.getLast?_cons]
  cases (rest.take length).getLast? <;> simp [Nat.add_assoc, Nat.add_comm 1]

/-- Characters lead behind themselves where they stand next. -/
theorem leads_ofChars (cs : List Char) : (ofChars cs).leads next p marks =
    if cs.isPrefixOf p.text then next (p.skip cs.length) marks else none := by
  rw [ofChars, Expression.leads_sequenceOf]
  induction cs generalizing p with
  | nil => simp [Position.skip]
  | cons c cs ih =>
    rw [List.map_cons, List.foldr_cons, Expression.leads]
    cases htext : p.text with
    | nil => rfl
    | cons d rest =>
      dsimp only
      rw [contains_single, List.isPrefixOf_cons_cons, ih, List.length_cons, Position.skip_succ htext]
      cases hsame : c == d with
      | false => simp
      | true => rw [if_pos rfl, Bool.true_and]

/-- Of several texts the first one counts that stands next and leads anywhere. -/
theorem leads_anyOf (hkeys : keys ≠ []) : (anyOf keys).leads next p marks =
    keys.findSome? fun key => if key.isPrefixOf p.text then next (p.skip key.length) marks else none := by
  rw [anyOf, Expression.leads_choiceOf (by simpa using hkeys), List.findSome?_map]
  congr 1
  funext key
  exact leads_ofChars key

/-- Texts repeat nothing. -/
theorem isPlain_anyOf : (anyOf keys).IsPlain := by
  apply Expression.isPlain_joined fun _ _ => And.intro
  intro e he
  obtain ⟨key, -, rfl⟩ := List.mem_map.mp he
  apply Expression.isPlain_joined fun _ _ => And.intro
  intro e he
  obtain ⟨c, -, rfl⟩ := List.mem_map.mp he
  trivial

end Texts

/-! ## Finding texts -/

/-- The first of the keys that begins a text, at the first place where one of them does, with the number of
characters before it. -/
def firstKey (keys : List (List Char)) : List Char → Option (Nat × List Char)
  | [] => (keys.find? (·.isPrefixOf [])).map fun key => (0, key)
  | c :: rest =>
    ((keys.find? (·.isPrefixOf (c :: rest))).map fun key => (0, key)).or
      ((firstKey keys rest).map fun (earlier, key) => (earlier + 1, key))

section Finding

variable {keys : List (List Char)}

/-- Where a key begins a text, nothing stands before it. -/
theorem firstKey_of_find? {text key : List Char} (h : keys.find? (·.isPrefixOf text) = some key) :
    firstKey keys text = some (0, key) := by
  cases text <;> simp [firstKey, h]

/-- Where no key begins a text, its first character stands before the key. -/
theorem firstKey_cons {c : Char} {rest : List Char} (h : keys.find? (·.isPrefixOf (c :: rest)) = none) :
    firstKey keys (c :: rest) = (firstKey keys rest).map fun (earlier, key) => (earlier + 1, key) := by
  rw [firstKey, h, Option.map_none, Option.none_or]

/-- What a thread comes to in the program of a matcher: the bounds of the first key that stands next. -/
theorem outcome_anyOf (hkeys : keys ≠ []) (p : Position) :
    outcome (Matcher.ofExpression (anyOf keys)).program p ⟨0, []⟩ =
      (keys.find? (·.isPrefixOf p.text)).map fun key => [(1, p.offset + key.length), (0, p.offset)] := by
  have hplain : (Expression.capture 0 (anyOf keys)).IsPlain := isPlain_anyOf
  rw [Matcher.ofExpression, Expression.outcome_program hplain, Expression.leads, leads_anyOf hkeys]
  clear hkeys hplain
  induction keys with
  | nil => rfl
  | cons key keys ih =>
    rw [List.findSome?_cons, List.find?_cons, ih]
    cases hbegins : key.isPrefixOf p.text <;> simp [Position.skip]

/-- The marks that a search comes to are the bounds of the first key. -/
theorem firstFrom_anyOf (hkeys : keys ≠ []) (before : Option Char) (offset : Nat) (text : List Char) :
    firstFrom (Matcher.ofExpression (anyOf keys)).program before offset text =
      (firstKey keys text).map fun (earlier, key) =>
        [(1, offset + earlier + key.length), (0, offset + earlier)] := by
  induction text generalizing before offset with
  | nil =>
    rw [firstFrom, outcome_anyOf hkeys, firstKey, Option.map_map]
    rfl
  | cons c rest ih =>
    rw [firstFrom, outcome_anyOf hkeys, ih, firstKey, Option.map_or, Option.map_map, Option.map_map]
    congr 2
    funext found
    simp [Nat.add_assoc, Nat.add_comm 1]

/-- **The matcher of some keys** finds the first place where one of them begins, and there the first of them
that does. -/
theorem find?_anyOf (hkeys : keys ≠ []) (before : Option Char) (text : List Char) :
    (Matcher.ofExpression (anyOf keys)).find? before text =
      (firstKey keys text).map fun (earlier, key) => (earlier, earlier + key.length) := by
  have hforward : IsForward (Matcher.ofExpression (anyOf keys)).program :=
    Expression.isForward_program (e := .capture 0 (anyOf keys)) isPlain_anyOf
  rw [Matcher.find?, run_eq hforward, best_nil, Option.none_or, Option.none_or, firstFrom_anyOf hkeys]
  cases firstKey keys text with
  | none => rfl
  | some found => simp [List.lookup_cons]

end Finding

/-! ## Replacing texts -/

section Replacing

variable {keys : List (List Char)} {replacement : String → String} {fuel : Nat} {before : Option Char}
  {behind : Bool}

/-- Where nothing is found, the text stays. -/
theorem replaceFrom_of_none {m : Matcher} {text : List Char} (h : m.find? before text = none) :
    m.replaceFrom replacement (fuel + 1) before behind text = text := by
  rw [Matcher.replaceFrom.eq_def]
  dsimp only
  rw [h]

/-- What is found is replaced, unless it is the empty text where a match has ended. -/
theorem replaceFrom_of_some {m : Matcher} {text : List Char} {first last : Nat}
    (h : m.find? before text = some (first, last)) (hbehind : (behind && last == 0) = false) :
    m.replaceFrom replacement (fuel + 1) before behind text =
      text.take first ++ (replacement (String.ofList ((text.take last).drop first))).toList ++
        m.replaceFrom replacement fuel ((text.take last).getLast?.or before) true (text.drop last) := by
  rw [Matcher.replaceFrom.eq_def]
  dsimp only
  rw [h]
  dsimp only
  rw [hbehind]
  rfl

/-- Where no key begins a text, its first character is copied. -/
theorem replaceFrom_cons (hkeys : keys ≠ []) {c : Char} {rest : List Char}
    (h : keys.find? (·.isPrefixOf (c :: rest)) = none) :
    (Matcher.ofExpression (anyOf keys)).replaceFrom replacement (fuel + 1) before behind (c :: rest) =
      c :: (Matcher.ofExpression (anyOf keys)).replaceFrom replacement (fuel + 1) (some c) false rest := by
  have hhere := find?_anyOf hkeys before (c :: rest)
  have hnext := find?_anyOf hkeys (some c) rest
  rw [firstKey_cons h, Option.map_map] at hhere
  cases hfound : firstKey keys rest with
  | none =>
    rw [hfound] at hhere hnext
    rw [replaceFrom_of_none hhere, replaceFrom_of_none hnext]
  | some found =>
    obtain ⟨earlier, key⟩ := found
    rw [hfound] at hhere hnext
    -- both searches find the same, one of them from a place one character further back
    have hback : (Matcher.ofExpression (anyOf keys)).find? before (c :: rest) =
        some (earlier + 1, earlier + key.length + 1) := by
      simpa [Nat.add_right_comm] using hhere
    rw [replaceFrom_of_some hback (by simp), replaceFrom_of_some hnext (by simp)]
    rw [List.take_succ_cons, List.take_succ_cons, List.drop_succ_cons, List.drop_succ_cons,
      List.getLast?_cons]
    cases (rest.take (earlier + key.length)).getLast? <;> rfl

/-- Where a key begins a text, its replacement is put in and the search goes on behind the key. -/
theorem replaceFrom_key {key rest : List Char} (hkey : key ≠ [])
    (h : keys.find? (·.isPrefixOf (key ++ rest)) = some key) :
    (Matcher.ofExpression (anyOf keys)).replaceFrom replacement (fuel + 1) before behind (key ++ rest) =
      (replacement (String.ofList key)).toList ++
        (Matcher.ofExpression (anyOf keys)).replaceFrom replacement fuel (key.getLast?.or before) true
          rest := by
  have hkeys : keys ≠ [] := by
    rintro rfl
    cases h
  have hfound := find?_anyOf hkeys before (key ++ rest)
  rw [firstKey_of_find? h] at hfound
  rw [replaceFrom_of_some hfound (by simp [hkey])]
  simp

end Replacing

end Acceptance.Pattern
