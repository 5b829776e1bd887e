import Acceptance.Placeholder
import Acceptance.Proofs.Pattern.Alternatives

/-!
# Keys as a regular expression

The keys of a substitution are searched as one regular expression: each of them with its characters escaped, and
a bar between them. Read again, that is the expression of the keys as they are, whatever characters they have
(`readExpression_alternation`).
-/

set_option autoImplicit false

namespace Acceptance.Pattern

/-! ## Characters -/

section Characters

variable {c : Char} {rest : List Char}

/-- A character with a meaning of its own stands for itself behind a backslash. -/
theorem readEscape_of_meta (h : c ∈ metaCharacters) :
    readEscape {} (c :: rest) = some (.literal c, rest) := by
  simp only [metaCharacters, List.mem_cons, List.not_mem_nil, or_false] at h
  rcases h with rfl | rfl | rfl | rfl | rfl | rfl | rfl | rfl | rfl | rfl | rfl | rfl | rfl | rfl | rfl | rfl |
    rfl | rfl <;> rfl

/-- Any other character stands for itself. -/
theorem step_of_not_meta (h : c ∉ metaCharacters) (r : Reading) :
    r.step (c :: rest) = some (r.addItem (.literal c), rest) := by
  simp only [metaCharacters, List.mem_cons, List.not_mem_nil, or_false, not_or] at h
  rw [Reading.step] <;> simp_all

end Characters

/-! ## Pieces -/

/-- The piece of a character. -/
def charPiece (c : Char) : Piece :=
  ⟨.one (.single c), 0, true⟩

/-- The piece of a key. -/
def keyPiece (key : List Char) : Piece :=
  .sequence (key.map charPiece)

/-- The depths of pieces that are no deeper than a bound. -/
theorem foldl_max_le {pieces : List Piece} {bound : Nat} (h : ∀ piece ∈ pieces, piece.depth ≤ bound) :
    (pieces.map (·.depth)).foldl max 0 ≤ bound := by
  have hfold (pieces : List Piece) (start : Nat) (hstart : start ≤ bound)
      (h : ∀ piece ∈ pieces, piece.depth ≤ bound) : (pieces.map (·.depth)).foldl max start ≤ bound := by
    induction pieces generalizing start with
    | nil => exact hstart
    | cons piece pieces ih =>
      obtain ⟨hpiece, hrest⟩ := List.forall_mem_cons.mp h
      exact ih _ (Nat.max_le.mpr ⟨hstart, hpiece⟩) hrest
  exact hfold pieces 0 (Nat.zero_le _) h

/-- Pieces in a sequence are at most one deeper. -/
theorem depth_sequence_le {pieces : List Piece} {bound : Nat} (h : ∀ piece ∈ pieces, piece.depth ≤ bound) :
    (Piece.sequence pieces).depth ≤ bound + 1 := by
  unfold Piece.sequence
  split
  · exact Nat.le_succ_of_le (h _ (List.mem_singleton_self _))
  · exact Nat.zero_le _
  · have := foldl_max_le h
    dsimp only
    omega

/-- Alternatives are at most one deeper. -/
theorem depth_choice_le {pieces : List Piece} {bound : Nat} (h : ∀ piece ∈ pieces, piece.depth ≤ bound) :
    (Piece.choice pieces).depth ≤ bound + 1 := by
  unfold Piece.choice
  split
  · exact Nat.le_succ_of_le (h _ (List.mem_singleton_self _))
  · have := foldl_max_le h
    dsimp only
    omega

/-- A sequence of pieces is the sequence of their expressions. -/
theorem expression_sequence (pieces : List Piece) :
    (Piece.sequence pieces).expression = .sequenceOf (pieces.map (·.expression)) := by
  unfold Piece.sequence
  split <;> rfl

/-- A choice of pieces is the choice of their expressions. -/
theorem expression_choice (pieces : List Piece) :
    (Piece.choice pieces).expression = .choiceOf (pieces.map (·.expression)) := by
  unfold Piece.choice
  split <;> rfl

/-- The piece of a key matches its characters. -/
theorem expression_keyPiece (key : List Char) : (keyPiece key).expression = ofChars key := by
  rw [keyPiece, expression_sequence, List.map_map]
  rfl

/-- The pieces of keys matches any of them. -/
theorem expression_choice_keyPiece (keys : List (List Char)) :
    (Piece.choice (keys.map keyPiece)).expression = anyOf keys := by
  rw [expression_choice, List.map_map, anyOf]
  congr 1
  exact List.map_congr_left fun key _ => expression_keyPiece key

/-- The pieces of keys are nested no deeper than patterns may be. -/
theorem depth_choice_keyPiece (keys : List (List Char)) :
    (Piece.choice (keys.map keyPiece)).depth ≤ maxDepth := by
  have hkey : ∀ piece ∈ keys.map keyPiece, piece.depth ≤ 1 := by
    intro piece hpiece
    obtain ⟨key, -, rfl⟩ := List.mem_map.mp hpiece
    apply depth_sequence_le
    intro piece hpiece
    obtain ⟨c, -, rfl⟩ := List.mem_map.mp hpiece
    exact Nat.le_refl 0
  exact Nat.le_trans (depth_choice_le hkey) (by decide)

/-! ## Reading -/

section Reading

variable {fuel : Nat} {pieces branches : List Piece}

/-- Reading goes on behind what one step has read. -/
theorem finish_of_step {r next : Reading} {c : Char} {cs rest : List Char} (hskip : r.flags.spaced = false)
    (h : r.step (c :: cs) = some (next, rest)) :
    Reading.finish (fuel + 1) r (c :: cs) = Reading.finish fuel next rest := by
  simp [Reading.finish, Flags.skip, hskip, h]

/-- At the end of a text that has no group open, there is the piece of all that has been read. -/
theorem finish_nil : Reading.finish (fuel + 1) { pieces := pieces, branches := branches } [] =
    some (.choice (branches.reverse ++ [.sequence pieces.reverse])) := by
  simp [Reading.finish, Flags.skip, Reading.body]

/-- An escaped character is read as itself. -/
theorem step_escape (pieces branches : List Piece) (c : Char) (rest : List Char) :
    ∃ first after, escape [c] ++ rest = first :: after ∧
      Reading.step { pieces := pieces, branches := branches } (first :: after) =
        some ({ pieces := charPiece c :: pieces, branches := branches }, rest) := by
  by_cases hmeta : c ∈ metaCharacters
  · refine ⟨'\\', c :: rest, by simp [escape, hmeta], ?_⟩
    rw [Reading.step, readEscape_of_meta hmeta]
    rfl
  · refine ⟨c, rest, by simp [escape, hmeta], ?_⟩
    rw [step_of_not_meta hmeta]
    rfl

/-- Escaped characters are read as themselves, with fuel left for the rest. -/
theorem finish_escape (pieces branches : List Piece) (cs rest : List Char)
    (hfuel : (escape cs ++ rest).length < fuel) :
    ∃ left, rest.length < left ∧
      Reading.finish fuel { pieces := pieces, branches := branches } (escape cs ++ rest) =
        Reading.finish left { pieces := (cs.map charPiece).reverse ++ pieces, branches := branches } rest := by
  induction cs generalizing fuel pieces with
  | nil => exact ⟨fuel, hfuel, rfl⟩
  | cons c cs ih =>
    have hsplit : escape (c :: cs) ++ rest = escape [c] ++ (escape cs ++ rest) := by simp [escape]
    obtain ⟨first, after, htext, hstep⟩ := step_escape pieces branches c (escape cs ++ rest)
    cases fuel with
    | zero => exact absurd hfuel (Nat.not_lt_zero _)
    | succ fuel =>
      rw [hsplit, htext] at hfuel ⊢
      have hshorter : (escape cs ++ rest).length < (first :: after).length := by
        have hpos : 0 < (escape [c]).length := by
          rw [escape, List.flatMap_singleton]
          split <;> simp
        have hsum := congrArg List.length htext
        rw [List.length_append] at hsum
        omega
      have hrest : (escape cs ++ rest).length < fuel := by omega
      obtain ⟨left, hleft, hread⟩ := ih (charPiece c :: pieces) hrest
      refine ⟨left, hleft, ?_⟩
      rw [finish_of_step rfl hstep, hread, List.map_cons, List.reverse_cons, List.append_assoc,
        List.singleton_append]

/-- **Escaped keys with bars between them** are read as alternatives, behind those already read. -/
theorem finish_alternation (key : List Char) (keys : List (List Char)) (branches : List Piece)
    (hfuel : (['|'].intercalate ((key :: keys).map escape)).length < fuel) :
    Reading.finish fuel { branches := branches } (['|'].intercalate ((key :: keys).map escape)) =
      some (.choice (branches.reverse ++ (key :: keys).map keyPiece)) := by
  induction keys generalizing key fuel branches with
  | nil =>
    have htext : ['|'].intercalate ([key].map escape) = escape key ++ [] := by simp
    rw [htext] at hfuel ⊢
    obtain ⟨left, hleft, hread⟩ := finish_escape [] branches key [] hfuel
    obtain ⟨left, rfl⟩ := Nat.exists_eq_succ_of_ne_zero (Nat.ne_of_gt hleft)
    rw [hread, finish_nil, List.append_nil, List.reverse_reverse]
    rfl
  | cons next keys ih =>
    have htext : ['|'].intercalate ((key :: next :: keys).map escape) =
        escape key ++ '|' :: ['|'].intercalate ((next :: keys).map escape) := by
      simp [List.intercalate]
    rw [htext] at hfuel ⊢
    obtain ⟨left, hleft, hread⟩ := finish_escape [] branches key _ hfuel
    obtain ⟨left, rfl⟩ := Nat.exists_eq_succ_of_ne_zero (Nat.ne_of_gt (Nat.zero_lt_of_lt hleft))
    rw [List.length_cons] at hleft
    have hbar : Reading.step { pieces := (key.map charPiece).reverse ++ [], branches := branches }
        ('|' :: ['|'].intercalate ((next :: keys).map escape)) =
          some ({ branches := keyPiece key :: branches }, ['|'].intercalate ((next :: keys).map escape)) := by
      rw [Reading.step, List.append_nil, List.reverse_reverse]
      rfl
    rw [hread, finish_of_step rfl hbar, ih next _ (by omega), List.reverse_cons, List.append_assoc]
    rfl

end Reading

/-- **The text of the keys denotes the keys.** -/
theorem readExpression_alternation {keys : List String} (hkeys : keys ≠ []) :
    readExpression {} (alternation keys) = some (anyOf (keys.map String.toList)) := by
  obtain ⟨key, more, rfl⟩ := List.exists_cons_of_ne_nil hkeys
  have htext : (alternation (key :: more)).toList =
      ['|'].intercalate ((key.toList :: more.map String.toList).map escape) := by
    rw [alternation, String.toList_ofList, ← List.map_cons, List.map_map]
    rfl
  have hread := finish_alternation key.toList (more.map String.toList) [] (Nat.lt_succ_self _)
  rw [List.reverse_nil, List.nil_append] at hread
  rw [readExpression, htext]
  simp only [hread]
  rw [if_pos (depth_choice_keyPiece _), expression_choice_keyPiece]
  rfl

/-! ## Room -/

/-- Expressions one after the other take their bytes together. -/
theorem addBytes_sequenceOf (es : List Expression) (bytes : Nat) :
    (Expression.sequenceOf es).addBytes bytes = es.foldl (fun bytes e => e.addBytes bytes) bytes := by
  induction es generalizing bytes with
  | nil => rfl
  | cons e es ih =>
    by_cases hnil : es = []
    · rw [hnil]
      rfl
    · rw [Expression.sequenceOf, Expression.joined_cons hnil, Expression.addBytes, ← Expression.sequenceOf,
        ih, List.foldl_cons]

/-- A key takes a state for each of its bytes. -/
theorem addBytes_ofChars (cs : List Char) (bytes : Nat) :
    (ofChars cs).addBytes bytes = bytes + (String.ofList cs).utf8ByteSize * stateBytes := by
  rw [ofChars, addBytes_sequenceOf]
  induction cs generalizing bytes with
  | nil => simp
  | cons c cs ih =>
    rw [List.map_cons, List.foldl_cons, ih, String.ofList_cons, String.utf8ByteSize_append,
      String.utf8ByteSize_singleton, Nat.add_mul, ← Nat.add_assoc]
    rfl

/-- The standard engine has room for one key up to its limit. -/
theorem refusal?_standard_singleton (key : String) :
    Engine.standard.refusal? (alternation [key]) =
      if key.utf8ByteSize * stateBytes ≤ Engine.sizeLimit then none
      else some "Compiled regex exceeds size limit of 10485760 bytes." := by
  have hbytes : (anyOf ([key].map String.toList)).addBytes 0 = key.utf8ByteSize * stateBytes := by
    have hone : anyOf ([key].map String.toList) = ofChars key.toList := rfl
    rw [hone, addBytes_ofChars, Nat.zero_add, String.ofList_toList]
  have hmessage : "Compiled regex exceeds size limit of " ++ toString Engine.sizeLimit ++ " bytes." =
      "Compiled regex exceeds size limit of 10485760 bytes." := by decide +kernel
  rw [Engine.standard]
  dsimp only
  rw [readExpression_alternation (List.cons_ne_nil _ _), hmessage]
  simp only [Engine.hasRoom, hbytes, decide_eq_true_eq]

end Acceptance.Pattern
