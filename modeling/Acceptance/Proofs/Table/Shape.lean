import Acceptance.Proofs.Table.Views

/-!
# The shape of a table

A table is made with its keys. Then it may be given rows, its keys may be turned into placeholders, and its
placeholders may be filled. A table is a value, so it depends on its own calls and on nothing else.

What the calls make of it can be said without running them (`Table.afterAll_eq`): a row is kept just where it has
as many cells as there were keys at the start, the rows that are kept stand in the order in which they came, and
each key and each cell stays in its column and is rewritten there. So every row has one cell in each column at any
time, and pairing the keys with the cells of a row loses nothing (`Table.shaped_afterAll`).
-/

set_option autoImplicit false

namespace Acceptance

/-! ## Keys as placeholders -/

/-- A key between two brackets that match. A single character is no such key: it cannot be both of them. -/
def IsPlaceholder (key : String) : Prop :=
  ∃ opening inner closing, (opening, closing) ∈ bracketPairs ∧ key.toList = opening :: (inner ++ [closing])

/-- A key is bracketed if it is a text, empty or not, between two brackets of a pair. -/
theorem isBracketed_iff {key : List Char} :
    isBracketed key = true ↔
      ∃ opening inner closing, (opening, closing) ∈ bracketPairs ∧ key = opening :: (inner ++ [closing]) := by
  cases key with
  | nil => simp [isBracketed]
  | cons first rest =>
    obtain rfl | ⟨inner, last, rfl⟩ := List.eq_nil_or_concat rest
    · simp [isBracketed]
    · simp [isBracketed]

/-- A key is its own placeholder just where it stands in brackets already. -/
theorem outlineKey_eq_self_iff {key : String} : outlineKey key = key ↔ IsPlaceholder key := by
  rw [IsPlaceholder, ← isBracketed_iff]
  constructor
  · intro hself
    by_contra hbracketed
    rw [outlineKey, if_neg hbracketed] at hself
    -- the brackets make the key longer
    have hlength := congrArg (fun text : String => text.toList.length) hself
    simp only [String.toList_append, List.length_append] at hlength
    have hbrackets : "<".toList.length = 1 := rfl
    omega
  · intro hbracketed
    simp [outlineKey, hbracketed]

/-- What a key is turned into stands in brackets. -/
theorem isPlaceholder_outlineKey (key : String) : IsPlaceholder (outlineKey key) := by
  by_cases hbracketed : isBracketed key.toList = true
  · rw [outlineKey, if_pos hbracketed]
    exact isBracketed_iff.mp hbracketed
  · rw [outlineKey, if_neg hbracketed]
    exact ⟨'<', key.toList, '>', by simp [bracketPairs], by simp⟩

/-- **Turning a key into its placeholder** a second time changes nothing. -/
theorem outlineKey_outlineKey (key : String) : outlineKey (outlineKey key) = outlineKey key :=
  outlineKey_eq_self_iff.mpr (isPlaceholder_outlineKey key)

namespace Table

variable {t : Table} {keys cells : List String}

/-- Keys that are placeholders already stay as they are. -/
theorem withOutlineKeys_withOutlineKeys (t : Table) : t.withOutlineKeys.withOutlineKeys = t.withOutlineKeys := by
  simp [withOutlineKeys, outlineKey_outlineKey]

/-! ## Calls -/

/-- What can be asked of a table: to take a row, to turn its keys into placeholders, to fill its placeholders. -/
inductive Call where
  | addRow (cells : List String)
  | withOutlineKeys
  | fill (s : Substitution)

/-- The table after a call. Where a row is refused, it is the one that there was. -/
def after (t : Table) : Call → Table
  | .addRow cells =>
    match t.addRow cells with
    | .ok longer => longer
    | .error _ => t
  | .withOutlineKeys => t.withOutlineKeys
  | .fill s => t.fill s

/-- The fault for which a call is refused, if it is. -/
def fault? (t : Table) : Call → Option UnevenRow
  | .addRow cells =>
    match t.addRow cells with
    | .ok _ => none
    | .error fault => some fault
  | .withOutlineKeys | .fill _ => none

/-- The table after calls, one after the other. -/
def afterAll (t : Table) (calls : List Call) : Table :=
  calls.foldl after t

/-- What a call makes of a key. -/
def Call.onKey : Call → String → String
  | .addRow _ => id
  | .withOutlineKeys => outlineKey
  | .fill s => s.apply

/-- What a call makes of a cell. -/
def Call.onCell : Call → String → String
  | .addRow _ | .withOutlineKeys => id
  | .fill s => s.apply

/-- What calls make of a text, one after the other. -/
def textAfter (onText : Call → String → String) (calls : List Call) (text : String) : String :=
  calls.foldl (fun text call => onText call text) text

/-- No calls leave a text as it is. -/
@[simp]
theorem textAfter_nil (onText : Call → String → String) : textAfter onText [] = id :=
  rfl

/-- The calls change a text one after another. -/
@[simp]
theorem textAfter_cons (onText : Call → String → String) (call : Call) (later : List Call) :
    textAfter onText (call :: later) = textAfter onText later ∘ onText call :=
  rfl

/-- The rows of `width` cells that calls give, in their order, each as the calls behind it rewrite it. -/
def rowsOf (width : Nat) : List Call → List (List String)
  | [] => []
  | .addRow cells :: later =>
    if cells.length = width then cells.map (textAfter Call.onCell later) :: rowsOf width later
    else rowsOf width later
  | .withOutlineKeys :: later | .fill _ :: later => rowsOf width later

/-! ## One call -/

/-- A row that fits is put behind the others. -/
theorem added_of_fits (hfits : cells.length = t.keys.length) :
    t.fault? (.addRow cells) = none ∧ t.after (.addRow cells) = ⟨t.keys, t.rows ++ [cells]⟩ := by
  simp [fault?, after, addRow_eq_ok.mpr ⟨hfits, rfl⟩]

/-- A row that does not fit is refused with the number of the next row, and leaves the table as it is. -/
theorem refused_of_uneven (huneven : cells.length ≠ t.keys.length) :
    t.fault? (.addRow cells) = some ⟨t.size + 1, t.keys.length, cells.length⟩ ∧ t.after (.addRow cells) = t := by
  simp [fault?, after, addRow_eq_error.mpr ⟨huneven, rfl⟩, size]

/-- **One call** rewrites every key and every cell in its place, and puts a row that fits behind them. -/
theorem after_eq (t : Table) (call : Call) :
    t.after call = ⟨t.keys.map call.onKey, t.rows.map (·.map call.onCell) ++ rowsOf t.keys.length [call]⟩ := by
  cases call with
  | addRow cells =>
    by_cases hfits : cells.length = t.keys.length
    · simp [(added_of_fits hfits).2, Call.onKey, Call.onCell, rowsOf, hfits]
    · simp [(refused_of_uneven hfits).2, Call.onKey, Call.onCell, rowsOf, hfits]
  | withOutlineKeys => simp [after, withOutlineKeys, Call.onKey, Call.onCell, rowsOf]
  | fill s => simp [after, fill, Call.onKey, Call.onCell, rowsOf]

/-- A call that gives no row only rewrites, and is never refused. -/
theorem unmoved_of_ne {call : Call} (hother : ∀ cells, call ≠ .addRow cells) :
    t.fault? call = none ∧ t.after call = ⟨t.keys.map call.onKey, t.rows.map (·.map call.onCell)⟩ := by
  rw [after_eq]
  cases call with
  | addRow cells => exact absurd rfl (hother cells)
  | withOutlineKeys => simp [fault?, rowsOf]
  | fill s => simp [fault?, rowsOf]

/-- One more call leads from a reachable table to a reachable one. -/
theorem Reachable.after (ht : t.Reachable) (call : Call) : (t.after call).Reachable := by
  cases call with
  | addRow cells =>
    by_cases hfits : cells.length = t.keys.length
    · rw [(added_of_fits hfits).2]
      exact .addRow ht (addRow_eq_ok.mpr ⟨hfits, rfl⟩)
    · rw [(refused_of_uneven hfits).2]
      exact ht
  | withOutlineKeys => exact .withOutlineKeys ht
  | fill s => exact .fill s ht

/-! ## Any number of calls -/

/-- The rows that the first call gives are rewritten by the others. -/
theorem rowsOf_cons (width : Nat) (call : Call) (later : List Call) :
    rowsOf width (call :: later) =
      (rowsOf width [call]).map (·.map (textAfter Call.onCell later)) ++ rowsOf width later := by
  cases call with
  | addRow cells => by_cases hfits : cells.length = width <;> simp [rowsOf, hfits]
  | withOutlineKeys => rfl
  | fill s => rfl

/-- **What calls make of a table**, said without running them. -/
theorem afterAll_eq (t : Table) (calls : List Call) :
    t.afterAll calls =
      ⟨t.keys.map (textAfter Call.onKey calls),
        t.rows.map (·.map (textAfter Call.onCell calls)) ++ rowsOf t.keys.length calls⟩ := by
  -- the rows of the first call are rewritten by the later ones, and it leaves the number of columns to them
  induction calls generalizing t with
  | nil => simp [afterAll, rowsOf]
  | cons call later ih =>
    have hkeys : (t.after call).keys = t.keys.map call.onKey := by rw [after_eq]
    have hrows : (t.after call).rows = t.rows.map (·.map call.onCell) ++ rowsOf t.keys.length [call] := by
      rw [after_eq]
    calc t.afterAll (call :: later)
        = (t.after call).afterAll later := rfl
      _ = ⟨(t.after call).keys.map (textAfter Call.onKey later),
            (t.after call).rows.map (·.map (textAfter Call.onCell later)) ++
              rowsOf (t.after call).keys.length later⟩ := ih _
      _ = ⟨t.keys.map (textAfter Call.onKey (call :: later)),
            t.rows.map (·.map (textAfter Call.onCell (call :: later))) ++ rowsOf t.keys.length (call :: later)⟩ := by
        rw [hkeys, hrows, List.length_map, rowsOf_cons _ call later]
        simp

/-- Any calls lead from a reachable table to a reachable one. -/
theorem Reachable.afterAll (ht : t.Reachable) (calls : List Call) : (t.afterAll calls).Reachable := by
  induction calls generalizing t with
  | nil => exact ht
  | cons call later ih => exact ih (ht.after call)

/-! ## The shape after any calls -/

/-- To pair the keys with the cells of a row and to take the pairs apart again gives the keys and the cells. -/
theorem unzip_pairs (hrows : ∀ cells ∈ t.rows, cells.length = t.keys.length) :
    t.views.map (fun r => r.pairs.unzip) = t.rows.map fun cells => (t.keys, cells) := by
  rw [views, List.map_map]
  apply List.map_congr_left
  intro cells hcells
  exact List.unzip_zip (hrows cells hcells).symm

/-- The shape of a table that was made with `keys` and has served `calls`, and what one call more does to it. -/
structure Shaped (keys : List String) (calls : List Call) (t : Table) : Prop where
  /-- Each key stands in its column, as the calls have rewritten it. -/
  keys_eq : t.keys = keys.map (textAfter Call.onKey calls)
  /-- The rows are those that fit the keys, in the order in which they came. -/
  rows_eq : t.rows = rowsOf keys.length calls
  /-- Every row has one cell for each key. -/
  rectangular : ∀ cells ∈ t.rows, cells.length = t.keys.length
  /-- The pairs of a row have each key and each cell, in the order of the columns. -/
  pairs : t.views.map (fun r => r.pairs.unzip) = t.rows.map fun cells => (t.keys, cells)
  /-- A row that fits is put behind the others. -/
  added : ∀ cells, cells.length = keys.length →
    t.fault? (.addRow cells) = none ∧ t.after (.addRow cells) = ⟨t.keys, t.rows ++ [cells]⟩
  /-- A row that does not fit is refused under the number that it would have had, and the table stays as it is. -/
  refused : ∀ cells, cells.length ≠ keys.length →
    t.fault? (.addRow cells) = some ⟨t.size + 1, keys.length, cells.length⟩ ∧ t.after (.addRow cells) = t
  /-- Any other call leaves each key and each cell in its place, and rewrites it there. -/
  unmoved : ∀ call, (∀ cells, call ≠ .addRow cells) →
    t.fault? call = none ∧ t.after call = ⟨t.keys.map call.onKey, t.rows.map (·.map call.onCell)⟩
  /-- Keys that have been turned into placeholders are left as they are the next time. -/
  outlined : (t.after .withOutlineKeys).after .withOutlineKeys = t.after .withOutlineKeys

/-- **Tables stay rectangular.** Whatever rows a table is given, refused ones among them, and however its texts are
rewritten, it has the columns that it was made with and the rows that fitted them, in the order in which they came.
Only a row that fits changes how many there are. To turn a key into its placeholder twice is to do it once, and
the keys that it leaves alone are just those between brackets that match. -/
theorem shaped_afterAll :
    (∀ keys calls, Shaped keys calls ((ofKeys keys).afterAll calls)) ∧
      ∀ key, outlineKey (outlineKey key) = outlineKey key ∧ (outlineKey key = key ↔ IsPlaceholder key) := by
  refine ⟨fun keys calls => ?_, fun key => ⟨outlineKey_outlineKey key, outlineKey_eq_self_iff⟩⟩
  have hrun := afterAll_eq (ofKeys keys) calls
  have hreach := (Reachable.ofKeys keys).afterAll calls
  generalize (ofKeys keys).afterAll calls = t at hrun hreach
  have hkeys : t.keys = keys.map (textAfter Call.onKey calls) := by
    rw [hrun]
    rfl
  have hrows : t.rows = rowsOf keys.length calls := by
    rw [hrun]
    rfl
  -- rewriting keys has left their number as it was
  have hwidth : t.keys.length = keys.length := by rw [hkeys, List.length_map]
  exact
    { keys_eq := hkeys
      rows_eq := hrows
      rectangular := hreach.length_cells
      pairs := unzip_pairs hreach.length_cells
      added := fun cells hfits => added_of_fits (hfits.trans hwidth.symm)
      refused := fun cells huneven => hwidth ▸ refused_of_uneven (hwidth ▸ huneven)
      unmoved := fun call hother => unmoved_of_ne hother
      outlined := withOutlineKeys_withOutlineKeys t }

/-- The second row is refused under its number, the third one has that number, and the fill reaches both rows. -/
example :
    let calls : List Call := [.addRow ["1", "<n>"], .addRow ["2"], .withOutlineKeys, .addRow ["<n>", "3"],
      .fill (.ofPairs [("<n>", "9")])]
    (ofKeys ["k", "(m"]).afterAll calls = ⟨["<k>", "<(m>"], [["1", "9"], ["9", "3"]]⟩ ∧
      ((ofKeys ["k", "(m"]).after (.addRow ["1", "<n>"])).fault? (.addRow ["2"]) = some ⟨2, 2, 1⟩ := by
  decide

end Table

end Acceptance
