import Mathlib.Data.List.Induction
import Acceptance.Proofs.Outline.Substitution
import Acceptance.Table

/-!
# Views of a row

A row can be asked for the cell under a key, turned into a map, and made the values of placeholders. Keys may
repeat: they are kept as they are written, and rewriting them can make different ones equal. The map and the
placeholders then have the cell of the last column with the key, but asking for the key gives the cell of the
first one. So the three views agree just where the first and the last of these cells are the same, if there are
placeholders, which an engine must have room for (`Table.Row.viewsAgree_iff`).
-/

set_option autoImplicit false

namespace Acceptance.Table

variable {t u : Table} {keys cells : List String} {pairs : List (String × String)} {key value : String}

/-! ## Tables that can be made -/

/-- A table that can be made: with keys, with rows that fit them, and with keys and cells rewritten. -/
inductive Reachable : Table → Prop where
  | ofKeys (keys : List String) : Reachable (ofKeys keys)
  | addRow {t u : Table} {cells : List String} : Reachable t → t.addRow cells = .ok u → Reachable u
  | withOutlineKeys {t : Table} : Reachable t → Reachable t.withOutlineKeys
  | fill {t : Table} (s : Substitution) : Reachable t → Reachable (t.fill s)

/-- **Every row has a cell under each key**, whatever has been done to the table. -/
theorem Reachable.length_cells (h : t.Reachable) : ∀ cells ∈ t.rows, cells.length = t.keys.length := by
  induction h with
  | ofKeys keys => exact List.forall_mem_nil _
  | addRow _ hadd ih =>
    obtain ⟨hfits, rfl⟩ := addRow_eq_ok.mp hadd
    intro cells hcells
    rcases List.mem_append.mp hcells with hcells | hcells
    · exact ih cells hcells
    · rwa [List.mem_singleton.mp hcells]
  | withOutlineKeys _ ih =>
    intro cells hcells
    rw [Table.withOutlineKeys, List.length_map]
    exact ih cells hcells
  | fill s _ ih =>
    intro cells hcells
    obtain ⟨written, hwritten, rfl⟩ := List.mem_map.mp hcells
    rw [Table.fill, List.length_map, List.length_map]
    exact ih written hwritten

namespace Row

variable {r : Row}

/-! ## The columns with a key -/

/-- The cells of a row in the columns with the given key, in the order of the columns. -/
def cellsUnder (r : Row) (key : String) : List String :=
  (r.pairs.filter fun pair => pair.1 = key).map Prod.snd

/-- The first cell is under the key exactly if the first column has that key. -/
theorem cellsUnder_cons (k cell key : String) (keys cells : List String) :
    cellsUnder ⟨k :: keys, cell :: cells⟩ key =
      if k = key then cell :: cellsUnder ⟨keys, cells⟩ key else cellsUnder ⟨keys, cells⟩ key := by
  unfold cellsUnder pairs
  rw [List.zip_cons_cons, List.filter_cons]
  by_cases hkey : k = key
  · simp [hkey]
  · simp [hkey]

/-- There are as many of these cells as columns with the key, if every column has a cell. -/
theorem length_cellsUnder (hcells : r.cells.length = r.keys.length) (key : String) :
    (r.cellsUnder key).length = r.keys.count key := by
  obtain ⟨keys, cells⟩ := r
  induction keys generalizing cells with
  | nil => rfl
  | cons k keys ih =>
    obtain ⟨cell, cells, rfl⟩ := List.exists_cons_of_length_eq_add_one hcells
    have hrest := ih cells (Nat.succ.inj hcells)
    rw [cellsUnder_cons, List.count_cons]
    by_cases hkey : k = key
    · rw [if_pos hkey, if_pos (beq_iff_eq.mpr hkey), List.length_cons, hrest]
    · rw [if_neg hkey, if_neg (mt beq_iff_eq.mp hkey), hrest]
      rfl

/-! ## What each view gives -/

/-- **Asking for a key** gives the cell of the first column with it. -/
theorem get?_eq_head? (r : Row) (key : String) : r.get? key = (r.cellsUnder key).head? := by
  obtain ⟨keys, cells⟩ := r
  induction keys generalizing cells with
  | nil => rfl
  | cons k keys ih =>
    cases cells with
    | nil =>
      unfold get?
      split <;> rfl
    | cons cell cells =>
      rw [cellsUnder_cons, get?, List.findIdx?_cons]
      by_cases hkey : k = key
      · rw [if_pos hkey, if_pos (beq_iff_eq.mpr hkey)]
        rfl
      · rw [if_neg hkey, if_neg (mt beq_iff_eq.mp hkey), ← ih, get?]
        cases List.findIdx? (· == key) keys <;> rfl

/-- A map gives its first entry under a key. -/
theorem lookup_cons (map : List (String × String)) (key value other : String) :
    ((key, value) :: map).lookup other = if key = other then some value else map.lookup other := by
  by_cases hother : key = other
  · rw [if_pos hother, hother, List.lookup_cons_self]
  · rw [if_neg hother, List.lookup_cons, beq_eq_false_iff_ne.mpr (Ne.symm hother)]

/-- A value that is assigned is the one that is given under its key, and no other key changes. -/
theorem lookup_assign (map : List (String × String)) (key value other : String) :
    (assign key value map).lookup other = if key = other then some value else map.lookup other := by
  induction map with
  | nil => exact lookup_cons [] key value other
  | cons pair map ih =>
    obtain ⟨k, v⟩ := pair
    rw [assign, lookup_cons]
    by_cases hkey : k = key
    · rw [if_pos hkey, lookup_cons, hkey]
      split <;> rfl
    · rw [if_neg hkey, lookup_cons, ih]
      by_cases hother : k = other
      · rw [if_pos hother, if_pos hother, if_neg (fun h => hkey (hother.trans h.symm))]
      · rw [if_neg hother, if_neg hother]

/-- Putting pairs into a map one by one leaves each key with the value that it was given last. -/
theorem lookup_foldl_assign (pairs : List (String × String)) (key : String) :
    (pairs.foldl (fun map (pair : String × String) => assign pair.1 pair.2 map) []).lookup key =
      Substitution.lastValue? pairs key := by
  induction pairs using List.reverseRecOn with
  | nil => rfl
  | append_singleton pairs pair ih =>
    rw [List.foldl_append, List.foldl_cons, List.foldl_nil, lookup_assign, ih,
      Substitution.lastValue?_append_singleton]

/-- The last pair of a key holds the last cell under that key. -/
theorem lastValue?_pairs (r : Row) (key : String) :
    Substitution.lastValue? r.pairs key = (r.cellsUnder key).getLast? := by
  rw [Substitution.lastValue?, cellsUnder, List.getLast?_map]

/-- **The map** has the cell of the last column with a key. -/
theorem lookup_toMap (r : Row) (key : String) : r.toMap.lookup key = (r.cellsUnder key).getLast? := by
  rw [toMap, lookup_foldl_assign, lastValue?_pairs]

/-- A text that is a key is replaced as a whole by the value that the key was given last. -/
theorem apply_key (hne : key ≠ "") (hlast : Substitution.lastValue? pairs key = some value) :
    (Substitution.ofPairs pairs).apply key = value := by
  have hmem : key ∈ pairs.map Prod.fst := by
    rw [← Substitution.isSome_lastValue?, hlast]
    rfl
  have hpass : Substitution.Replaces pairs (key.toList ++ []) (value.toList ++ []) := by
    refine .key key value ⟨hne, hmem, List.prefix_append _ _⟩ ?_ hlast .nil
    -- no key that the text begins with is longer than the text
    intro other hother
    have hlength := hother.2.2.length_le
    rwa [List.append_nil, String.length_toList, String.length_toList] at hlength
  rw [List.append_nil, List.append_nil] at hpass
  exact ((Substitution.replaces_iff pairs key value).mp hpass).symm

/-- **The placeholders** have the cell of the last column with a key, where an engine has room for the keys. -/
theorem apply_of_build {engine : Engine} {s : Substitution} (hs : Substitution.build engine r.pairs = .ok s)
    (hne : key ≠ "") (hlast : (r.cellsUnder key).getLast? = some value) : s.apply key = value := by
  rw [Substitution.eq_of_build hs]
  exact apply_key hne (by rw [lastValue?_pairs, hlast])

/-! ## Agreement -/

/-- The three views of a row give one cell for a key: asking for it, looking it up in the map, and replacing
it as a placeholder with the substitution that an engine builds of the row. -/
def ViewsAgree (engine : Engine) (r : Row) (key : String) : Prop :=
  ∃ cell, r.get? key = some cell ∧ r.toMap.lookup key = some cell ∧
    ∃ s, Substitution.build engine r.pairs = .ok s ∧ s.apply key = cell

/-- A row of a table has as many cells under a key as the key has columns. -/
theorem length_cellsUnder_of_mem_views (ht : t.Reachable) (hr : r ∈ t.views) (key : String) :
    (r.cellsUnder key).length = t.keys.count key := by
  obtain ⟨cells, hcells, rfl⟩ := List.mem_map.mp hr
  exact length_cellsUnder (ht.length_cells cells hcells) key

/-- Views that give the first and the last cell under a key agree just where these are equal and the third view
can be made. -/
theorem viewsAgree_iff_of_views {engine : Engine} {first last : String} (hget : r.get? key = some first)
    (hmap : r.toMap.lookup key = some last)
    (happly : ∀ s, Substitution.build engine r.pairs = .ok s → s.apply key = last) :
    r.ViewsAgree engine key ↔ Substitution.refusal? engine r.pairs = none ∧ first = last := by
  constructor
  · rintro ⟨cell, hcell, hentry, s, hs, -⟩
    rw [hget] at hcell
    rw [hmap] at hentry
    exact ⟨Substitution.refusal?_of_build hs, Option.some.inj (hcell.trans hentry.symm)⟩
  · rintro ⟨hroom, rfl⟩
    obtain ⟨s, hs⟩ := Substitution.exists_build hroom
    exact ⟨first, hget, hmap, s, hs, happly s hs⟩

/-- **What the views give for a key**: each gives a cell of a column with the key, `get?` that of the first
such column, the map and the placeholders that of the last one. So they agree just where these two cells are
equal and the engine has room for the keys, and under a key that does not repeat they are equal. -/
theorem viewsAgree_iff (engine : Engine) (ht : t.Reachable) (hr : r ∈ t.views) (hkey : key ∈ t.keys)
    (hne : key ≠ "") :
    ∃ first last, (r.cellsUnder key).head? = some first ∧ (r.cellsUnder key).getLast? = some last ∧
      r.get? key = some first ∧ r.toMap.lookup key = some last ∧
      (∀ s, Substitution.build engine r.pairs = .ok s → s.apply key = last) ∧
      (r.ViewsAgree engine key ↔ Substitution.refusal? engine r.pairs = none ∧ first = last) ∧
      (t.keys.count key = 1 → first = last) := by
  have hlength := length_cellsUnder_of_mem_views ht hr key
  have hunder : r.cellsUnder key ≠ [] := by
    rw [← List.length_pos_iff, hlength]
    exact List.count_pos_iff.mpr hkey
  obtain ⟨first, hfirst⟩ : ∃ first, (r.cellsUnder key).head? = some first :=
    ⟨_, List.head?_eq_some_head hunder⟩
  obtain ⟨last, hlast⟩ : ∃ last, (r.cellsUnder key).getLast? = some last :=
    ⟨_, List.getLast?_eq_some_getLast hunder⟩
  have hget : r.get? key = some first := by rw [get?_eq_head?, hfirst]
  have hmap : r.toMap.lookup key = some last := by rw [lookup_toMap, hlast]
  have happly (s : Substitution) (hs : Substitution.build engine r.pairs = .ok s) : s.apply key = last :=
    apply_of_build hs hne hlast
  refine ⟨first, last, hfirst, hlast, hget, hmap, happly, viewsAgree_iff_of_views hget hmap happly,
    fun hone => ?_⟩
  -- one cell is both the first and the last
  obtain ⟨cell, hcell⟩ := List.length_eq_one_iff.mp (hlength.trans hone)
  rw [hcell] at hfirst hlast
  exact Option.some.inj (hfirst.symm.trans hlast)

/-- Two keys that the brackets of an outline make equal, with equal cells. -/
theorem viewsAgree_bracketed_keys :
    let t : Table := ⟨["<k>", "<k>", "<n>"], [["1", "1", "2"]]⟩
    let r : Row := ⟨t.keys, ["1", "1", "2"]⟩
    t.Reachable ∧ r ∈ t.views ∧ "<k>" ∈ t.keys ∧ "<k>" ≠ "" ∧ r.ViewsAgree .standard "<k>" := by
  intro t r
  have hadd : (ofKeys ["k", "<k>", "n"]).addRow ["1", "1", "2"] =
      .ok ⟨["k", "<k>", "n"], [["1", "1", "2"]]⟩ := rfl
  have ht : t.Reachable := .withOutlineKeys (.addRow (.ofKeys _) hadd)
  have hr : r ∈ t.views := List.mem_singleton.mpr rfl
  have hkey : "<k>" ∈ t.keys := by decide
  obtain ⟨first, last, hfirst, hlast, -, -, -, hagree, -⟩ :=
    viewsAgree_iff .standard ht hr hkey (by decide)
  refine ⟨ht, hr, hkey, by decide, hagree.mpr ⟨by decide +kernel, ?_⟩⟩
  have hunder : r.cellsUnder "<k>" = ["1", "1"] := by decide
  rw [hunder] at hfirst hlast
  exact Option.some.inj (hfirst.symm.trans hlast)

/-- A key that is written twice above different cells: asked for it the row gives the one cell, by the map
and the placeholders the other. -/
theorem not_viewsAgree_repeated_key :
    ∃ t r s, (ofKeys ["a", "a"]).addRow ["1", "2"] = .ok t ∧ t.Reachable ∧ r ∈ t.views ∧ "a" ∈ t.keys ∧
      r.get? "a" = some "1" ∧ r.toMap.lookup "a" = some "2" ∧
      Substitution.build .standard r.pairs = .ok s ∧ s.apply "a" = "2" ∧ ¬ r.ViewsAgree .standard "a" := by
  have hadd : (ofKeys ["a", "a"]).addRow ["1", "2"] = .ok ⟨["a", "a"], [["1", "2"]]⟩ := rfl
  have hget : (Row.mk ["a", "a"] ["1", "2"]).get? "a" = some "1" := by decide
  have hmap : (Row.mk ["a", "a"] ["1", "2"]).toMap.lookup "a" = some "2" := by decide
  have hroom : Substitution.refusal? .standard (Row.mk ["a", "a"] ["1", "2"]).pairs = none := by decide +kernel
  obtain ⟨s, hs⟩ := Substitution.exists_build hroom
  have happly (s : Substitution)
      (hs : Substitution.build .standard (Row.mk ["a", "a"] ["1", "2"]).pairs = .ok s) : s.apply "a" = "2" :=
    apply_of_build hs (by decide) (by decide)
  refine ⟨_, ⟨["a", "a"], ["1", "2"]⟩, s, hadd, .addRow (.ofKeys _) hadd, List.mem_singleton.mpr rfl,
    by decide, hget, hmap, hs, happly s hs, ?_⟩
  rw [viewsAgree_iff_of_views hget hmap happly]
  exact fun hagree => absurd hagree.2 (by decide)

end Row

end Acceptance.Table
