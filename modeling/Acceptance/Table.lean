import Acceptance.Placeholder

/-!
# Tables

A table has column keys and rows of cells, as many cells in each row as there are keys. Steps carry
tables, and the table of an examples block gives the values of an outline's placeholders.
-/

set_option autoImplicit false

namespace Acceptance

/-- Column keys and rows of cells. -/
structure Table where
  keys : List String
  rows : List (List String)
  deriving DecidableEq, Repr

/-- A row whose cells do not fit the keys: the number that it would have had, from one, the number of
keys, and the number of cells. -/
structure UnevenRow where
  row : Nat
  expected : Nat
  found : Nat
  deriving DecidableEq, Repr

/-- What is said about the row. -/
def UnevenRow.message (fault : UnevenRow) : String :=
  "table row " ++ toString fault.row ++ " has " ++ toString fault.found ++ " cells, expected " ++
    toString fault.expected

namespace Table

/-- The table with the given keys and without rows. -/
def ofKeys (keys : List String) : Table :=
  ⟨keys, []⟩

/-- The table with one more row, if that has as many cells as there are keys. -/
def addRow (t : Table) (cells : List String) : Except UnevenRow Table :=
  if cells.length = t.keys.length then .ok { t with rows := t.rows ++ [cells] }
  else .error ⟨t.rows.length + 1, t.keys.length, cells.length⟩

/-- A row is added just where it fits the keys. -/
theorem addRow_eq_ok {t u : Table} {cells : List String} :
    t.addRow cells = .ok u ↔ cells.length = t.keys.length ∧ u = ⟨t.keys, t.rows ++ [cells]⟩ := by
  simp only [addRow]
  split <;> simp_all [eq_comm]

/-- Any other row is refused, with the number of a row behind the last one. -/
theorem addRow_eq_error {t : Table} {cells : List String} {fault : UnevenRow} :
    t.addRow cells = .error fault ↔
      cells.length ≠ t.keys.length ∧ fault = ⟨t.rows.length + 1, t.keys.length, cells.length⟩ := by
  simp only [addRow]
  split <;> simp_all [eq_comm]

/-- The number of rows. -/
def size (t : Table) : Nat :=
  t.rows.length

/-- Whether there are no rows. -/
def isEmpty (t : Table) : Bool :=
  t.rows.isEmpty

/-- The table with every key turned into the placeholder that it stands for. -/
def withOutlineKeys (t : Table) : Table :=
  { t with keys := t.keys.map outlineKey }

/-- The table with the placeholders replaced in every key and every cell. -/
def fill (s : Substitution) (t : Table) : Table :=
  ⟨t.keys.map s.apply, t.rows.map (·.map s.apply)⟩

/-- A row seen through the keys of its table. -/
structure Row where
  keys : List String
  cells : List String
  deriving DecidableEq, Repr

/-- The rows of a table, each seen through the keys. -/
def views (t : Table) : List Row :=
  t.rows.map fun cells => ⟨t.keys, cells⟩

namespace Row

/-- Every key with its cell, in the order of the columns. -/
def pairs (r : Row) : List (String × String) :=
  r.keys.zip r.cells

/-- The cell in the first column with the given key. -/
def get? (r : Row) (key : String) : Option String :=
  match r.keys.findIdx? (· == key) with
  | some column => r.cells[column]?
  | none => none

/-- Give a key a value in a list of pairs, in the place of its earlier value. -/
def assign (key value : String) : List (String × String) → List (String × String)
  | [] => [(key, value)]
  | (k, v) :: rest => if k = key then (key, value) :: rest else (k, v) :: assign key value rest

/-- Each key once, with the cell of the last column that has it. -/
def toMap (r : Row) : List (String × String) :=
  r.pairs.foldl (fun map (key, value) => assign key value map) []

end Row

end Table

end Acceptance
