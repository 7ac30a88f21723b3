import WireSql.Value

/-!
# `WireSql.ResultSet`: what a statement answers

A result set has named columns and rows of texts, where the absence of a text is NULL. A result
without columns answers a statement that yields no rows; it tells how many rows were touched.

Every row has exactly one cell per column. The type says so, and `pushRow` makes it so by padding
short rows with NULL and cutting long ones.
-/

namespace WireSql

/-- One cell of a result: a text, or NULL. -/
abbrev Cell := Option String

/-- Fit a row to `width` cells. -/
def fitRow (width : Nat) (cells : List Cell) : List Cell :=
  cells.take width ++ List.replicate (width - cells.length) none

@[simp] theorem length_fitRow (width : Nat) (cells : List Cell) :
    (fitRow width cells).length = width := by
  simp only [fitRow, List.length_append, List.length_take, List.length_replicate]
  omega

theorem fitRow_of_length_eq {width : Nat} {cells : List Cell} (h : cells.length = width) :
    fitRow width cells = cells := by
  subst h
  simp [fitRow]

/-- A table of texts, or the number of rows a statement touched. -/
structure ResultSet where
  columns : List String
  rows : List (List Cell) := []
  /-- How many rows a statement without columns touched. -/
  affectedRows : Nat := 0
  aligned : ∀ row ∈ rows, row.length = columns.length := by simp
deriving DecidableEq

namespace ResultSet

/-- A result with the given columns and no rows. -/
def ofColumns (columns : List String) : ResultSet := { columns }

/-- The result of a statement that touched `count` rows. -/
def affected (count : Nat) : ResultSet := { columns := [], affectedRows := count }

/-- The result with one more row, fitted to the columns. -/
def pushRow (r : ResultSet) (cells : List Cell) : ResultSet :=
  { r with
    rows := r.rows ++ [fitRow r.columns.length cells]
    aligned := by
      intro row h
      rcases List.mem_append.1 h with h | h
      · exact r.aligned row h
      · rw [List.mem_singleton.1 h, length_fitRow] }

/-- The result with one more row of values. -/
def pushValues (r : ResultSet) (values : List Value) : ResultSet :=
  r.pushRow (values.map Value.toText)

/-- A result with the given columns and rows, each fitted to the columns. -/
def ofRows (columns : List String) (rows : List (List Cell)) : ResultSet :=
  { columns
    rows := rows.map (fitRow columns.length)
    aligned := by
      intro row h
      obtain ⟨cells, _, rfl⟩ := List.mem_map.1 h
      exact length_fitRow .. }

/-- Does the result answer a statement that yields no rows? -/
def isCommand (r : ResultSet) : Bool := r.columns.isEmpty

@[simp] theorem columns_pushRow (r : ResultSet) (cells : List Cell) :
    (r.pushRow cells).columns = r.columns := rfl

@[simp] theorem rows_pushRow (r : ResultSet) (cells : List Cell) :
    (r.pushRow cells).rows = r.rows ++ [fitRow r.columns.length cells] := rfl

end ResultSet

end WireSql
