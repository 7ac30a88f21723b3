import WireSql.ResultSet
import WireSql.Sql.Statement
import WireSql.Table.Coercion

/-!
# `WireSql.Table`: a table and its operations

A table has declared columns, the names of its key columns and its rows in the order of insertion.
Columns are found by name, ignoring ASCII letter case; where two have the same name the first is
meant. Inserting, updating and deleting either succeed as a whole or change nothing.

A table read from a snapshot may hold rows that are shorter or longer than its columns. A missing
cell reads as NULL. `Table.create` checks what a statement declares; nothing checks a snapshot.
-/

namespace WireSql

/-- The cells of a stored row. -/
abbrev Row := List Value

/-- The cell at a position; a missing cell reads as NULL. -/
def Row.cell (row : Row) (i : Nat) : Value := (row[i]?).getD .null

/-- The row with NULL for every cell it lacks of `width`. -/
def Row.padded (row : Row) (width : Nat) : Row :=
  row ++ List.replicate (width - row.length) .null

/-- Do two rows hold the same contents? -/
def Row.same (a b : Row) : Bool :=
  a.length == b.length && (List.zipWith Value.same a b).all id

/-- A cell to write: its position and its value. -/
structure CellWrite where
  index : Nat
  value : Value
deriving DecidableEq

/-- The row after writing cells one after the other. -/
def Row.write (row : Row) (writes : List CellWrite) : Row :=
  writes.foldl (fun r w => r.set w.index w.value) row

/-- A cell to compare: its position and the value it must equal. -/
structure CellTest where
  index : Nat
  value : Value
deriving DecidableEq

/-- Does a row pass every test? -/
def Row.passes (row : Row) (tests : List CellTest) : Bool :=
  tests.all fun t => (row.cell t.index).equals t.value

/-- A table. -/
structure Table where
  columns : List ColumnDef
  /-- The names of the key columns, in the order of the key. -/
  primaryKey : List String := []
  /-- The rows, in the order of insertion. -/
  rows : List Row := []
deriving DecidableEq

namespace Table

/-! ## Columns and keys -/

/-- The number of columns. -/
def width (t : Table) : Nat := t.columns.length

/-- The position of the first column with a name, ignoring ASCII letter case. -/
def columnIndex? (columns : List ColumnDef) (name : String) : Option Nat :=
  columns.findIdx? fun c => Text.sameIgnoringCase c.name name

/-- A column that a statement names, with its position. -/
def column (t : Table) (part : ClausePart) (name : String) :
    Except StatementError (Nat × ColumnDef) :=
  match columnIndex? t.columns name with
  | some i => .ok (i, (t.columns[i]?).getD default)
  | none => .error (.unknownColumn name part)

/-- The first column whose name an earlier column has as well, ignoring ASCII letter case. -/
def duplicateColumn? : List ColumnDef → List ColumnDef → Option ColumnDef
  | _, [] => none
  | earlier, c :: later =>
    if earlier.any fun e => Text.sameIgnoringCase e.name c.name then some c
    else duplicateColumn? (earlier ++ [c]) later

/-- A key with one more column, under its declared name, if it does not hold that column yet. -/
def addKeyColumn (columns : List ColumnDef) (key : List String) (name : String) :
    Except StatementError (List String) :=
  match columnIndex? columns name with
  | none => .error (.unknownKeyColumn name)
  | some i =>
    let declared := ((columns[i]?).getD default).name
    .ok (if key.contains declared then key else key ++ [declared])

/-- The declared names of key columns, each once, in the order of their first mention. -/
def canonicalKey (columns : List ColumnDef) (names : List String) :
    Except StatementError (List String) :=
  names.foldlM (addKeyColumn columns) []

/-- A new table with no rows. -/
def create (columns : List ColumnDef) (primaryKey : List String) : Except StatementError Table :=
  if columns.isEmpty then .error .noColumns
  else match duplicateColumn? [] columns with
    | some c => .error (.duplicateColumn c.name)
    | none => do return { columns, primaryKey := ← canonicalKey columns primaryKey }

/-- The positions of the key columns; a name without a column has none. -/
def keyIndices (t : Table) : List Nat := t.primaryKey.filterMap (columnIndex? t.columns)

/-- Do two rows have equal keys? -/
def sameKey (key : List Nat) (a b : Row) : Bool :=
  key.all fun i => (a.cell i).equals (b.cell i)

/-- Check rows one after the other against those before them: no key cell may be NULL, and no two
rows may have equal keys. -/
def checkKeysFrom (columns : List ColumnDef) (key : List Nat) :
    List Row → List Row → Except StatementError Unit
  | _, [] => .ok ()
  | earlier, row :: later =>
    match key.find? fun i => (row.cell i).isNull with
    | some i => .error (.nullKey ((columns[i]?).getD default).name)
    | none =>
      if earlier.any fun other => sameKey key other row then
        .error (.duplicateKey (key.map row.cell))
      else checkKeysFrom columns key (earlier ++ [row]) later

/-- Check the keys of rows; a table without a key admits every list of rows. -/
def checkKeys (t : Table) (rows : List Row) : Except StatementError Unit :=
  if t.keyIndices.isEmpty then .ok () else checkKeysFrom t.columns t.keyIndices [] rows

/-- The table with other rows, if their keys are in order. -/
def withRows (t : Table) (rows : List Row) : Except StatementError Table := do
  t.checkKeys rows
  return { t with rows }

/-! ## Insertion -/

/-- The columns an insertion writes, in the order of its values. -/
def insertTargets (t : Table) : Option (List String) → Except StatementError (List (Nat × ColumnDef))
  | none => .ok (t.columns.zipIdx.map fun c => (c.2, c.1))
  | some names => names.mapM (t.column .fieldList)

/-- The cells that values give for columns. -/
def cellWrites (targets : List (Nat × ColumnDef)) (values : List Value) :
    Except StatementError (List CellWrite) :=
  (targets.zip values).mapM fun ((i, c), v) => return ⟨i, ← c.type.coerce c.name v⟩

/-- The row that values make, with NULL in every column they do not name. `number` is the row's
place in the statement. -/
def newRow (t : Table) (targets : List (Nat × ColumnDef)) (number : Nat) (values : List Value) :
    Except StatementError Row :=
  if values.length != targets.length then .error (.wrongWidth number)
  else do return Row.write (List.replicate t.width .null) (← cellWrites targets values)

/-- The table with rows added at its end, and how many. -/
def insert (t : Table) (columns : Option (List String)) (rows : List (List Value)) :
    Except StatementError (Nat × Table) := do
  let targets ← t.insertTargets columns
  let added ← (rows.zipIdx 1).mapM fun (values, number) => t.newRow targets number values
  return (rows.length, ← t.withRows (t.rows ++ added))

/-! ## Selection -/

/-- The tests of a filter. A value that the type of its column rejects is compared as it is. -/
def tests (t : Table) (filter : List Condition) : Except StatementError (List CellTest) :=
  filter.mapM fun condition => do
    let (i, c) ← t.column .condition condition.column
    return match c.type.coerce c.name condition.value with
      | .ok value => ⟨i, value⟩
      | .error _ => ⟨i, condition.value⟩

/-- The names that a select list shows and the positions of its columns. -/
def shown (t : Table) : Projection → Except StatementError (List (String × Nat))
  | .all => .ok (t.columns.zipIdx.map fun c => (c.1.name, c.2))
  | .items items => items.mapM fun item => do
    let (i, c) ← t.column .fieldList item.column
    return (item.label.getD c.name, i)

/-- The rows that pass the filter, at most `limit` of them, as the select list shows them. -/
def select (t : Table) (projection : Projection) (filter : List Condition) (limit : Option Nat) :
    Except StatementError ResultSet := do
  let shown ← t.shown projection
  let tests ← t.tests filter
  let found := t.rows.filter (·.passes tests)
  let found := (limit.map found.take).getD found
  return .ofRows (shown.map (·.1)) (found.map fun row => shown.map fun s => (row.cell s.2).toText)

/-! ## Change and removal -/

/-- The cells that assignments write. -/
def assigned (t : Table) (assignments : List Assignment) :
    Except StatementError (List CellWrite) :=
  assignments.mapM fun a => do
    let (i, c) ← t.column .fieldList a.column
    return ⟨i, ← c.type.coerce c.name a.value⟩

/-- A row after an update: where it passes the tests it is padded to the columns and written. -/
def updateRow (width : Nat) (writes : List CellWrite) (tests : List CellTest) (row : Row) : Row :=
  if row.passes tests then (row.padded width).write writes else row

/-- The table with assignments carried out on every row that passes the filter, and how many rows
differ from before. -/
def update (t : Table) (assignments : List Assignment) (filter : List Condition) :
    Except StatementError (Nat × Table) := do
  let writes ← t.assigned assignments
  let tests ← t.tests filter
  let rows := t.rows.map (updateRow t.width writes tests)
  let changed := t.rows.countP fun row =>
    row.passes tests && !(updateRow t.width writes tests row).same row
  return (changed, ← t.withRows rows)

/-- The table without the rows that pass the filter, and how many those are. -/
def delete (t : Table) (filter : List Condition) : Except StatementError (Nat × Table) := do
  let tests ← t.tests filter
  let rows := t.rows.filter fun row => !row.passes tests
  return (t.rows.length - rows.length, { t with rows })

end Table

end WireSql
