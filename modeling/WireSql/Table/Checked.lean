import WireSql.Table.Basic

/-!
# `WireSql.Table.Checked`: operations that stop at a wrong index

A table finds the positions of columns first and then reads and writes at these positions. `Table` passes
over a position where there is nothing. The operations here go through a table in the same way, but for them
that is an end of its own, `Stop.outOfRange`: no column is read and no cell is written unless it is there.
The cells of a stored row are read by `Row.cell`, for which a missing one is NULL.
-/

namespace WireSql

/-- Why a checked operation has no answer. -/
inductive Stop where
  | refused (e : StatementError)
  | outOfRange
deriving DecidableEq

/-- An answer, or why there is none. -/
abbrev Checked := Except Stop

namespace Checked

variable {α : Type}

/-- An outcome that no index has anything to do with. -/
def ofOutcome (x : Except StatementError α) : Checked α := x.mapError .refused

/-- What a list holds at an index. -/
def entry (l : List α) (i : Nat) : Checked α :=
  match l[i]? with
  | some a => .ok a
  | none => .error .outOfRange

/-- A row with another cell at an index. -/
def put (row : Row) (i : Nat) (v : Value) : Checked Row :=
  if i < row.length then .ok (row.set i v) else .error .outOfRange

/-- The position of a column that a statement names. -/
def position (t : Table) (part : ClausePart) (name : String) : Checked Nat :=
  match Table.columnIndex? t.columns name with
  | some i => .ok i
  | none => .error (.refused (.unknownColumn name part))

/-- The value that the column at a position stores for a literal. -/
def coerceAt (t : Table) (i : Nat) (v : Value) : Checked Value := do
  let c ← entry t.columns i
  ofOutcome (c.type.coerce c.name v)

/-! ## Keys -/

/-- Check rows one after the other against those before them. -/
def checkKeysFrom (columns : List ColumnDef) (key : List Nat) : List Row → List Row → Checked Unit
  | _, [] => .ok ()
  | earlier, row :: later =>
    match key.find? fun i => (row.cell i).isNull with
    | some i => do
      let c ← entry columns i
      .error (.refused (.nullKey c.name))
    | none =>
      if earlier.any fun other => Table.sameKey key other row then
        .error (.refused (.duplicateKey (key.map row.cell)))
      else checkKeysFrom columns key (earlier ++ [row]) later

/-- The table with other rows, if their keys are in order. -/
def withRows (t : Table) (rows : List Row) : Checked Table := do
  if t.keyIndices.isEmpty then pure () else checkKeysFrom t.columns t.keyIndices [] rows
  return { t with rows }

/-! ## Insertion -/

/-- The positions of the columns that an insertion writes. -/
def insertTargets (t : Table) : Option (List String) → Checked (List Nat)
  | none => .ok (List.range t.width)
  | some names => names.mapM (position t .fieldList)

/-- A row with one more cell written, of the kind that its column stores. -/
def writeCell (t : Table) (row : Row) (write : Nat × Value) : Checked Row := do
  put row write.1 (← coerceAt t write.1 write.2)

/-- The row that values make. -/
def newRow (t : Table) (targets : List Nat) (number : Nat) (values : List Value) : Checked Row :=
  if values.length != targets.length then .error (.refused (.wrongWidth number))
  else (targets.zip values).foldlM (writeCell t) (List.replicate t.width .null)

/-- The table with rows added at its end, and how many. -/
def insert (t : Table) (columns : Option (List String)) (rows : List (List Value)) :
    Checked (Nat × Table) := do
  let targets ← insertTargets t columns
  let added ← (rows.zipIdx 1).mapM fun (values, number) => newRow t targets number values
  return (rows.length, ← withRows t (t.rows ++ added))

/-! ## Selection -/

/-- The test that a condition becomes. -/
def test (t : Table) (condition : Condition) : Checked CellTest := do
  let i ← position t .condition condition.column
  let c ← entry t.columns i
  return match c.type.coerce c.name condition.value with
    | .ok value => ⟨i, value⟩
    | .error _ => ⟨i, condition.value⟩

/-- The name under which an item of a select list is shown, and the position of its column. -/
def shownItem (t : Table) (item : SelectItem) : Checked (String × Nat) := do
  let i ← position t .fieldList item.column
  match item.label with
  | some label => return (label, i)
  | none => return ((← entry t.columns i).name, i)

/-- The names that a select list shows and the positions of its columns. -/
def shown (t : Table) : Projection → Checked (List (String × Nat))
  | .all => .ok (t.columns.zipIdx.map fun c => (c.1.name, c.2))
  | .items items => items.mapM (shownItem t)

/-- The rows that pass the filter, at most `limit` of them, as the select list shows them. -/
def select (t : Table) (projection : Projection) (filter : List Condition) (limit : Option Nat) :
    Checked ResultSet := do
  let shown ← shown t projection
  let tests ← filter.mapM (test t)
  let found := t.rows.filter (·.passes tests)
  let found := (limit.map found.take).getD found
  return .ofRows (shown.map (·.1)) (found.map fun row => shown.map fun s => (row.cell s.2).toText)

/-! ## Change and removal -/

/-- The cell that an assignment writes. -/
def assignedCell (t : Table) (a : Assignment) : Checked CellWrite := do
  let i ← position t .fieldList a.column
  return ⟨i, ← coerceAt t i a.value⟩

/-- A row after an update. -/
def updateRow (width : Nat) (writes : List CellWrite) (tests : List CellTest) (row : Row) : Checked Row :=
  if row.passes tests then writes.foldlM (fun r w => put r w.index w.value) (row.padded width)
  else .ok row

/-- The table with assignments carried out on every row that passes the filter, and how many rows
differ from before. -/
def update (t : Table) (assignments : List Assignment) (filter : List Condition) :
    Checked (Nat × Table) := do
  let writes ← assignments.mapM (assignedCell t)
  let tests ← filter.mapM (test t)
  let rows ← t.rows.mapM (updateRow t.width writes tests)
  let changed := (t.rows.zip rows).countP fun (before, row) => before.passes tests && !row.same before
  return (changed, ← withRows t rows)

/-- The table without the rows that pass the filter, and how many those are. -/
def delete (t : Table) (filter : List Condition) : Checked (Nat × Table) := do
  let tests ← filter.mapM (test t)
  let rows := t.rows.filter fun row => !row.passes tests
  return (t.rows.length - rows.length, { t with rows })

end Checked

end WireSql
