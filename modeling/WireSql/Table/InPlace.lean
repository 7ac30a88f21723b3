import WireSql.Table.Basic

/-!
# `WireSql.Table.InPlace`: changing a table where it stands

A server keeps its tables in memory and changes them there. An `InPlace` program works on such a place:
it reads and overwrites what stands in it, and what it has written stays written when it fails later.

`InPlace.insert` and `InPlace.update` go through their rows one after the other. They stage the rows in a
list of their own and overwrite those of the table at the very end; `InPlace.delete` has nothing left to
check once it begins to write.
-/

namespace WireSql

/-- A program that works on a place in memory. A failure undoes nothing. -/
abbrev InPlace (σ : Type) := ExceptT StatementError (StateM σ)

namespace InPlace

variable {σ τ α : Type}

/-- The outcome of a program, and what its place holds afterwards. -/
def exec (p : InPlace σ α) (s : σ) : Except StatementError α × σ := ((ExceptT.run p).run s).run

/-- Run a program on a part of a place, and put back whatever it leaves there. -/
def within (get : σ → τ) (put : σ → τ → σ) (p : InPlace τ α) : InPlace σ α :=
  ExceptT.mk fun s =>
    let (outcome, part) := p.exec (get s)
    pure (outcome, put s part)

/-! ## Insertion -/

/-- A row with one more cell written, of the kind that its column stores. -/
def writeCell (row : Row) (write : (Nat × ColumnDef) × Value) : Except StatementError Row := do
  let ((i, c), v) := write
  return row.set i (← c.type.coerce c.name v)

/-- The staged rows and one more, made of the values of a numbered row of the statement. -/
def stageRow (t : Table) (targets : List (Nat × ColumnDef)) (staged : List Row)
    (numbered : List Value × Nat) : Except StatementError (List Row) :=
  let (values, number) := numbered
  if values.length != targets.length then .error (.wrongWidth number)
  else do return staged ++ [← (targets.zip values).foldlM writeCell (List.replicate t.width .null)]

/-- The rows of a table and those of a statement behind them. -/
def stageRows (t : Table) (targets : List (Nat × ColumnDef)) (rows : List (List Value)) :
    Except StatementError (List Row) :=
  (rows.zipIdx 1).foldlM (stageRow t targets) t.rows

/-- Add rows to a table, and answer how many. -/
def insert (columns : Option (List String)) (rows : List (List Value)) : InPlace Table Nat := do
  let t ← get
  let targets ← t.insertTargets columns
  let staged ← stageRows t targets rows
  t.checkKeys staged
  modify fun t => { t with rows := staged }
  return rows.length

/-! ## Change and removal -/

/-- The staged rows and the next row of the table, written where it passes the tests, with the number of
rows that differ from before. -/
def stageUpdate (width : Nat) (writes : List CellWrite) (tests : List CellTest)
    (staged : List Row × Nat) (row : Row) : List Row × Nat :=
  if row.passes tests then
    let changed := (row.padded width).write writes
    (staged.1 ++ [changed], if changed.same row then staged.2 else staged.2 + 1)
  else (staged.1 ++ [row], staged.2)

/-- Carry out assignments on every row that passes the filter, and answer how many rows differ. -/
def update (assignments : List Assignment) (filter : List Condition) : InPlace Table Nat := do
  let t ← get
  let writes ← t.assigned assignments
  let tests ← t.tests filter
  let (staged, changed) := t.rows.foldl (stageUpdate t.width writes tests) ([], 0)
  t.checkKeys staged
  modify fun t => { t with rows := staged }
  return changed

/-- Remove the rows that pass the filter, and answer how many. -/
def delete (filter : List Condition) : InPlace Table Nat := do
  let t ← get
  let tests ← t.tests filter
  modify fun t => { t with rows := t.rows.filter fun row => !row.passes tests }
  return t.rows.length - (← get).rows.length

end InPlace

end WireSql
