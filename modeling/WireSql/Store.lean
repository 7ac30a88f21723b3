import WireSql.Snapshot
import WireSql.Sql.Parser

/-!
# `WireSql.Store`: running statements

A store is a catalog with, perhaps, a file that keeps its snapshot. A statement runs against the
catalog and the database the session has selected: `run` answers the result and the new catalog, or
why the statement fails, in which case nothing has changed. `Store.execute` reads a text first, and
after a statement that may have changed the catalog writes the snapshot anew.

The file is a value here. The outer layer holds the real one and writes it when the value changes.
-/

namespace WireSql

/-! ## Statements -/

/-- The database that the session has selected. -/
def currentDatabase (database : Option String) : Except StatementError String :=
  match database with
  | some name => .ok name
  | none => .error .noDatabase

/-- The database of a table: the one its name gives, or else the one the session has selected. -/
def TableRef.resolve (t : TableRef) (database : Option String) : Except StatementError String :=
  match t.database with
  | some name => .ok name
  | none => currentDatabase database

/-- A change of the catalog as the result of a statement. -/
def affecting (change : Except StatementError (Nat × Catalog)) :
    Except StatementError (ResultSet × Catalog) :=
  change.map fun m => (.affected m.1, m.2)

/-- Run a statement against a catalog, with the session's database. -/
def Catalog.run (c : Catalog) (statement : Statement) (database : Option String) :
    Except StatementError (ResultSet × Catalog) :=
  match statement with
  | .use name => do
    let _ ← c.database name
    return (.affected 0, c)
  | .showTables => do
    let name ← currentDatabase database
    let tables := (← c.database name).tables.names
    return (.ofRows [s!"Tables_in_{name}"] (tables.map fun t => [some t]), c)
  | .select table projection filter limit => do
    let t ← c.table (← table.resolve database) table.name
    return (← t.select projection filter limit, c)
  | .createDatabase name ifNotExists => affecting (c.createDatabase name ifNotExists)
  | .dropDatabase name ifExists => affecting (c.dropDatabase name ifExists)
  | .createTable table ifNotExists columns primaryKey => do
    let name ← table.resolve database
    let t ← Table.create columns primaryKey
    affecting (c.createTable name table.name t ifNotExists)
  | .dropTable table ifExists => do
    affecting (c.dropTable (← table.resolve database) table.name ifExists)
  | .insert table columns rows => do
    let name ← table.resolve database
    affecting (c.changeTable name table.name fun t => t.insert columns rows)
  | .update table assignments filter => do
    let name ← table.resolve database
    affecting (c.changeTable name table.name fun t => t.update assignments filter)
  | .delete table filter => do
    let name ← table.resolve database
    affecting (c.changeTable name table.name fun t => t.delete filter)

/-! ## Stores -/

/-- The file that keeps a snapshot; it holds no text before the first one is written. -/
structure SnapshotFile where
  /-- What the file holds, where it exists. -/
  text : Option String := none
deriving DecidableEq, Repr

/-- A catalog, and the file that keeps its snapshot where there is one. -/
structure Store where
  catalog : Catalog := {}
  /-- The file that is written anew after every change. -/
  autosave : Option SnapshotFile := none
deriving DecidableEq, Inhabited

namespace Store

/-- The error of a text that is no snapshot. -/
def unreadable : Error := .document "the text is not a snapshot of a catalog"

/-- A store with the catalog of a snapshot and no file of its own. -/
def load (text : String) : Except Error Store :=
  match Snapshot.read? text with
  | some catalog => .ok { catalog }
  | none => .error unreadable

/-- A store that keeps its snapshot in a file: it has the catalog of the file where the file
exists, and starts empty otherwise. -/
def openFile (file : SnapshotFile) : Except Error Store :=
  match file.text with
  | some text => (load text).map fun s => { s with autosave := some file }
  | none => .ok { autosave := some file }

/-- The store after its file, where it has one, has been written anew. -/
def save (s : Store) : Store :=
  { s with autosave := s.autosave.map fun _ => { text := some (Snapshot.text s.catalog) } }

/-- Run the text of a statement with the session's database. -/
def execute (s : Store) (sql : String) (database : Option String) :
    Except StatementError (ResultSet × Store) := do
  let statement ← Statement.parse sql
  let (result, catalog) ← s.catalog.run statement database
  let s := { s with catalog }
  return (result, if statement.isMutation then s.save else s)

end Store

end WireSql
