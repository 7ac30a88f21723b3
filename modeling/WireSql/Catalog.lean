import WireSql.NameMap
import WireSql.Table.Basic

/-!
# `WireSql.Catalog`: databases and the tables in them

A catalog holds databases by name, a database its tables by name. Both names are told apart by
letter case. Every operation that changes a catalog answers the number to report and the new
catalog, or why it is refused.
-/

namespace WireSql

/-- A database: tables by name. -/
structure Database where
  tables : NameMap Table := .empty
deriving DecidableEq, Inhabited

/-- All databases by name. -/
structure Catalog where
  databases : NameMap Database := .empty
deriving DecidableEq, Inhabited

namespace Catalog

/-- The names of the databases, in ascending order. -/
def databaseNames (c : Catalog) : List String := c.databases.names

/-- Is there a database of this name? -/
def hasDatabase (c : Catalog) (name : String) : Bool := c.databases.contains name

/-- The database of a name. -/
def database (c : Catalog) (name : String) : Except StatementError Database :=
  match c.databases.find? name with
  | some d => .ok d
  | none => .error (.unknownDatabase name)

/-- A table of a database. -/
def table (c : Catalog) (database name : String) : Except StatementError Table := do
  match (← c.database database).tables.find? name with
  | some t => .ok t
  | none => .error (.unknownTable database name)

/-- The catalog with other tables in a database. -/
def setTables (c : Catalog) (database : String) (tables : NameMap Table) : Catalog :=
  { databases := c.databases.insert database { tables } }

/-- The catalog with a new, empty database, and one for its creation; none is created where one of
the name exists. -/
def createDatabase (c : Catalog) (name : String) (ifNotExists : Bool) :
    Except StatementError (Nat × Catalog) :=
  if c.hasDatabase name then
    if ifNotExists then .ok (0, c) else .error (.databaseExists name)
  else .ok (1, { databases := c.databases.insert name {} })

/-- The catalog without a database, and how many tables went with it. -/
def dropDatabase (c : Catalog) (name : String) (ifExists : Bool) :
    Except StatementError (Nat × Catalog) :=
  match c.databases.find? name with
  | some d => .ok (d.tables.size, { databases := c.databases.erase name })
  | none => if ifExists then .ok (0, c) else .error (.nothingToDrop name)

/-- The catalog with a new table; zero rows are touched. -/
def createTable (c : Catalog) (database name : String) (t : Table) (ifNotExists : Bool) :
    Except StatementError (Nat × Catalog) := do
  let d ← c.database database
  if d.tables.contains name then
    if ifNotExists then .ok (0, c) else .error (.tableExists name)
  else .ok (0, c.setTables database (d.tables.insert name t))

/-- The catalog without a table; zero rows are touched. -/
def dropTable (c : Catalog) (database name : String) (ifExists : Bool) :
    Except StatementError (Nat × Catalog) := do
  let d ← c.database database
  if d.tables.contains name then .ok (0, c.setTables database (d.tables.erase name))
  else if ifExists then .ok (0, c)
  else .error (.unknownTable database name)

/-- The catalog with a table changed by `change`, and the number that `change` reports. -/
def changeTable (c : Catalog) (database name : String)
    (change : Table → Except StatementError (Nat × Table)) :
    Except StatementError (Nat × Catalog) := do
  let d ← c.database database
  match d.tables.find? name with
  | none => .error (.unknownTable database name)
  | some t =>
    let (count, t) ← change t
    return (count, c.setTables database (d.tables.insert name t))

/-- Do two tables hold the same contents, floats being compared by their numbers? -/
def sameTable (a b : Table) : Bool :=
  a.columns == b.columns && a.primaryKey == b.primaryKey &&
    a.rows.length == b.rows.length && (List.zipWith Row.same a.rows b.rows).all id

/-- Do two maps hold the same names with the same things under them? -/
def sameEntries {α : Type} (same : α → α → Bool) (a b : NameMap α) : Bool :=
  a.names == b.names &&
    (List.zipWith (fun x y => same x.2 y.2) a.entries b.entries).all id

/-- Do two catalogs hold the same contents, floats being compared by their numbers? -/
def same (a b : Catalog) : Bool :=
  sameEntries (fun d e => sameEntries sameTable d.tables e.tables) a.databases b.databases

theorem find?_of_database {c : Catalog} {name : String} {d : Database} (h : c.database name = .ok d) :
    c.databases.find? name = some d := by
  unfold database at h
  split at h
  · next hfound => rw [hfound, Except.ok.inj h]
  · cases h

/-- A catalog with the tables of a database put back is the same catalog. -/
theorem setTables_of_find? {c : Catalog} {database : String} {d : Database}
    (h : c.databases.find? database = some d) : c.setTables database d.tables = c := by
  unfold setTables
  rw [NameMap.insert_of_find? h]

end Catalog

end WireSql
