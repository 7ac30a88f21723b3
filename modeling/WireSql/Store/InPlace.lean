import WireSql.Store
import WireSql.Table.InPlace

/-!
# `WireSql.Store.InPlace`: running statements on a catalog in memory

The operations of `Catalog` and `Store` as programs on a catalog that stands in memory. Each looks names
up, checks and writes in an order of its own: dropping a database removes it before anything is checked,
and a table is changed where it stands, whatever comes of it. `InPlace.execute` is what serves a client.
-/

namespace WireSql.InPlace

variable {α : Type}

/-! ## Catalogs -/

/-- Create a database, and answer how many were created. -/
def createDatabase (name : String) (ifNotExists : Bool) : InPlace Catalog Nat := do
  if (← get).hasDatabase name then
    if ifNotExists then return 0 else throw (.databaseExists name)
  else
    modify fun c => { databases := c.databases.insert name {} }
    return 1

/-- Drop a database, and answer how many tables went with it. -/
def dropDatabase (name : String) (ifExists : Bool) : InPlace Catalog Nat := do
  let found := (← get).databases.find? name
  modify fun c => { databases := c.databases.erase name }
  match found with
  | some d => return d.tables.size
  | none => if ifExists then return 0 else throw (.nothingToDrop name)

/-- Create a table; zero rows are touched. -/
def createTable (database name : String) (t : Table) (ifNotExists : Bool) : InPlace Catalog Nat := do
  let d ← (← get).database database
  if d.tables.contains name then
    if ifNotExists then return 0 else throw (.tableExists name)
  else
    modify fun c => c.setTables database (d.tables.insert name t)
    return 0

/-- Drop a table; zero rows are touched. -/
def dropTable (database name : String) (ifExists : Bool) : InPlace Catalog Nat := do
  let d ← (← get).database database
  modify fun c => c.setTables database (d.tables.erase name)
  if !d.tables.contains name && !ifExists then throw (.unknownTable database name)
  else return 0

/-- Run a program on a table where it stands in the catalog. -/
def atTable (database name : String) (p : InPlace Table α) : InPlace Catalog α := do
  let d ← (← get).database database
  match d.tables.find? name with
  | none => throw (.unknownTable database name)
  | some t => within (fun _ => t) (fun c t => c.setTables database (d.tables.insert name t)) p

/-! ## Statements -/

/-- The number that a change reports as the result of a statement. -/
def reporting (p : InPlace Catalog Nat) : InPlace Catalog ResultSet := do
  return .affected (← p)

/-- Run a statement, with the session's database. -/
def run (statement : Statement) (database : Option String) : InPlace Catalog ResultSet :=
  match statement with
  | .use .. | .showTables | .select .. => do return (← (← get).run statement database).1
  | .createDatabase name ifNotExists => reporting (createDatabase name ifNotExists)
  | .dropDatabase name ifExists => reporting (dropDatabase name ifExists)
  | .createTable table ifNotExists columns primaryKey => do
    let name ← table.resolve database
    let t ← Table.create columns primaryKey
    reporting (createTable name table.name t ifNotExists)
  | .dropTable table ifExists => do
    reporting (dropTable (← table.resolve database) table.name ifExists)
  | .insert table columns rows => do
    reporting (atTable (← table.resolve database) table.name (insert columns rows))
  | .update table assignments filter => do
    reporting (atTable (← table.resolve database) table.name (update assignments filter))
  | .delete table filter => do
    reporting (atTable (← table.resolve database) table.name (delete filter))

/-- Run the text of a statement, with the session's database, and write the snapshot anew after a
statement that may have changed the catalog. -/
def execute (sql : String) (database : Option String) : InPlace Store ResultSet := do
  let statement ← Statement.parse sql
  let result ← within Store.catalog (fun s catalog => { s with catalog }) (run statement database)
  if statement.isMutation then modify Store.save
  return result

end WireSql.InPlace
