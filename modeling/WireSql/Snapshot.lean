import WireSql.Catalog
import WireSql.Json.Parser
import WireSql.Json.Printer
import WireSql.Json.Reader

/-!
# `WireSql.Snapshot`: a catalog as a document

A snapshot is the whole catalog as one JSON text. `Snapshot.text` writes it and `Snapshot.read?`
reads it. A float that is no number, or not finite, is written as `null` and cannot be read again;
every other catalog comes back as it was.

A reader of a snapshot checks the form of the document and nothing else: rows may be shorter or
longer than the columns of their table, and keys may name columns that do not exist.
-/

namespace WireSql.Snapshot

open Json

/-! ## Writing -/

/-- An object with the given members. -/
def record (members : List (String × Json)) : Json :=
  object (members.map fun m => (some m.1, m.2))

/-- A choice with contents. -/
def choice (name : String) (contents : Json) : Json := record [(name, contents)]

/-- The document of a column type. -/
def ofColumnType : ColumnType → Json
  | .int => ofString "Int"
  | .bigInt => ofString "BigInt"
  | .float => ofString "Float"
  | .double => ofString "Double"
  | .varChar limit => choice "VarChar" (ofNat limit.toNat)
  | .text => ofString "Text"
  | .date => ofString "Date"
  | .dateTime => ofString "DateTime"
  | .boolean => ofString "Boolean"

/-- The document of a value. -/
def ofValue : Value → Json
  | .null => ofString "Null"
  | .bool b => choice "Bool" (.bool b)
  | .int i => choice "BigInt" (ofInt i.toInt)
  | .double x => choice "Double" (ofFloat x)
  | .text s => choice "Text" (ofString s)

/-- The document of a column's declaration. -/
def ofColumnDef (c : ColumnDef) : Json :=
  record [("name", ofString c.name), ("column_type", ofColumnType c.type)]

/-- The document of a table. -/
def ofTable (t : Table) : Json :=
  record [
    ("columns", array (t.columns.map ofColumnDef)),
    ("primary_key", array (t.primaryKey.map ofString)),
    ("rows", array (t.rows.map fun row => array (row.map ofValue)))]

/-- The document of a map. -/
def ofMap {α : Type} (write : α → Json) (m : NameMap α) : Json :=
  record (m.entries.map fun e => (e.1, write e.2))

/-- The document of a database. -/
def ofDatabase (d : Database) : Json := record [("tables", ofMap ofTable d.tables)]

/-- The document of a catalog. -/
def ofCatalog (c : Catalog) : Json := record [("databases", ofMap ofDatabase c.databases)]

/-- The text of a catalog's snapshot. -/
def text (c : Catalog) : String := String.ofList (ofCatalog c).render

/-! ## Reading -/

/-- The type that a document holds. -/
def columnType? (j : Json) : Option ColumnType := do
  let (name, contents) ← asChoice? j
  if name == "VarChar" then
    return .varChar (UInt32.ofNat (← contents.bind (asNat? 32)))
  else if !isBare contents then none
  else if name == "Int" then some .int
  else if name == "BigInt" then some .bigInt
  else if name == "Float" then some .float
  else if name == "Double" then some .double
  else if name == "Text" then some .text
  else if name == "Date" then some .date
  else if name == "DateTime" then some .dateTime
  else if name == "Boolean" then some .boolean
  else none

/-- The value that a document holds. -/
def value? (j : Json) : Option Value := do
  let (name, contents) ← asChoice? j
  if name == "Null" then (if isBare contents then some .null else none)
  else if name == "Bool" then (contents.bind asBool?).map .bool
  else if name == "BigInt" then (contents.bind asInt64?).map .int
  else if name == "Double" then (contents.bind asFloat?).map .double
  else if name == "Text" then (contents.bind asString?).map .text
  else none

/-- The declaration of a column that a document holds. -/
def columnDef? (j : Json) : Option ColumnDef :=
  match asRecord? ["name", "column_type"] j with
  | some [name, type] => do
    return { name := ← required? asString? name, type := ← required? columnType? type }
  | _ => none

/-- The table that a document holds. Only the columns have to be there. -/
def table? (j : Json) : Option Table :=
  match asRecord? ["columns", "primary_key", "rows"] j with
  | some [columns, key, rows] => do
    return {
      columns := ← required? (asList? columnDef?) columns
      primaryKey := ← withDefault? [] (asList? asString?) key
      rows := ← withDefault? [] (asList? (asList? value?)) rows }
  | _ => none

/-- The database that a document holds. -/
def database? (j : Json) : Option Database :=
  match asRecord? ["tables"] j with
  | some [tables] => do return { tables := ← withDefault? .empty (asMap? table?) tables }
  | _ => none

/-- The catalog that a document holds. -/
def catalog? (j : Json) : Option Catalog :=
  match asRecord? ["databases"] j with
  | some [databases] => do
    return { databases := ← withDefault? .empty (asMap? database?) databases }
  | _ => none

/-- Read the text of a snapshot. -/
def read? (text : String) : Option Catalog := (parse? text.toList).bind catalog?

end WireSql.Snapshot
