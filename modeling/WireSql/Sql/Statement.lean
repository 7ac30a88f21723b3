import WireSql.Table.ColumnType
import WireSql.Value

/-!
# `WireSql.Sql.Statement`: the statements of the language

A statement names databases and tables, lists columns and holds literal values. A filter is a list
of conditions all of which must hold; the empty filter lets every row through.
-/

namespace WireSql

/-- A table's name, with the name of its database where that is given. -/
structure TableRef where
  /-- The database, where the statement names one. -/
  database : Option String
  name : String
deriving DecidableEq, Repr

/-- `column = value`, as a condition. -/
structure Condition where
  column : String
  value : Value
deriving DecidableEq

/-- `column = value`, as an assignment. -/
structure Assignment where
  column : String
  value : Value
deriving DecidableEq

/-- One item of a select list. -/
structure SelectItem where
  column : String
  /-- The name to show it under, where that differs. -/
  label : Option String
deriving DecidableEq, Repr

/-- The select list. -/
inductive Projection where
  | all
  | items (items : List SelectItem)
deriving DecidableEq, Repr

/-- A statement. -/
inductive Statement where
  | createDatabase (name : String) (ifNotExists : Bool)
  | dropDatabase (name : String) (ifExists : Bool)
  | use (name : String)
  | createTable (table : TableRef) (ifNotExists : Bool) (columns : List ColumnDef)
      (primaryKey : List String)
  | dropTable (table : TableRef) (ifExists : Bool)
  /-- List the tables of the current database. -/
  | showTables
  | insert (table : TableRef) (columns : Option (List String)) (rows : List (List Value))
  | select (table : TableRef) (projection : Projection) (filter : List Condition)
      (limit : Option Nat)
  | update (table : TableRef) (assignments : List Assignment) (filter : List Condition)
  | delete (table : TableRef) (filter : List Condition)
deriving DecidableEq

/-- Can running the statement change what is stored? -/
def Statement.isMutation : Statement → Bool
  | use _ | showTables | select .. => false
  | _ => true

end WireSql
