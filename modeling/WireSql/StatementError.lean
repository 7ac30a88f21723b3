import WireSql.Error
import WireSql.Value
import WireSql.Table.ColumnType

/-!
# `WireSql.StatementError`: why a statement fails

Every way in which reading or running a statement can fail, with the facts its message needs. The
wording is `StatementError.message` and nowhere else; `StatementError.fault` sorts the causes into
the kinds that a client can tell apart by their code.
-/

namespace WireSql

/-- The part of a statement that names a column. -/
inductive ClausePart where
  /-- The columns to write or to show. -/
  | fieldList
  /-- The columns to compare. -/
  | condition
deriving DecidableEq, Repr

/-- What messages call the part of a statement. -/
def ClausePart.name : ClausePart → String
  | fieldList => "field list"
  | condition => "where clause"

/-- Why a statement fails. -/
inductive StatementError where
  /-- No statement of the language has this shape. -/
  | unsupported (sql : String)
  /-- The row limit is not a number that fits. -/
  | badLimit (digits : String)
  /-- An item of a list of assignments is no `column = value`. -/
  | badAssignment (item : String)
  | badLiteral (text : String)
  /-- An item of a list of rows is not in parentheses. -/
  | badRow (text : String)
  /-- An item of a select list is neither a column nor a column with another name. -/
  | badSelectItem (text : String)
  /-- A condition is no `column = value`. -/
  | badCondition (text : String)
  /-- An element of a table's body is no column. -/
  | badColumn (text : String)
  | unknownType (type column : String)
  | noColumns
  | duplicateColumn (name : String)
  | unknownKeyColumn (name : String)
  | unknownColumn (name : String) (part : ClausePart)
  | badValue (type : ColumnType) (value : Value) (column : String)
  /-- A text is longer than its column allows. -/
  | tooLong (column : String)
  /-- The row with this number, counted from one, has the wrong number of values. -/
  | wrongWidth (row : Nat)
  | nullKey (column : String)
  | duplicateKey (key : List Value)
  /-- No database is selected. -/
  | noDatabase
  | unknownDatabase (name : String)
  | unknownTable (database name : String)
  | databaseExists (name : String)
  /-- A database to drop does not exist. -/
  | nothingToDrop (name : String)
  | tableExists (name : String)
deriving DecidableEq

namespace StatementError

/-- The kind of fault. -/
def fault : StatementError → QueryFault
  | unsupported _ => .unsupported
  | badLimit _ | badAssignment _ | badLiteral _ | badRow _ | badSelectItem _ | badCondition _
  | badColumn _ | unknownType .. | noColumns => .malformed
  | unknownKeyColumn _ | unknownColumn .. | noDatabase | unknownDatabase _ | unknownTable .. =>
    .notFound
  | nullKey _ | duplicateKey _ => .constraint
  | duplicateColumn _ | badValue .. | tooLong _ | wrongWidth _ | databaseExists _
  | nothingToDrop _ | tableExists _ => .database

/-- What went wrong, in words for the client. -/
def message : StatementError → String
  | unsupported sql => s!"Unsupported statement: {sql}"
  | badLimit digits => s!"Invalid LIMIT: {digits}"
  | badAssignment item => s!"Expected column = value, got: {item}"
  | badLiteral text => s!"Unsupported value: {text}"
  | badRow text => s!"Expected a parenthesised row, got: {text}"
  | badSelectItem text => s!"Unsupported select item: {text}"
  | badCondition text => s!"Unsupported condition: {text}"
  | badColumn text => s!"Invalid column definition: {text}"
  | unknownType type column => s!"Unknown column type '{type}' for column '{column}'"
  | noColumns => "A table must have at least 1 column"
  | duplicateColumn name => s!"Duplicate column name '{name}'"
  | unknownKeyColumn name => s!"Key column '{name}' doesn't exist in table"
  | unknownColumn name part => s!"Unknown column '{name}' in '{part.name}'"
  | badValue type value column =>
    s!"Incorrect {type.name} value: '{value.display}' for column '{column}'"
  | tooLong column => s!"Data too long for column '{column}'"
  | wrongWidth row => s!"Column count doesn't match value count at row {row}"
  | nullKey column => s!"Column '{column}' cannot be null"
  | duplicateKey key =>
    let entry := "-".intercalate (key.map Value.display)
    s!"Duplicate entry '{entry}' for key 'PRIMARY'"
  | noDatabase => "No database selected"
  | unknownDatabase name => s!"Unknown database '{name}'"
  | unknownTable database name => s!"Table '{database}.{name}' doesn't exist"
  | databaseExists name => s!"Can't create database '{name}'; database exists"
  | nothingToDrop name => s!"Can't drop database '{name}'; database doesn't exist"
  | tableExists name => s!"Table '{name}' already exists"

/-- The failure as a store reports it. -/
def toQueryError (e : StatementError) : QueryError := { fault := e.fault, message := e.message }

end StatementError

end WireSql
