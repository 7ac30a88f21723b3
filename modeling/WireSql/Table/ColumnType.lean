import WireSql.Text.Ascii
import WireSql.Text.Blank
import WireSql.Text.Search
import WireSql.Decimal.Integer

/-!
# `WireSql.Table.ColumnType`: the types of columns

A type is declared by one of several names in any letter case, with an optional length in
parentheses. Only the length of a character column is kept; for every other type a length must be
a number and is then dropped. `ColumnType.name` is the spelling that is shown.
-/

namespace WireSql

/-- The type of a column. -/
inductive ColumnType where
  /-- A small integer; held as a 64-bit integer all the same. -/
  | int
  | bigInt
  /-- A single-precision float; held as a 64-bit float all the same. -/
  | float
  | double
  /-- A text of at most `limit` characters. -/
  | varChar (limit : UInt32)
  | text
  /-- A date, held as text. -/
  | date
  /-- A date with a time, held as text. -/
  | dateTime
  | boolean
deriving DecidableEq, Repr, Inhabited

namespace ColumnType

/-- The limit of a character column that declares none. -/
def defaultLimit : UInt32 := 255

/-- The type with the given name in capital letters and the given declared length. -/
def named? (name : String) (length : Option Nat) : Option ColumnType :=
  if ["INT", "INTEGER", "TINYINT", "SMALLINT", "MEDIUMINT"].contains name then some int
  else if name == "BIGINT" then some bigInt
  else if ["FLOAT", "REAL"].contains name then some float
  else if ["DOUBLE", "DECIMAL", "NUMERIC"].contains name then some double
  else if ["VARCHAR", "CHAR"].contains name then
    some (varChar ((length.map UInt32.ofNat).getD defaultLimit))
  else if ["TEXT", "LONGTEXT", "MEDIUMTEXT"].contains name then some text
  else if name == "DATE" then some date
  else if ["DATETIME", "TIMESTAMP"].contains name then some dateTime
  else if ["BOOLEAN", "BOOL"].contains name then some boolean
  else none

/-- The length in `s`, the text behind an opening parenthesis. -/
def length? (s : List Char) : Option Nat :=
  match (Text.trimEnd s).reverse with
  | ')' :: r => Decimal.unsigned? 32 (Text.trim r.reverse)
  | _ => none

/-- The type that a text declares. -/
def ofChars? (s : List Char) : Option ColumnType :=
  let capitals (name : List Char) := String.ofList ((Text.trim name).map Char.toUpper)
  let s := Text.trim s
  match Text.splitAtFirst? '(' s with
  | none => named? (capitals s) none
  | some (name, rest) => (length? rest).bind fun n => named? (capitals name) (some n)

/-- The type that a text declares. -/
def ofText? (s : String) : Option ColumnType := ofChars? s.toList

/-- The spelling of a type. -/
def name : ColumnType → String
  | int => "INT"
  | bigInt => "BIGINT"
  | float => "FLOAT"
  | double => "DOUBLE"
  | varChar limit => s!"VARCHAR({limit.toNat})"
  | text => "TEXT"
  | date => "DATE"
  | dateTime => "DATETIME"
  | boolean => "BOOLEAN"

end ColumnType

/-- The declaration of a column. -/
structure ColumnDef where
  /-- The name, as it was declared. -/
  name : String
  type : ColumnType
deriving DecidableEq, Repr, Inhabited

end WireSql
