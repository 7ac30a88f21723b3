import WireSql.Sql.Literal
import WireSql.Sql.Statement

/-!
# `WireSql.Sql.Printer`: the canonical text of a statement

`Statement.print` writes every statement in one form: keywords in capital letters, one space between
words, a comma and a space between the items of a list, every name between backticks. A text stands
between apostrophes with each apostrophe and each backslash in it written twice, so that no character
of the text can end it.

A float is written as results show it, so a whole one is read back as an integer, and one that is no
finite number is not read back at all. All other values are their own literals.
-/

namespace WireSql.Sql.Print

open Text

/-! ## Names and values -/

/-- Items with a comma and a space between them. -/
def list (items : List (List Char)) : List Char := List.intercalate [',', ' '] items

/-- A text between parentheses. -/
def parenthesised (s : List Char) : List Char := '(' :: (s ++ [')'])

/-- A name between backticks. -/
def identifier (name : String) : List Char := backtick :: (name.toList ++ [backtick])

/-- A table's name, behind the name of its database and a point where that is given. -/
def tableRef (t : TableRef) : List Char :=
  match t.database with
  | some database => identifier database ++ '.' :: identifier t.name
  | none => identifier t.name

/-- Names in parentheses. -/
def names (columns : List String) : List Char := parenthesised (list (columns.map identifier))

/-- A text with each apostrophe and each backslash written twice. -/
def escape : List Char → List Char
  | [] => []
  | c :: r => if c == apostrophe || c == backslash then c :: c :: escape r else c :: escape r

/-- A text as a literal. -/
def quoted (s : List Char) : List Char := apostrophe :: (escape s ++ [apostrophe])

/-- A value as a literal. -/
def value : Value → List Char
  | .null => "NULL".toList
  | .bool b => if b then "TRUE".toList else "FALSE".toList
  | .int i => i.toInt.repr.toList
  | .double x => (Decimal.plainText x).toList
  | .text s => quoted s.toList

/-! ## Parts of statements -/

/-- A row of values in parentheses. -/
def row (values : List Value) : List Char := parenthesised (list (values.map value))

/-- A column and a value with an equals sign between them. -/
def equation (column : String) (v : Value) : List Char :=
  identifier column ++ " = ".toList ++ value v

/-- The assignments of an update. -/
def assignments (items : List Assignment) : List Char :=
  list (items.map fun a => equation a.column a.value)

/-- Conditions with the word `AND` between them. -/
def conditions (items : List Condition) : List Char :=
  List.intercalate " AND ".toList (items.map fun c => equation c.column c.value)

/-- A filter behind the word `WHERE`; nothing for the empty one. -/
def filter : List Condition → List Char
  | [] => []
  | items => " WHERE ".toList ++ conditions items

/-- A row limit behind the word `LIMIT`; nothing where there is none. -/
def limit : Option Nat → List Char
  | none => []
  | some n => " LIMIT ".toList ++ Decimal.digits n

/-- An item of a select list, with the word `AS` in front of its label. -/
def selectItem (item : SelectItem) : List Char :=
  match item.label with
  | some label => identifier item.column ++ " AS ".toList ++ identifier label
  | none => identifier item.column

/-- A select list. -/
def projection : Projection → List Char
  | .all => ['*']
  | .items items => list (items.map selectItem)

/-- The declaration of a column. -/
def columnDef (c : ColumnDef) : List Char := identifier c.name ++ ' ' :: c.type.name.toList

/-- The declaration of a key; there is none for the empty key. -/
def key : List String → List (List Char)
  | [] => []
  | columns => ["PRIMARY KEY ".toList ++ names columns]

/-- The body of a table. -/
def tableBody (columns : List ColumnDef) (primaryKey : List String) : List Char :=
  parenthesised (list (columns.map columnDef ++ key primaryKey))

/-- The words of a guard, where the statement is guarded. -/
def guard (words : String) (guarded : Bool) : List Char := if guarded then words.toList else []

/-- The guard of a statement that creates. -/
def unlessThere : Bool → List Char := guard "IF NOT EXISTS "

/-- The guard of a statement that drops. -/
def ifThere : Bool → List Char := guard "IF EXISTS "

end WireSql.Sql.Print

namespace WireSql.Statement

open Sql

/-- The canonical text of a statement, as characters. -/
def chars : Statement → List Char
  | createDatabase name ifNotExists =>
    "CREATE DATABASE ".toList ++ Print.unlessThere ifNotExists ++ Print.identifier name
  | dropDatabase name ifExists =>
    "DROP DATABASE ".toList ++ Print.ifThere ifExists ++ Print.identifier name
  | use name => "USE ".toList ++ Print.identifier name
  | createTable table ifNotExists columns primaryKey =>
    "CREATE TABLE ".toList ++ Print.unlessThere ifNotExists ++ Print.tableRef table ++ ' ' ::
      Print.tableBody columns primaryKey
  | dropTable table ifExists =>
    "DROP TABLE ".toList ++ Print.ifThere ifExists ++ Print.tableRef table
  | showTables => "SHOW TABLES".toList
  | insert table columns rows =>
    let columns := match columns with
      | some columns => ' ' :: Print.names columns
      | none => []
    "INSERT INTO ".toList ++ Print.tableRef table ++ columns ++ " VALUES ".toList ++
      Print.list (rows.map Print.row)
  | select table projection filter limit =>
    "SELECT ".toList ++ Print.projection projection ++ " FROM ".toList ++ Print.tableRef table ++
      Print.filter filter ++ Print.limit limit
  | update table assignments filter =>
    "UPDATE ".toList ++ Print.tableRef table ++ " SET ".toList ++ Print.assignments assignments ++
      Print.filter filter
  | delete table filter => "DELETE FROM ".toList ++ Print.tableRef table ++ Print.filter filter

/-- The canonical text of a statement. -/
def print (s : Statement) : String := String.ofList s.chars

end WireSql.Statement

namespace WireSql.Sql.Print

open Text

/-! ## Reading texts back -/

theorem unescape_cons_of_plain {mark c : Char} (hb : c ≠ backslash) (hm : c ≠ mark)
    (r : List Char) : unescape mark (c :: r) = c :: unescape mark r := by
  cases r <;> simp [unescape, hb, hm]

/-- Undoing the escapes gives the text. -/
@[simp] theorem unescape_escape (s : List Char) : unescape apostrophe (escape s) = s := by
  induction s with
  | nil => rfl
  | cons c r ih =>
    by_cases hb : c = backslash
    · subst hb
      simpa [escape, unescape, escapedChar, backslash, apostrophe] using ih
    · by_cases hm : c = apostrophe
      · subst hm
        simpa [escape, unescape, backslash, apostrophe] using ih
      · rw [escape, if_neg (by simp [hb, hm]), unescape_cons_of_plain hb hm, ih]

end WireSql.Sql.Print
