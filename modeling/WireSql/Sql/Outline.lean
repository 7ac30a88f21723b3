import WireSql.Text.Keyword
import WireSql.Text.DecimalDigit
import WireSql.Text.Search

/-!
# `WireSql.Sql.Outline`: the shape of a statement

The first step of reading a statement finds its keywords and cuts the text between them into
pieces, without looking inside the pieces: `Outline` names the kind of statement and holds the
pieces. Where a cut could be made at several places the rules are these.

* A name runs on to the next blank or, in front of a parenthesis, to that parenthesis.
* A table's body ends at the last closing parenthesis of the text.
* The name behind `INSERT INTO` is the longest one behind which `VALUES` can still be found.
* A projection is the shortest text behind which a `FROM` with a complete tail stands; the
  condition of a query is the shortest text behind which nothing or a row limit stands.
* The assignments of an update end at the first `WHERE`.
* `IF [NOT] EXISTS` is a guard where a name follows, and may itself be the name where none does.

The pieces are what later steps read; a piece may hold anything, keywords included.
-/

namespace WireSql.Sql

open Text

/-- A statement cut into its pieces. -/
inductive Outline where
  | createDatabase (guarded : Bool) (name : List Char)
  | dropDatabase (guarded : Bool) (name : List Char)
  | use (name : List Char)
  /-- `CREATE TABLE name (body)`. -/
  | createTable (guarded : Bool) (name body : List Char)
  | dropTable (guarded : Bool) (name : List Char)
  | showTables
  /-- `INSERT INTO name (columns) VALUES rows`. -/
  | insert (name : List Char) (columns : Option (List Char)) (rows : List Char)
  /-- `SELECT projection FROM name WHERE condition LIMIT limit`. -/
  | select (projection name : List Char) (condition limit : Option (List Char))
  /-- `UPDATE name SET assignments WHERE condition`. -/
  | update (name assignments : List Char) (condition : Option (List Char))
  /-- `DELETE FROM name WHERE condition`. -/
  | delete (name : List Char) (condition : Option (List Char))
deriving DecidableEq, Repr

namespace Outline

/-! ## Pieces -/

/-- Does a name in front of a parenthesis go on with `c`? -/
def inTableName (c : Char) : Bool := !isBlank c && c != '('

/-- The text as one name, without blanks in it. -/
def wholeName? (s : List Char) : Option (List Char) :=
  if s.isEmpty || s.any isBlank then none else some s

/-- The name at the front of a text, up to a blank, and what follows it. -/
def nameThen? (s : List Char) : Option (List Char × List Char) :=
  match s.span (!isBlank ·) with
  | ([], _) => none
  | m => some m

/-- Read a text with `k`, behind the guard where that is possible and without it otherwise. -/
def guarded? {α : Type} (guard : List String) (k : List Char → Option α) (s : List Char) :
    Option (Bool × α) :=
  match (afterPhrase? guard s).bind k with
  | some a => some (true, a)
  | none => (k s).map (false, ·)

/-- A row limit: the word `LIMIT` and digits up to the end of the text. -/
def limit? (s : List Char) : Option (List Char) := do
  let digits ← afterPhrase? ["LIMIT"] (← afterBlanks? s)
  if digits.isEmpty || !digits.all isDecimalDigit then none else some digits

/-- The end of a query: nothing, or a row limit. -/
def limitTail? : List Char → Option (Option (List Char))
  | [] => some none
  | s => (limit? s).map some

/-- What follows the word `WHERE`, which stands behind blanks. -/
def afterWhere? (s : List Char) : Option (List Char) := do
  afterPhrase? ["WHERE"] (← afterBlanks? s)

/-- The end of an update or a deletion: nothing, or a condition that takes up the rest. -/
def whereTail? : List Char → Option (Option (List Char))
  | [] => some none
  | s => (afterWhere? s).bind fun r => if r.isEmpty then none else some (some r)

/-- The condition and the row limit of a query. -/
def queryTail? (s : List Char) : Option (Option (List Char) × Option (List Char)) :=
  match (afterWhere? s).bind (shortestNonempty? (fun _ => true) limitTail?) with
  | some (condition, limit) => some (some condition, limit)
  | none => (limitTail? s).map (none, ·)

/-- The table of a query and what follows it, behind blanks and the word `FROM`. -/
def fromTail? (s : List Char) :
    Option (List Char × Option (List Char) × Option (List Char)) := do
  let (name, rest) ← nameThen? (← afterPhrase? ["FROM"] (← afterBlanks? s))
  some (name, ← queryTail? rest)

/-- The rows behind the word `VALUES`. -/
def values? (s : List Char) : Option (List Char) := do
  let rows := skipBlanks (← afterKeyword? "VALUES" s)
  if rows.isEmpty then none else some rows

/-- A column list in parentheses and the rows behind it. -/
def columnsThenValues? : List Char → Option (Option (List Char) × List Char)
  | '(' :: s => do
    let (columns, rest) ← splitAtFirst? ')' s
    some (some columns, ← values? (skipBlanks rest))
  | _ => none

/-- What follows the name of the table in an insertion. -/
def insertTail? (s : List Char) : Option (Option (List Char) × List Char) :=
  let s := skipBlanks s
  match columnsThenValues? s with
  | some m => some m
  | none => (values? s).map (none, ·)

/-- The name of a table and its body. -/
def tableBody? (s : List Char) : Option (List Char × List Char) :=
  match s.span inTableName with
  | ([], _) => none
  | (name, rest) =>
    match skipBlanks rest with
    | '(' :: r => (splitAtLast? ')' r).map fun m => (name, m.1)
    | _ => none

/-! ## Statements -/

/-- What follows a verb and one of the words for a database. -/
def afterDatabase? (verb : String) (s : List Char) : Option (List Char) := do
  let r ← afterPhrase? [verb] s
  afterBlanks? (← (afterKeyword? "DATABASE" r).or (afterKeyword? "SCHEMA" r))

/-- Recognise `CREATE DATABASE`. -/
def createDatabase? (s : List Char) : Option Outline := do
  let (guard, name) ← guarded? ["IF", "NOT", "EXISTS"] wholeName? (← afterDatabase? "CREATE" s)
  some (.createDatabase guard name)

/-- Recognise `DROP DATABASE`. -/
def dropDatabase? (s : List Char) : Option Outline := do
  let (guard, name) ← guarded? ["IF", "EXISTS"] wholeName? (← afterDatabase? "DROP" s)
  some (.dropDatabase guard name)

/-- Recognise `USE`. -/
def use? (s : List Char) : Option Outline := do
  some (.use (← wholeName? (← afterPhrase? ["USE"] s)))

/-- Recognise `CREATE TABLE`. -/
def createTable? (s : List Char) : Option Outline := do
  let r ← afterPhrase? ["CREATE", "TABLE"] s
  let (guard, name, body) ← guarded? ["IF", "NOT", "EXISTS"] tableBody? r
  some (.createTable guard name body)

/-- Recognise `DROP TABLE`. -/
def dropTable? (s : List Char) : Option Outline := do
  let r ← afterPhrase? ["DROP", "TABLE"] s
  let (guard, name) ← guarded? ["IF", "EXISTS"] wholeName? r
  some (.dropTable guard name)

/-- Recognise `SHOW TABLES`. -/
def showTables? (s : List Char) : Option Outline := do
  if (← afterWords? ["SHOW", "TABLES"] s).isEmpty then some .showTables else none

/-- Recognise `INSERT`. -/
def insert? (s : List Char) : Option Outline := do
  let r ← afterPhrase? ["INSERT", "INTO"] s
  let (name, columns, rows) ← longestNonempty? inTableName insertTail? r
  some (.insert name columns rows)

/-- Recognise `SELECT`. The blanks behind the word are as many as leave a projection that a `FROM`
follows. -/
def select? (s : List Char) : Option Outline := do
  let r ← afterKeyword? "SELECT" s
  let (_, projection, name, condition, limit) ←
    longestNonempty? isBlank (shortestNonempty? (fun _ => true) fromTail?) r
  some (.select projection name condition limit)

/-- Recognise `UPDATE`. -/
def update? (s : List Char) : Option Outline := do
  let (name, r) ← nameThen? (← afterPhrase? ["UPDATE"] s)
  let r ← afterPhrase? ["SET"] (← afterBlanks? r)
  let (assignments, condition) ← shortestNonempty? (fun _ => true) whereTail? r
  some (.update name assignments condition)

/-- Recognise `DELETE`. -/
def delete? (s : List Char) : Option Outline := do
  let (name, r) ← nameThen? (← afterPhrase? ["DELETE", "FROM"] s)
  some (.delete name (← whereTail? r))

/-- The recognisers, in the order in which they are tried. -/
def recognisers : List (List Char → Option Outline) :=
  [createDatabase?, dropDatabase?, use?, createTable?, dropTable?, showTables?, insert?, select?,
    update?, delete?]

/-- The outline of a statement, by the first recogniser that knows it. -/
def ofChars? (s : List Char) : Option Outline := recognisers.findSome? (· s)

end Outline

end WireSql.Sql
