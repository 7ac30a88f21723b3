import WireSql.Sql.Literal
import WireSql.Sql.Outline
import WireSql.Sql.Split
import WireSql.Sql.Statement
import WireSql.Text.Word

/-!
# `WireSql.Sql.Parser`: reading a statement

A statement is trimmed, freed of semicolons at its end, cut into an `Outline`, and its pieces are
read: `Statement.parse`. Names lose blanks and backticks around them; lists are cut at their top
level, so that separators inside quotes and parentheses do not count.

Of two faults in one statement the one named first here is reported: a row limit before the select
list, the select list or the assignments before the condition, an earlier item before a later one.
-/

namespace WireSql.Sql

open Text

/-! ## Names -/

/-- A name without the blanks and backticks around it. -/
def identifier (s : List Char) : String :=
  String.ofList (dropAroundWhile (· == backtick) (trim s))

/-- A table's name, with the name of its database in front of a point. -/
def tableRef (s : List Char) : TableRef :=
  match splitAtFirst? '.' s with
  | some (database, name) => ⟨some (identifier database), identifier name⟩
  | none => ⟨none, identifier s⟩

/-- May the name of a column in a condition hold `c`? -/
def inColumnName (c : Char) : Bool := c.isAlphanum || c == '_' || c == '$'

/-! ## Conditions and assignments -/

/-- The two sides of `column = value`. The left side must be a name, which keeps out comparisons
such as `!=` and `<=`. -/
def equality? (s : List Char) : Option (String × List Char) :=
  (splitAtFirst? '=' s).bind fun m =>
    let column := identifier m.1
    if !column.isEmpty && column.toList.all inColumnName then some (column, m.2) else none

/-- Read one condition. -/
def condition (s : List Char) : Except StatementError Condition :=
  match equality? s with
  | some (column, value) => return ⟨column, ← literal value⟩
  | none => .error (.badCondition (String.ofList (trim s)))

/-- Read conditions joined by `AND`. -/
def conditions (s : List Char) : Except StatementError (List Condition) :=
  (splitTopLevel .conjunction s).mapM condition

/-- Read the filter of a statement, which is empty where the statement has none. -/
def filter : Option (List Char) → Except StatementError (List Condition)
  | some s => conditions s
  | none => .ok []

/-- Read one assignment. -/
def assignment (s : List Char) : Except StatementError Assignment :=
  match equality? s with
  | some (column, value) => return ⟨column, ← literal value⟩
  | none => .error (.badAssignment (String.ofList (trim s)))

/-- Read assignments separated by commas. -/
def assignments (s : List Char) : Except StatementError (List Assignment) :=
  (splitTopLevel .comma s).mapM assignment

/-! ## Rows -/

/-- What stands inside the parentheses around a text. -/
def parenthesised? : List Char → Option (List Char)
  | '(' :: r => if r.getLast? == some ')' then some r.dropLast else none
  | _ => none

/-- Read the values of one row. -/
def row (s : List Char) : Except StatementError (List Value) :=
  let s := trim s
  match parenthesised? s with
  | some inner => (splitTopLevel .comma inner).mapM literal
  | none => .error (.badRow (String.ofList s))

/-- Read rows separated by commas. -/
def rows (s : List Char) : Except StatementError (List (List Value)) :=
  (splitTopLevel .comma s).mapM row

/-! ## Select lists -/

/-- The name behind the word `AS`, as the rest of an item; an item may also end here. -/
def labelTail? : List Char → Option (Option (List Char))
  | [] => some none
  | s => do some (some (← Outline.wholeName? (← afterPhrase? ["AS"] (← afterBlanks? s))))

/-- Read one item of a select list. -/
def selectItem (s : List Char) : Except StatementError SelectItem :=
  let s := trim s
  match (Outline.nameThen? s).bind fun m => (labelTail? m.2).map (m.1, ·) with
  | some (column, label) => .ok ⟨identifier column, label.map identifier⟩
  | none => .error (.badSelectItem (String.ofList s))

/-- Read a select list. -/
def projection (s : List Char) : Except StatementError Projection :=
  if trim s == ['*'] then .ok .all
  else (splitTopLevel .comma s).mapM selectItem |>.map .items

/-! ## Tables -/

/-- The key columns of a `PRIMARY KEY (…)` element. -/
def keyElement? (s : List Char) : Option (List Char) := do
  parenthesised? (skipBlanks (← afterWords? ["PRIMARY", "KEY"] s))

/-- Does the element declare an index or a constraint that is not kept? -/
def isIgnoredElement (s : List Char) : Bool :=
  ["KEY ", "INDEX ", "UNIQUE ", "CONSTRAINT "].any (startsIgnoringCase · s)

/-- The length in parentheses behind a type's name, up to its closing parenthesis, and the rest. -/
def lengthThen? (s : List Char) : Option (List Char × List Char) :=
  let blanks := s.takeWhile isBlank
  match skipBlanks s with
  | '(' :: r => (splitAtFirst? ')' r).map fun m => (blanks ++ '(' :: m.1 ++ [')'], m.2)
  | _ => none

/-- The name, the type and the rest of a column's declaration. -/
def columnParts? (s : List Char) : Option (List Char × List Char × List Char) := do
  let (name, r) ← Outline.nameThen? s
  let r ← afterBlanks? r
  let (type, rest) := r.span isLatinLetter
  if type.isEmpty then none
  else match lengthThen? rest with
    | some (length, rest) => some (name, type ++ length, rest)
    | none => some (name, type, rest)

/-- Does `PRIMARY KEY` stand in the text, as two whole words? -/
def declaresKey (s : List Char) : Bool :=
  (firstMatch? (fun before rest => do
    if before.any isWord then none
    else if atWordEnd (← afterWords? ["PRIMARY", "KEY"] rest) then some () else none)
    none s).isSome

/-- What the body of a table declares so far. -/
structure TableBody where
  columns : List ColumnDef := []
  primaryKey : List String := []
deriving DecidableEq, Repr

/-- Read the declaration of a column. -/
def columnElement (s : List Char) : Except StatementError TableBody :=
  match columnParts? s with
  | none => .error (.badColumn (String.ofList s))
  | some (name, type, rest) =>
    let name := identifier name
    match ColumnType.ofChars? type with
    | none => .error (.unknownType (String.ofList (trim type)) name)
    | some type => .ok ⟨[⟨name, type⟩], if declaresKey rest then [name] else []⟩

/-- Read one element of a table's body; an empty one declares nothing. -/
def tableElement (s : List Char) : Except StatementError TableBody :=
  let s := trim s
  if s.isEmpty then .ok {}
  else match keyElement? s with
    | some names => .ok { primaryKey := (splitTopLevel .comma names).map identifier }
    | none => if isIgnoredElement s then .ok {} else columnElement s

/-- Read the body of a table. -/
def tableBody (s : List Char) : Except StatementError TableBody := do
  let elements ← (splitTopLevel .comma s).mapM tableElement
  return ⟨elements.flatMap (·.columns), elements.flatMap (·.primaryKey)⟩

/-! ## Statements -/

/-- Read a row limit. -/
def limit : Option (List Char) → Except StatementError (Option Nat)
  | none => .ok none
  | some digits =>
    match Decimal.unsigned? 64 digits with
    | some n => .ok (some n)
    | none => .error (.badLimit (String.ofList digits))

/-- Read the pieces of a statement. -/
def Outline.toStatement : Outline → Except StatementError Statement
  | createDatabase guarded name => .ok (.createDatabase (identifier name) guarded)
  | dropDatabase guarded name => .ok (.dropDatabase (identifier name) guarded)
  | use name => .ok (.use (identifier name))
  | createTable guarded name body => do
    let body ← tableBody body
    return .createTable (tableRef name) guarded body.columns body.primaryKey
  | dropTable guarded name => .ok (.dropTable (tableRef name) guarded)
  | showTables => .ok .showTables
  | insert name columns values => do
    let columns := columns.map fun c => (splitTopLevel .comma c).map identifier
    return .insert (tableRef name) columns (← rows values)
  | select items name condition digits => do
    let limit ← limit digits
    let items ← projection items
    return .select (tableRef name) items (← filter condition) limit
  | update name items condition => do
    let items ← assignments items
    return .update (tableRef name) items (← filter condition)
  | delete name condition => return .delete (tableRef name) (← filter condition)

/-- The text of a statement without the blanks around it and the semicolons at its end. -/
def statementText (s : List Char) : List Char :=
  trimEnd (dropEndWhile (· == ';') (trim s))

end Sql

/-- Read a statement. -/
def Statement.parse (sql : String) : Except StatementError Statement :=
  let s := Sql.statementText sql.toList
  match Sql.Outline.ofChars? s with
  | some outline => outline.toStatement
  | none => .error (.unsupported (String.ofList s))

end WireSql
