import WireSql.Introspection.Like
import WireSql.Introspection.Variable
import WireSql.ResultSet
import WireSql.Text.Search
import WireSql.Text.Word

/-!
# `WireSql.Introspection.Answer`: questions about the server itself

Some statements are about the server and not about anything stored: clients ask for variables,
character sets and databases, and set what they like. `answer` recognises them on a statement that
has been cleaned, and leaves every other statement to the store.

Looking for a scope in front of a variable's name can cut the name inside a character, which ends
the worker; the answer is then a `Crash`.
-/

namespace WireSql.Introspection

open Text

/-- What an answer can depend on beside the statement. -/
structure View where
  /-- The database that the session has selected. -/
  database : Option String := none
  databases : List String := []
deriving DecidableEq, Repr

/-! ## Databases -/

/-- The list of databases: those of every server, then the stored ones with other names. -/
def showDatabases (stored : List String) : ResultSet :=
  let others := stored.filter fun name => !systemDatabases.any (sameIgnoringCase · name)
  .ofRows ["Database"] ((systemDatabases ++ others).map fun name => [some name])

/-! ## Variables by name -/

/-- What follows the word `AS` behind blanks: a name without line ends in it. -/
def aliasTail? (s : List Char) : Option (List Char) := do
  let r ← afterPhrase? ["AS"] (← afterBlanks? s)
  if r.isEmpty || r.contains '\n' then none else some r

/-- An item of a list of variables: what it asks for and the name to show it under. -/
def itemParts (item : List Char) : List Char × Option (List Char) :=
  match shortest? (· != '\n') aliasTail? item with
  | some (asked, name) => (trim asked, some (dropAroundWhile (· == backtick) (trim name)))
  | none => (item, none)

/-- Does the list of items end here? -/
def atListEnd (s : List Char) : Bool :=
  match afterBlanks? s with
  | none => false
  | some r => ["FROM", "LIMIT", "WHERE"].any fun word =>
    ((afterKeyword? word r).bind List.head?).any isBlank

/-- The list of items in front of the next clause. -/
def itemList : List Char → List Char
  | [] => []
  | c :: r => if atListEnd (c :: r) then [] else c :: itemList r

/-- The items of a list, at every comma. -/
def splitAtCommas : List Char → List (List Char)
  | [] => [[]]
  | c :: r =>
    if c == ',' then [] :: splitAtCommas r
    else match splitAtCommas r with
      | part :: parts => (c :: part) :: parts
      | [] => [[c]]

/-- The column and the cell that answer one item. -/
def itemAnswer (database : Option String) (item : List Char) : Except Crash (String × Cell) := do
  let (asked, label) := itemParts item
  let labelled (name : String) := (label.map String.ofList).getD name
  if sameIgnoringCase (String.ofList asked) "DATABASE()" then
    return (labelled "DATABASE()", database)
  else
    let name := String.ofList (← withoutScope scopes (withoutMarks (trim asked)))
    return (labelled name, some ((variableValue? name).getD unknownValue))

/-- The answer to a list of variables, in one row; items without text are passed over. -/
def selectVariables (database : Option String) (list : List Char) : Except Crash ResultSet := do
  let items := ((splitAtCommas (itemList list)).map trim).filter (!·.isEmpty)
  let cells ← items.mapM (itemAnswer database)
  return .ofRows (cells.map (·.1)) [cells.map (·.2)]

/-! ## Variables by pattern -/

/-- Is `c` a quotation mark that encloses a pattern? -/
def isPatternMark (c : Char) : Bool := c == apostrophe || c == quotationMark

/-- The pattern behind the word `LIKE`, up to the next quotation mark of either kind. -/
def patternAt? (before : Option Char) (s : List Char) : Option (List Char) := do
  if before.any isWord then none
  match ← afterPhrase? ["LIKE"] s with
  | [] => none
  | c :: r =>
    let (pattern, rest) := r.span (!isPatternMark ·)
    if isPatternMark c && !rest.isEmpty then some pattern else none

/-- The first pattern in a statement. -/
def likePattern? (sql : List Char) : Option (List Char) := firstMatch? patternAt? none sql

/-- The variables whose names a pattern covers, or all where there is no pattern. -/
def showVariables (sql : List Char) : ResultSet :=
  let found : List (String × String) := match likePattern? sql with
    | some pattern => systemVariables.filter fun v => Like.coversChars pattern v.1.toList
    | none => systemVariables
  .ofRows ["Variable_name", "Value"] (found.map fun v => [some v.1, some v.2])

/-! ## Statements -/

/-- Does the statement begin with one of the texts, ignoring ASCII letter case? -/
def beginsWith (leads : List String) (sql : List Char) : Bool :=
  leads.any (startsIgnoringCase · sql)

/-- The answer to a statement about the server; `none` for a statement that the store must run. -/
def answer (view : View) (sql : String) : Except Crash (Option ResultSet) :=
  let s := sql.toList
  let is (text : String) := sameIgnoringCase sql text
  if is "SELECT 1" then .ok (some (.ofRows ["1"] [[some "1"]]))
  else if is "SHOW DATABASES" || is "SHOW SCHEMAS" then
    .ok (some (showDatabases view.databases))
  else if beginsWith ["SELECT @@", "SELECT DATABASE()"] s then
    (selectVariables view.database (s.drop "SELECT ".length)).map some
  else if beginsWith ["SHOW ENGINES"] s then
    .ok (some (.ofColumns ["Engine", "Support", "Comment"]))
  else if beginsWith ["SHOW CHARSET", "SHOW CHARACTER SET"] s then
    .ok (some (.ofColumns ["Charset", "Description"]))
  else if beginsWith ["SHOW COLLATION"] s then .ok (some (.ofColumns ["Collation", "Charset"]))
  else if beginsWith ["SHOW PLUGINS"] s then .ok (some (.ofColumns ["Name", "Status"]))
  else if beginsWith ["SHOW VARIABLES", "SHOW SESSION VARIABLES", "SHOW GLOBAL VARIABLES"] s then
    .ok (some (showVariables s))
  else if is "SET" || beginsWith ["SET "] s then .ok (some (.affected 0))
  else .ok none

end WireSql.Introspection
