import WireSql.Text.Ascii
import WireSql.Text.Utf8

/-!
# `WireSql.Introspection.Variable`: the variables of the system

Clients ask for variables right after their login. The values here are fixed. A variable is found by
its bare name, ignoring ASCII letter case; a question may put a scope in front of the name.
-/

namespace WireSql.Introspection

/-- The databases that every server lists, in this order. -/
def systemDatabases : List String := ["information_schema", "mysql", "performance_schema", "sys"]

/-- The value told for a variable that is not known. -/
def unknownValue : String := "mock_value"

/-- The variables and their values. -/
def systemVariables : List (String × String) := [
  ("autocommit", "ON"),
  ("auto_increment_increment", "1"),
  ("character_set_client", "utf8mb4"),
  ("character_set_connection", "utf8mb4"),
  ("character_set_database", "utf8mb4"),
  ("character_set_results", "utf8mb4"),
  ("character_set_server", "utf8mb4"),
  ("collation_connection", "utf8mb4_general_ci"),
  ("collation_database", "utf8mb4_general_ci"),
  ("collation_server", "utf8mb4_general_ci"),
  ("init_connect", ""),
  ("interactive_timeout", "28800"),
  ("license", "GPL"),
  ("lower_case_table_names", "0"),
  ("max_allowed_packet", "67108864"),
  ("max_connections", "151"),
  ("net_write_timeout", "60"),
  ("performance_schema", "ON"),
  ("port", "2883"),
  ("protocol_version", "10"),
  ("query_cache_size", "0"),
  ("query_cache_type", "OFF"),
  ("server_id", "1"),
  ("sql_mode", "STRICT_TRANS_TABLES,NO_ENGINE_SUBSTITUTION"),
  ("system_time_zone", "UTC"),
  ("time_zone", "SYSTEM"),
  ("transaction_isolation", "REPEATABLE-READ"),
  ("version", "5.7+"),
  ("version_comment", "MySQL Mock Server"),
  ("wait_timeout", "28800")]

/-- The value of a variable. -/
def variableValue? (name : String) : Option String :=
  (systemVariables.find? fun v => Text.sameIgnoringCase v.1 name).map Prod.snd

/-! ## Scopes -/

/-- The end of a worker that cuts a text inside a character. Scopes are looked for by their number
of bytes; a name whose bytes at that place belong to one character cannot be cut there. -/
inductive Crash where
  | cutInsideCharacter
deriving DecidableEq, Repr

/-- What a cut at a number of bytes finds. -/
inductive ByteCut where
  /-- The text has fewer bytes. -/
  | short
  | inside
  /-- The text before the place and the text behind it. -/
  | at (before after : List Char)
deriving DecidableEq, Repr

/-- Cut a text behind a number of bytes of its UTF-8 form. -/
def cutAtByte : Nat → List Char → ByteCut
  | 0, s => .at [] s
  | _ + 1, [] => .short
  | n + 1, c :: r =>
    if c.utf8Size ≤ n + 1 then
      match cutAtByte (n + 1 - c.utf8Size) r with
      | .at before after => .at (c :: before) after
      | other => other
    else .inside

/-- The scopes that may stand in front of a name, in the order in which they are looked for. -/
def scopes : List String := ["session.", "global.", "local."]

/-- A name without the first of the scopes that stands in front of it. -/
def withoutScope : List String → List Char → Except Crash (List Char)
  | [], name => .ok name
  | scope :: others, name =>
    match cutAtByte scope.length name with
    | .short => withoutScope others name
    | .inside => .error .cutInsideCharacter
    | .at before after =>
      if Text.sameIgnoringCase (String.ofList before) scope then .ok after
      else withoutScope others name

/-- A name without the pairs of `@` in front of it. -/
def withoutMarks : List Char → List Char
  | '@' :: '@' :: r => withoutMarks r
  | s => s

end WireSql.Introspection
