import WireSql.Text.Utf8

/-!
# `WireSql.Error`: everything that can go wrong on a connection

An error is answered with an error packet, which carries a numeric code, a five-character state and
a text. `Error.code`, `Error.sqlState` and `Error.message` give the three. Only errors that leave
no way to answer (`Error.isFatal`) end the connection.

A store reports a failed statement as a `QueryError`; the connection adds the statement's text.
-/

namespace WireSql

/-- What kind of fault a statement failed with. -/
inductive QueryFault where
  | malformed
  /-- A database, table or column is missing. -/
  | notFound
  | unsupported
  /-- A key would be violated. -/
  | constraint
  /-- Anything else the store refuses. -/
  | database
deriving DecidableEq, Repr

/-- A failed statement. -/
structure QueryError where
  fault : QueryFault
  message : String
  sql : Option String := none
  /-- What lies behind the failure, where something does. -/
  cause : Option String := none
deriving DecidableEq, Repr

/-- A frame that announces or holds more than is allowed. -/
structure FramingError where
  /-- The length of the payload. -/
  declared : Nat
  /-- The greatest length allowed. -/
  limit : Nat
deriving DecidableEq, Repr

/-- Why a login failed. -/
inductive LoginFault where
  /-- The response does not prove the password. -/
  | rejected
  /-- The client answered with a scheme that cannot be verified. -/
  | unsupportedPlugin
deriving DecidableEq, Repr

/-- An error of a connection or of its surroundings. -/
inductive Error where
  /-- A frame is too long. -/
  | framing (e : FramingError)
  /-- A payload is cut short or not of its form. -/
  | protocol (detail : String) (raw : Option Bytes) (cause : Option String)
  | login (fault : LoginFault) (user detail : String)
  /-- A command is not known. -/
  | command (code : UInt8) (detail : String)
  | query (e : QueryError)
  /-- A database to switch to does not exist. -/
  | unknownDatabase (name : String)
  | config (detail : String) (cause : Option String)
  /-- The operating system refused something. -/
  | system (detail : String)
  /-- Nothing arrived for too long. -/
  | timeout
  | document (detail : String)
  /-- Any other error. -/
  | custom (detail : String)
deriving DecidableEq, Repr

/-- The text of a framing error. -/
def FramingError.message (e : FramingError) : String :=
  s!"declared payload length {e.declared} exceeds maximum packet size {e.limit}"

namespace Error

/-- The error's own text, without the heading of its kind; a timeout has none. -/
def detail? : Error → Option String
  | framing e => some e.message
  | protocol detail _ _ => some detail
  | login _ _ detail => some detail
  | command _ detail => some detail
  | query e => some e.message
  | unknownDatabase name => some s!"Unknown database '{name}'"
  | config detail _ => some detail
  | system detail => some detail
  | timeout => none
  | document detail => some detail
  | custom detail => some detail

/-- The heading of the error's kind. Texts written for the client have none. -/
def heading : Error → String
  | framing _ => "Framing error: "
  | protocol .. => "Protocol error: "
  | config .. => "Configuration error: "
  | system _ => "I/O error: "
  | timeout => "Operation timed out"
  | document _ => "Serialization error: "
  | _ => ""

/-- The error's text. -/
def message (e : Error) : String := e.heading ++ e.detail?.getD ""

/-- Does the error end the connection? A broken frame leaves the stream out of step, and a failed
transport leaves nothing to answer on. -/
def isFatal : Error → Bool
  | framing _ => true
  | system _ => true
  | _ => false

/-- The numeric code of a kind of failed statement. -/
def codeOfFault : QueryFault → UInt16
  | .malformed => 1064
  | .notFound => 1146
  | .constraint => 1062
  | .unsupported => 1105
  | .database => 1105

/-- The numeric code that clients know the error by. -/
def code : Error → UInt16
  | login .rejected _ _ => 1045
  | login .unsupportedPlugin _ _ => 1251
  | command .. => 1047
  | protocol .. => 1064
  | unknownDatabase _ => 1049
  | query e => codeOfFault e.fault
  | _ => 1105

/-- The five-character state that belongs to a numeric code. -/
def stateOfCode (code : UInt16) : String :=
  if code == 1045 then "28000"
  else if code == 1251 then "08004"
  else if code == 1047 then "08S01"
  else if code == 1064 || code == 1049 then "42000"
  else if code == 1146 then "42S02"
  else if code == 1062 then "23000"
  else "HY000"

/-- The five-character state of the error. -/
def sqlState (e : Error) : String := stateOfCode e.code

/-- The statement that failed, where one did and is known. -/
def sql? : Error → Option String
  | query e => e.sql
  | _ => none

/-- What lies behind the error, where something does. A refusal of the operating system is its own
cause. -/
def cause? : Error → Option String
  | protocol _ _ cause => cause
  | query e => e.cause
  | config _ cause => cause
  | system detail => some detail
  | _ => none

end Error

end WireSql
