import WireSql.Backend
import WireSql.Introspection.Answer
import WireSql.Introspection.Clean
import WireSql.Session
import WireSql.Wire.Rows

/-!
# `WireSql.Command`: answering a command

`dispatch` takes the payload of one command, the session and the state of the backend. It answers
frames, or that the connection is to end, or why the command fails; with it come the session and the
state afterwards. A failed command leaves both as they were, apart from what the backend itself did
before it failed.

A statement goes one of three ways: switching to a database is done here, questions about the server
are answered by `Introspection.answer`, and everything else is run by the backend. After a statement
without a result set the session forgets its database if that no longer exists.
-/

namespace WireSql

open Introspection (Crash View)

/-- What the connection does after a command. -/
inductive Reply where
  /-- Send frames and go on. -/
  | frames (frames : List Wire.Frame)
  /-- End without a frame. -/
  | close
deriving DecidableEq, Repr

/-- Why a command has no reply. -/
inductive Fault where
  | error (e : Error)
  /-- The worker ends. -/
  | crash (c : Crash)
deriving DecidableEq, Repr

namespace Command

variable {σ : Type}

/-- The outcome of a command with the session and the state afterwards. -/
structure Outcome (σ : Type) where
  /-- The reply, or why there is none. -/
  reply : Except Fault Reply
  session : Session
  state : σ

/-- The error of a command that makes no sense. -/
def senseless (detail : String) : Error := .protocol detail none none

/-- The error of a command that is not known. -/
def unsupported (code : UInt8) : Error := .command code s!"Unsupported command: {code.toNat}"

/-- A name without the blanks and backticks around it. -/
def bareName (name : List Char) : List Char :=
  Text.dropAroundWhile (· == Text.backtick) (Text.trim name)

/-- The name behind the word `USE` and a space. -/
def useStatement? (sql : String) : Option (List Char) :=
  (Text.afterIgnoringCase? "USE " sql.toList).map bareName

/-- The session after switching to a database. -/
def switch (backend : Backend σ) (state : σ) (s : Session) (name : List Char) :
    Except Error Session := do
  let name := String.ofList (bareName name)
  backend.selectDatabase state name
  return { s with database := some name }

/-- Switch to a database and report it. -/
def switchAndReport (backend : Backend σ) (s : Session) (state : σ) (name : List Char)
    (packet : Wire.OkPacket) : Outcome σ :=
  match switch backend state s name with
  | .ok session => ⟨.ok (.frames [packet.toFrame s.nextSequence]), session, state⟩
  | .error e => ⟨.error (.error e), s, state⟩

/-- The session without its database, where that does not exist. -/
def forgetMissing (backend : Backend σ) (state : σ) (s : Session) : Session :=
  match s.database with
  | none => s
  | some name =>
    match backend.selectDatabase state name with
    | .ok () => s
    | .error _ => { s with database := none }

/-- Report a result. -/
def report (s : Session) (r : ResultSet) : Reply :=
  .frames (Wire.resultFrames r s.capabilities s.nextSequence)

/-- Have the backend run a statement. -/
def forward (backend : Backend σ) (s : Session) (state : σ) (sql : String) : Outcome σ :=
  match backend.execute state sql s.capabilities s.database with
  | (.error e, state) => ⟨.error (.error (.query { e with sql := some sql })), s, state⟩
  | (.ok r, state) =>
    let session := if r.isCommand then forgetMissing backend state s else s
    ⟨.ok (report s r), session, state⟩

/-- Answer a statement that has been cleaned. -/
def query (backend : Backend σ) (s : Session) (state : σ) (sql : String) : Outcome σ :=
  if sql.isEmpty then ⟨.error (.error (senseless "Query was empty")), s, state⟩
  else match useStatement? sql with
  | some name => switchAndReport backend s state name {}
  | none =>
    match Introspection.answer ⟨s.database, backend.databases state⟩ sql with
    | .error c => ⟨.error (.crash c), s, state⟩
    | .ok (some r) => ⟨.ok (report s r), s, state⟩
    | .ok none => forward backend s state sql

/-- Answer a command. The session holds the sequence number of the request. -/
def dispatch (backend : Backend σ) (s : Session) (state : σ) (payload : Bytes) : Outcome σ :=
  match Wire.Packet.parse payload .command with
  | .error e => ⟨.error (.error e), s, state⟩
  | .ok (.command packet) =>
    match Wire.Command.ofCode? packet.code with
    | some .quit => ⟨.ok .close, s, state⟩
    | some .ping => ⟨.ok (.frames [(Wire.OkPacket.withInfo "PONG").toFrame s.nextSequence]), s, state⟩
    | some .initDb =>
      switchAndReport backend s state packet.text.toList (.withInfo "Database changed")
    | some .query => query backend s state (Introspection.clean packet.text)
    | none => ⟨.error (.error (unsupported packet.code)), s, state⟩
  | .ok _ => ⟨.error (.error (senseless "Expected a command packet")), s, state⟩

end Command

end WireSql
