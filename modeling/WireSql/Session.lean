import WireSql.Wire.Greeting
import WireSql.Wire.Capability

/-!
# `WireSql.Session`: the state of one connection

A connection waits for a login, then takes commands, and ends. The session remembers who logged in,
with which capabilities, and which database is selected.
-/

namespace WireSql

/-- Where a connection stands. -/
inductive Phase where
  /-- The greeting is out, and a login has to come. -/
  | awaitingAuth
  /-- Commands are taken. -/
  | authenticated
  /-- Nothing more happens. -/
  | closed
deriving DecidableEq, Repr

/-- The state of one connection. -/
structure Session where
  connectionId : UInt32
  /-- The sequence number of the last frame received or sent. -/
  sequence : UInt8 := 0
  challenge : Wire.Challenge
  /-- The capabilities that both sides have. -/
  capabilities : UInt32 := 0
  authenticated : Bool := false
  /-- The user who logged in, where the login named one. -/
  username : Option String := none
  database : Option String := none
  phase : Phase := .awaitingAuth
deriving DecidableEq

namespace Session

/-- The sequence number of the next frame to send. -/
def nextSequence (s : Session) : UInt8 := s.sequence + 1

/-- Do results end without a packet of their own between columns and rows? -/
def deprecateEof (s : Session) : Bool :=
  Wire.Capability.has s.capabilities Wire.Capability.deprecateEof

/-- The session after a login. -/
def login (s : Session) (capabilities : UInt32) (username database : Option String) : Session :=
  { s with capabilities, username, database, authenticated := true, phase := .authenticated }

/-- Has the connection ended? -/
def isClosed (s : Session) : Bool := s.phase == .closed

/-- The session after the end of its connection. -/
def close (s : Session) : Session := { s with phase := .closed }

end Session

end WireSql
