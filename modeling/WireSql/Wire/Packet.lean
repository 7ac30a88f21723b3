import WireSql.Wire.Greeting
import WireSql.Wire.Handshake

/-!
# `WireSql.Wire.Packet`: payloads by what they mean

What a payload means depends on what its reader expects next: a first byte `FE` ends the rows of a
result in one of two forms, and may begin a row elsewhere. `Packet.parse` therefore takes what is
expected (`Expected`) together with the payload.
-/

namespace WireSql.Wire

/-- The first byte of a packet that reports success. -/
def okMark : UInt8 := 0x00

/-- The first byte of a packet that ends a part of a result. -/
def eofMark : UInt8 := 0xFE

/-- The first byte of a packet that reports an error. -/
def errMark : UInt8 := 0xFF

/-! ## Success -/

/-- A packet that reports success. -/
structure OkPacket where
  affectedRows : UInt64 := 0
  /-- The last number given out. -/
  lastInsertId : UInt64 := 0
  statusFlags : UInt16 := autocommit
  warnings : UInt16 := 0
  info : String := ""
deriving DecidableEq, Repr

namespace OkPacket

/-- Success with a remark. -/
def withInfo (info : String) : OkPacket := { info }

/-- Success that touched rows. -/
def affected (count : Nat) : OkPacket := { affectedRows := UInt64.ofNat count }

/-- The payload of the packet. -/
def payload (p : OkPacket) : Bytes :=
  Field.encodeAll [
    .u8 okMark,
    .prefixedInt p.affectedRows,
    .prefixedInt p.lastInsertId,
    .u16 p.statusFlags,
    .u16 p.warnings,
    .bytes (Text.encode p.info)]

/-- The frame of the packet. -/
def toFrame (p : OkPacket) (sequence : UInt8) : Frame := ⟨sequence, p.payload⟩

/-- Read the packet, whatever its first byte is. The number of warnings may be missing. -/
def read : Read OkPacket := do
  let _ ← Read.u8
  let affectedRows ← Read.prefixedInt
  let lastInsertId ← Read.prefixedInt
  let statusFlags ← Read.u16
  let warnings ← Read.u16.orDefault 0
  let info ← Read.restText
  return { affectedRows, lastInsertId, statusFlags, warnings, info }

/-- The packet of a payload. -/
def parse? (payload : Bytes) : Option OkPacket := read.onBytes payload

end OkPacket

/-! ## Errors -/

/-- A packet that reports an error. -/
structure ErrPacket where
  code : UInt16
  /-- The state, which has five bytes on the wire. -/
  sqlState : String
  message : String
deriving DecidableEq, Repr

namespace ErrPacket

/-- The packet of an error. -/
def ofError (e : Error) : ErrPacket := ⟨e.code, e.sqlState, e.message⟩

/-- The first five bytes of a state, with blanks for those that are missing. -/
def stateField (s : String) : Bytes :=
  let b := (Text.encode s).take 5
  b ++ List.replicate (5 - b.length) 0x20

/-- The payload of the packet. -/
def payload (p : ErrPacket) : Bytes :=
  Field.encodeAll [
    .u8 errMark,
    .u16 p.code,
    .u8 0x23,
    .bytes (stateField p.sqlState),
    .bytes (Text.encode p.message)]

/-- The frame of the packet. -/
def toFrame (p : ErrPacket) (sequence : UInt8) : Frame := ⟨sequence, p.payload⟩

/-- Read the packet. A packet without the mark of a state has none. -/
def read : Read ErrPacket := do
  if (← Read.u8) != errMark then failure
  let code ← Read.u16
  let sqlState ← sqlState
  let message ← Read.restText
  return { code, sqlState, message }
where
  /-- Read the state behind its mark, if the mark stands here. -/
  sqlState : Read String := do
    match ← Read.peek? with
    | some 0x23 =>
      Read.skip 1
      Read.text 5
    | _ => return ""

/-- The packet of a payload. -/
def parse? (payload : Bytes) : Option ErrPacket := read.onBytes payload

end ErrPacket

/-! ## Ends -/

/-- A packet that ends the columns or the rows of a result. -/
structure EofPacket where
  warnings : UInt16 := 0
  statusFlags : UInt16 := autocommit
deriving DecidableEq, Repr

namespace EofPacket

/-- The payload of the packet. -/
def payload (p : EofPacket) : Bytes :=
  Field.encodeAll [.u8 eofMark, .u16 p.warnings, .u16 p.statusFlags]

/-- The frame of the packet. -/
def toFrame (p : EofPacket) (sequence : UInt8) : Frame := ⟨sequence, p.payload⟩

/-- Read the packet. -/
def read : Read EofPacket := do
  if (← Read.u8) != eofMark then failure
  return { warnings := ← Read.u16, statusFlags := ← Read.u16 }

/-- The packet of a payload. -/
def parse? (payload : Bytes) : Option EofPacket := read.onBytes payload

end EofPacket

/-! ## Commands -/

/-- What a client can command. -/
inductive Command where
  | quit
  /-- Switch to a database. -/
  | initDb
  | query
  /-- Answer, to show that the connection works. -/
  | ping
deriving DecidableEq, Repr

/-- The command of a code. -/
def Command.ofCode? (code : UInt8) : Option Command :=
  if code == 0x01 then some .quit
  else if code == 0x02 then some .initDb
  else if code == 0x03 then some .query
  else if code == 0x0E then some .ping
  else none

/-- The code of a command. -/
def Command.code : Command → UInt8
  | quit => 0x01
  | initDb => 0x02
  | query => 0x03
  | ping => 0x0E

/-- Each command has one code. -/
theorem Command.eq_code_of_ofCode? {code : UInt8} {command : Command} (h : ofCode? code = some command) :
    code = command.code := by
  unfold ofCode? at h
  repeat' split at h
  all_goals cases h
  all_goals exact eq_of_beq ‹_›

/-- A command as it is sent: its code and what comes with it. -/
structure CommandPacket where
  code : UInt8
  body : Bytes
deriving DecidableEq, Repr

namespace CommandPacket

/-- The packet of a payload. -/
def parse? : Bytes → Option CommandPacket
  | [] => none
  | code :: body => some ⟨code, body⟩

/-- What comes with the command, as text. -/
def text (p : CommandPacket) : String := Text.decode p.body

/-- The payload of the packet. -/
def payload (p : CommandPacket) : Bytes := p.code :: p.body

/-- The frame of the packet. -/
def toFrame (p : CommandPacket) (sequence : UInt8) : Frame := ⟨sequence, p.payload⟩

end CommandPacket

/-! ## Packets -/

/-- What the reader of a payload expects. -/
inductive Expected where
  /-- The client's answer to the greeting. -/
  | handshakeResponse
  | command
  | response
  /-- A row or the end of the columns or rows. With `deprecateEof` the end has the form of a packet
  that reports success. -/
  | terminator (deprecateEof : Bool)
deriving DecidableEq, Repr

/-- A payload by what it means. -/
inductive Packet where
  | ok (p : OkPacket)
  | err (p : ErrPacket)
  /-- The end of columns or rows. -/
  | eof (p : EofPacket)
  | handshake (h : ClientHandshake)
  | command (p : CommandPacket)
  /-- Any other part of a reply. -/
  | data (payload : Bytes)
deriving DecidableEq, Repr

/-- What a payload means where something is expected. -/
def Packet.parse (payload : Bytes) (expected : Expected) : Except Error Packet :=
  let orMalformed (p : Option Packet) (detail : String) : Except Error Packet :=
    (p.map Except.ok).getD (.error (Parse.malformed payload detail))
  let error := orMalformed ((ErrPacket.parse? payload).map .err) "Malformed ERR packet"
  match expected with
  | .handshakeResponse => (ClientHandshake.parse payload).map .handshake
  | .command => orMalformed ((CommandPacket.parse? payload).map .command) "Empty command packet"
  | .response =>
    match payload.head? with
    | none => .error (Parse.malformed payload "Empty response packet")
    | some mark =>
      if mark == okMark then
        orMalformed ((OkPacket.parse? payload).map .ok) "Malformed OK packet"
      else if mark == errMark then error
      else .ok (.data payload)
  | .terminator deprecateEof =>
    match payload.head? with
    | none => .error (Parse.malformed payload "Empty packet")
    | some mark =>
      if mark == eofMark then
        if deprecateEof then
          orMalformed ((OkPacket.parse? payload).map .ok) "Malformed OK terminator"
        else orMalformed ((EofPacket.parse? payload).map .eof) "Malformed EOF packet"
      else if mark == errMark then error
      else .ok (.data payload)

end WireSql.Wire
