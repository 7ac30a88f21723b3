import WireSql.Wire.Capability
import WireSql.Wire.Frame
import WireSql.Wire.Parse

/-!
# `WireSql.Wire.Handshake`: the client's answer to the greeting

The client asks for capabilities, names a user and perhaps a database and a plugin, and proves its
password. How the proof is laid out depends on the capabilities it asks for: behind a prefixed
length, behind a length of one byte, or up to a zero, in this order of preference.

A payload too short for the fixed fields comes from an old client. It says nothing, and is let in.
-/

namespace WireSql.Wire

/-- The number of bytes of the fixed fields. -/
def handshakeHeaderSize : Nat := 32

/-- A client's answer with all its fields. -/
structure HandshakeResponse where
  /-- What the client asks for. -/
  capabilities : UInt32
  /-- The longest packet the client takes. -/
  maxPacketSize : UInt32
  charset : UInt8
  username : String
  /-- The proof of the password. -/
  authResponse : Bytes
  /-- The database to start with. -/
  database : Option String
  /-- The plugin that made the proof. -/
  authPlugin : Option String
deriving DecidableEq, Repr

/-- A client's answer to the greeting. -/
inductive ClientHandshake where
  /-- An answer too short to say anything. -/
  | short
  | full (r : HandshakeResponse)
deriving DecidableEq, Repr

namespace HandshakeResponse

/-- The proof of the password in the form that the capabilities ask for. -/
def authField (r : HandshakeResponse) : Bytes :=
  if Capability.has r.capabilities Capability.prefixedResponse then ofPrefixedBytes r.authResponse
  else if Capability.has r.capabilities Capability.secureConnection then
    ofU8 (UInt8.ofNat r.authResponse.length) ++ r.authResponse
  else ofZeroEndedBytes r.authResponse

/-- The database, where the capabilities announce one. -/
def databaseField (r : HandshakeResponse) : Bytes :=
  if Capability.has r.capabilities Capability.connectWithDatabase then
    ofZeroEndedText (r.database.getD "")
  else []

/-- The plugin, where there is one and the capabilities announce it. -/
def pluginField (r : HandshakeResponse) : Bytes :=
  match r.authPlugin with
  | some name =>
    if Capability.has r.capabilities Capability.pluginAuth then ofZeroEndedText name else []
  | none => []

/-- The payload of an answer. -/
def payload (r : HandshakeResponse) : Bytes :=
  ofU32 r.capabilities ++ ofU32 r.maxPacketSize ++ ofU8 r.charset ++ zeros 23 ++
    ofZeroEndedText r.username ++ r.authField ++ r.databaseField ++ r.pluginField

/-- The frame of an answer. -/
def toFrame (r : HandshakeResponse) (sequence : UInt8) : Frame := ⟨sequence, r.payload⟩

end HandshakeResponse

namespace ClientHandshake

/-- Read the proof of the password. -/
def authResponse (payload : Bytes) (capabilities : UInt32) : Parse Bytes :=
  let truncated := "Truncated auth response"
  if Capability.has capabilities Capability.prefixedResponse then
    Parse.need payload truncated .prefixedBytes
  else if Capability.has capabilities Capability.secureConnection then do
    let length ← Parse.need payload "Missing auth response length" .u8
    Parse.need payload truncated (.bytes length.toNat)
  else return (← Parse.allow .zeroEndedBytes).getD []

/-- Read a name that a capability announces; an empty one counts as none. -/
def announced (capabilities capability : UInt32) : Parse (Option String) :=
  if Capability.has capabilities capability then
    return (← Parse.allow .zeroEndedText).filter (· != "")
  else return none

/-- Read an answer with all its fields. -/
def response (payload : Bytes) : Parse HandshakeResponse := do
  let capabilities ← Parse.need payload "Missing capability flags" .u32
  let maxPacketSize ← Parse.need payload "Missing max packet size" .u32
  let charset ← Parse.need payload "Missing character set" .u8
  Parse.need payload "Truncated handshake response" (.skip 23)
  let username := (← Parse.allow .zeroEndedText).getD ""
  let authResponse ← authResponse payload capabilities
  let database ← announced capabilities Capability.connectWithDatabase
  let authPlugin ← announced capabilities Capability.pluginAuth
  return { capabilities, maxPacketSize, charset, username, authResponse, database, authPlugin }

/-- Read a client's answer to the greeting. -/
def parse (payload : Bytes) : Except Error ClientHandshake :=
  if payload.length < handshakeHeaderSize then .ok .short
  else (Parse.run payload (response payload)).map .full

end ClientHandshake

end WireSql.Wire
