import WireSql.Wire.Frame
import WireSql.Wire.Parse

/-!
# `WireSql.Wire.Greeting`: the first frame of a connection

The server speaks first. Its greeting names the server's version, the connection and the server's
capabilities, and holds the challenge that the client's login has to answer. The challenge and the
capabilities travel in two halves each, with other fields between them.
-/

namespace WireSql.Wire

/-- The number of bytes of a challenge. -/
def challengeLength : Nat := 20

/-- The bytes that a login has to answer. -/
structure Challenge where
  bytes : Bytes
  length_bytes : bytes.length = challengeLength
deriving DecidableEq

/-- The first bytes of a sequence as a challenge, with zeros for those that are missing. -/
def Challenge.ofBytes (b : Bytes) : Challenge :=
  ⟨b.take challengeLength ++ zeros (challengeLength - b.length), by
    simp only [zeros, List.length_append, List.length_take, List.length_replicate]
    omega⟩

/-- The version of the protocol. -/
def protocolVersion : UInt8 := 10

/-- The status of a session: every statement is its own transaction. -/
def autocommit : UInt16 := 2

/-- The length that the greeting announces for the challenge, with the zero behind it. -/
def announcedChallengeLength : UInt8 := 21

/-- The greeting. -/
structure Greeting where
  serverVersion : String
  connectionId : UInt32
  challenge : Challenge
  /-- What the server offers. -/
  capabilities : UInt32
  charset : UInt8
  statusFlags : UInt16
  authPlugin : String
deriving DecidableEq

namespace Greeting

/-- The payload of a greeting. -/
def payload (g : Greeting) : Bytes :=
  Field.encodeAll [
    .u8 protocolVersion,
    .zeroEndedText g.serverVersion,
    .u32 g.connectionId,
    .bytes (g.challenge.bytes.take 8),
    .u8 0,
    .u16 g.capabilities.toUInt16,
    .u8 g.charset,
    .u16 g.statusFlags,
    .u16 (g.capabilities >>> 16).toUInt16,
    .u8 announcedChallengeLength,
    .zeros 10,
    .bytes (g.challenge.bytes.drop 8),
    .u8 0,
    .zeroEndedText g.authPlugin]

/-- The frame of a greeting, the first of its connection. -/
def toFrame (g : Greeting) : Frame := ⟨0, g.payload⟩

/-- Read a greeting. -/
def parse (payload : Bytes) : Except Error Greeting := Parse.run payload do
  let need {α : Type} (detail : String) (read : Read α) : Parse α := Parse.need payload detail read
  let version ← need "Missing protocol version" .u8
  if version != protocolVersion then
    throw (Parse.malformed payload s!"Unsupported protocol version: {version.toNat}")
  let serverVersion ← need "Missing server version" .zeroEndedText
  let connectionId ← need "Missing connection ID" .u32
  let first ← need "Missing auth data" (.bytes 8)
  let _ ← Parse.allow (.skip 1)
  let low ← need "Missing capability flags" .u16
  let charset ← need "Missing character set" .u8
  let statusFlags ← need "Missing status flags" .u16
  let high ← need "Missing capability flags" .u16
  let _ ← Parse.allow (.skip 11)
  let second ← need "Missing auth data" (.bytes (challengeLength - 8))
  let _ ← Parse.allow (.skip 1)
  let authPlugin := (← Parse.allow .zeroEndedText).getD ""
  return {
    serverVersion, connectionId, charset, statusFlags, authPlugin
    challenge := .ofBytes (first ++ second)
    capabilities := low.toUInt32 ||| (high.toUInt32 <<< 16) }

end Greeting

end WireSql.Wire
