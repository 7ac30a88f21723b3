/-!
# `WireSql.Wire.Capability`: what client and server can do

Each side announces its capabilities as the bits of a 32-bit word. What a session may use is what
the client asks for and the server offers.
-/

namespace WireSql.Wire.Capability

/-- Long passwords. -/
def longPassword : UInt32 := 0x1

/-- Matched rather than changed rows are counted. -/
def foundRows : UInt32 := 0x2

/-- Column flags of more than one byte. -/
def longFlag : UInt32 := 0x4

/-- A database can be named at login. -/
def connectWithDatabase : UInt32 := 0x8

/-- The protocol of version 4.1. -/
def protocol41 : UInt32 := 0x200

/-- Transactions. -/
def transactions : UInt32 := 0x2000

/-- The login response stands behind one byte with its length. -/
def secureConnection : UInt32 := 0x8000

/-- The client names its authentication plugin. -/
def pluginAuth : UInt32 := 0x80000

/-- The login response stands behind its length as a prefixed integer. -/
def prefixedResponse : UInt32 := 0x200000

/-- Results end without a packet of their own between columns and rows. -/
def deprecateEof : UInt32 := 0x1000000

/-- What a server offers unless it is configured otherwise. -/
def serverDefault : UInt32 :=
  longPassword ||| foundRows ||| longFlag ||| connectWithDatabase ||| protocol41 |||
    transactions ||| secureConnection ||| pluginAuth ||| prefixedResponse ||| deprecateEof

/-- Does a word of capabilities hold a capability? -/
def has (word capability : UInt32) : Bool := word &&& capability != 0

end WireSql.Wire.Capability
