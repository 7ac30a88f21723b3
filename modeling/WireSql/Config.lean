import WireSql.Auth
import WireSql.Error
import WireSql.Json.Parser
import WireSql.Json.Reader
import WireSql.Text.Blank
import WireSql.Wire.Capability
import WireSql.Wire.Frame
import WireSql.Wire.Rows

/-!
# `WireSql.Config`: what a server is told

A configuration is written as a JSON record, every member of which may be missing. `validate?` says
what keeps a configuration from being used; a server can be set up without asking it, for instance
with port zero, which leaves the choice of a port to the system.
-/

namespace WireSql

/-- The settings of a server. -/
structure ServerConfig where
  bindAddress : String := "0.0.0.0"
  port : UInt16 := 2883
  serverVersion : String := "5.7.36-mock"
  /-- The password of every user. -/
  password : String := "123456"
  /-- The scheme named in the greeting. -/
  authPlugin : AuthPlugin := .nativePassword
  /-- The greatest length of a payload. -/
  maxPacketSize : Nat := Wire.maxPayload
  capabilities : UInt32 := Wire.Capability.serverDefault
  /-- After how many seconds without input a connection ends; never, where it is not set. -/
  idleTimeout : Option Nat := none
  charset : UInt8 := Wire.columnCharset
deriving DecidableEq, Repr

namespace ServerConfig

/-- The address and the port to listen on. -/
def socketAddress (c : ServerConfig) : String := s!"{c.bindAddress}:{c.port.toNat}"

/-- What keeps the configuration from being used, if anything does. -/
def complaint? (c : ServerConfig) : Option String :=
  if (Text.trim c.bindAddress.toList).isEmpty then some "bind_address must not be empty"
  else if c.port == 0 then some "port must be non-zero"
  else if c.maxPacketSize == 0 || Wire.maxPayload < c.maxPacketSize then
    some s!"max_packet_size must be between 1 and {Wire.maxPayload}"
  else if c.serverVersion.isEmpty then some "server_version must not be empty"
  else if c.idleTimeout == some 0 then some "idle_timeout must be positive"
  else if c.serverVersion.toList.contains '\x00' then
    some "server_version must not contain NUL"
  else none

/-- Check a configuration before it is used. -/
def validate (c : ServerConfig) : Except Error Unit :=
  match c.complaint? with
  | some detail => .error (.config detail none)
  | none => .ok ()

open Json

/-- The scheme that a document holds. -/
def authPlugin? (j : Json) : Option AuthPlugin := do
  let (name, contents) ← asChoice? j
  if isBare contents then AuthPlugin.ofName? name else none

/-- The members of a configuration, in the order of their declaration. -/
def memberNames : List String :=
  ["bind_address", "port", "server_version", "password", "auth_plugin", "max_packet_size",
    "capabilities", "idle_timeout", "charset"]

/-- The configuration that a document holds. A missing member has its default. -/
def ofJson? (j : Json) : Option ServerConfig :=
  let standard : ServerConfig := {}
  match asRecord? memberNames j with
  | some [address, port, version, password, plugin, size, capabilities, timeout, charset] => do
    return {
      bindAddress := ← withDefault? standard.bindAddress asString? address
      port := ← withDefault? standard.port (fun j => (asNat? 16 j).map UInt16.ofNat) port
      serverVersion := ← withDefault? standard.serverVersion asString? version
      password := ← withDefault? standard.password asString? password
      authPlugin := ← withDefault? standard.authPlugin authPlugin? plugin
      maxPacketSize := ← withDefault? standard.maxPacketSize (asNat? 64) size
      capabilities := ←
        withDefault? standard.capabilities (fun j => (asNat? 32 j).map UInt32.ofNat) capabilities
      idleTimeout := ← withDefault? standard.idleTimeout (asOption? (asNat? 64)) timeout
      charset := ← withDefault? standard.charset (fun j => (asNat? 8 j).map UInt8.ofNat) charset }
  | _ => none

/-- What is said of a file that cannot be read. -/
def unreadableFile (path : String) : String := s!"cannot read config file {path}"

/-- Read the text of a configuration. -/
def parse (text : String) : Except Error ServerConfig :=
  match (parse? text.toList).bind ofJson? with
  | some c => .ok c
  | none => .error (.config "invalid config" (some "the text is not a configuration"))

end ServerConfig

end WireSql
