import Std.Async.DNS
import Std.Async.TCP
import Std.Async.Timer
import Std.Sync.Mutex
import WireSql.Options
import WireSql.Server

/-!
# `WireSql.Main`: the server as a program

The outer layer: it reads files and the command line, moves bytes between sockets and connections,
and writes the snapshot file whenever the store's value of it has changed. What a connection does
with its bytes is `Connection.Serving.receive`, and what the options mean is `Options`.

Connections run side by side, each in its own task. The server's value, which holds the store, is
behind one lock, which a connection takes for the frames of one read; the snapshot file is written
under the same lock, so it is never replaced by an older one.
-/

namespace WireSql.Main

open Std.Async Std.Net

/-- Report an event. -/
abbrev Logger := LogLevel → String → IO Unit

/-- A logger that writes what is within the limit to the standard output. -/
def logger (limit : LogLevel) : Logger := fun level text =>
  if level.within limit then do
    IO.println s!"{level.name} {text}"
    (← IO.getStdout).flush
  else pure ()

/-- Stop with an error and what lies behind it. -/
def fail {α : Type} (context : String) (cause : String) : IO α :=
  throw (IO.userError s!"{context}\n\nCaused by:\n    {cause}")

/-! ## Files -/

/-- The configuration that the options name. -/
def readConfig (options : Options) : IO ServerConfig :=
  match options.config with
  | none => pure {}
  | some path => do
    let context := s!"failed to load config from {path}"
    let text ← try IO.FS.readFile path catch e =>
      fail context s!"{ServerConfig.unreadableFile path}: {e}"
    match ServerConfig.parse text with
    | .ok config => pure config
    | .error e => fail context e.message

/-- The store that the options name. -/
def openStore (options : Options) (log : Logger) : IO Store :=
  match options.data with
  | none => pure {}
  | some path => do
    let context := s!"failed to open snapshot {path}"
    let text ← try some <$> IO.FS.readFile path catch
      | .noFileOrDirectory .. => pure none
      | e => fail context e.toString
    match Store.openFile ⟨text⟩ with
    | .error e => fail context e.message
    | .ok store =>
      if text.isSome then log .info s!"loaded snapshot {path}"
      else log .info s!"no snapshot yet, starting empty: {path}"
      pure store

/-- Write the snapshot file where the store's value of it has changed. The file is written beside
its place and renamed, so that nobody reads half of it. -/
def saveChange (path : Option String) (log : Logger) (before after : Store) : IO Unit := do
  if before.autosave == after.autosave then return
  if let (some path, some text) := (path, after.autosave.bind (·.text)) then
    try
      IO.FS.writeFile (path ++ ".tmp") text
      IO.FS.rename (path ++ ".tmp") path
      log .debug s!"snapshot written: {path}"
    catch e => log .warn s!"failed to save snapshot {path}: {e}"

/-! ## Connections -/

/-- The server behind the lock that its connections share. -/
abbrev Shared := Std.Mutex (Server Store)

/-- What a connection needs beside its socket. -/
structure Surroundings where
  server : Shared
  /-- The snapshot file. -/
  data : Option String
  log : Logger

/-- A challenge of twenty letters drawn at random. -/
def randomChallenge : IO Wire.Challenge :=
  return challengeOfNumbers ((← IO.getRandomBytes 20).toList.map (·.toNat))

/-- What arrives next: bytes, the end of the stream, or nothing for too long. -/
inductive Arrival where
  | bytes (data : Bytes)
  /-- The end of the stream. -/
  | finished
  /-- Nothing in time. -/
  | late

/-- The arrival of what a socket has read. -/
def Arrival.ofRead : Option ByteArray → Arrival
  | some data => if data.isEmpty then .finished else .bytes data.toList
  | none => .finished

/-- How many bytes are read at once. -/
def readSize : UInt64 := 8192

/-- Wait for what arrives next, for at most the given number of seconds. -/
def await (client : TCP.Socket.Client) : Option Nat → Async Arrival
  | none => return .ofRead (← client.recv? readSize)
  | some seconds => do
    Selectable.one #[
      .case (client.recvSelector readSize) fun data => pure (.ofRead data),
      .case (← Selector.sleep (Std.Time.Millisecond.Offset.ofNat (1000 * seconds)))
        fun _ => pure .late]

/-- Send what a connection has written, and forget it. -/
def flush (client : TCP.Socket.Client) (s : Connection.Serving Store) :
    IO (Connection.Serving Store) := do
  unless s.written.isEmpty do
    (client.send (ByteArray.mk s.written.toArray)).block
  return { s with written := [], state := {} }

/-- Take in the bytes of one read, with the store that all connections share. -/
def receive (around : Surroundings) (s : Connection.Serving Store) (data : Bytes) :
    IO (Connection.Serving Store) :=
  around.server.atomically do
    let server ← get
    let s := { s with state := server.state }.receive Store.backend data
    set { server with state := s.state }
    saveChange around.data around.log server.state s.state
    return s

/-- Say how a connection ended. -/
def reportEnd (log : Logger) (id : Nat) : Connection.Ending → IO Unit
  | .clientLeft => log .info s!"connection {id} closed by client"
  | .quit => log .info s!"connection {id} closed by server"
  | .failed e => log .warn s!"connection {id} ended with error: {(Error.framing e).message}"
  | .crashed _ => log .error s!"connection {id} crashed"

/-- Serve a connection until it ends. -/
partial def serveLoop (around : Surroundings) (client : TCP.Socket.Client)
    (s : Connection.Serving Store) : IO Unit := do
  let id := s.connection.session.connectionId.toNat
  let s ← flush client s
  match s.ending with
  | some ending => reportEnd around.log id ending
  | none =>
    match ← (await client s.connection.config.idleTimeout).block with
    | .bytes data => serveLoop around client (← receive around s data)
    | .finished => reportEnd around.log id .clientLeft
    | .late => around.log .warn s!"connection {id} ended with error: {Error.timeout.message}"

/-- Serve an accepted connection from its greeting to its end. -/
def serveClient (around : Surroundings) (client : TCP.Socket.Client) : IO Unit := do
  let challenge ← randomChallenge
  let connection ← around.server.atomically (modifyGet (·.accept challenge))
  let id := connection.session.connectionId.toNat
  around.log .info s!"connection {id} accepted"
  try
    client.noDelay
    serveLoop around client (.greet connection {})
  catch e => around.log .warn s!"connection {id} ended with error: {(Error.system e.toString).message}"
  try client.shutdown.block catch _ => pure ()
  around.server.atomically (modify fun server => server.leave server.state)

/-! ## Listening -/

/-- The addresses that the configuration names. -/
def addresses (config : ServerConfig) : IO (List SocketAddress) := do
  let host := config.bindAddress
  let bare := String.ofList (host.toList.filter fun c => c != '[' && c != ']')
  let found ← match IPv4Addr.ofString host, IPv6Addr.ofString bare with
    | some address, _ => pure [IPAddr.v4 address]
    | none, some address => pure [IPAddr.v6 address]
    | none, none => Array.toList <$> (DNS.getAddrInfo host (toString config.port)).block
  return found.map fun
    | .v4 address => .v4 ⟨address, config.port⟩
    | .v6 address => .v6 ⟨address, config.port⟩

/-- How many connections wait to be accepted. -/
def backlog : UInt32 := 128

/-- Listen on one of the addresses, the first that allows it. -/
def listen : List SocketAddress → IO TCP.Socket.Server
  | [] => throw (IO.userError "could not resolve to any addresses")
  | address :: rest => do
    try
      let socket ← TCP.Socket.Server.mk
      socket.bind address
      socket.listen backlog
      return socket
    catch e => if rest.isEmpty then throw e else listen rest

/-- Accept connections for ever. A connection that cannot be accepted is reported and skipped. -/
partial def acceptLoop (around : Surroundings) (socket : TCP.Socket.Server) : IO Unit := do
  try
    let client ← socket.accept.block
    let _ ← IO.asTask (serveClient around client) .dedicated
  catch e => around.log .warn s!"accept failed: {e}"
  acceptLoop around socket

/-- Set up the server that the options ask for, and serve. -/
def serve (options : Options) : IO Unit := do
  let log := logger options.level
  let config := options.override (← readConfig options)
  match config.validate with
  | .error e => fail "invalid configuration" e.message
  | .ok () =>
    let store ← openStore options log
    let socket ← try listen (← addresses config) catch e =>
      fail "failed to bind listener" (Error.system e.toString).message
    let address ← socket.getSockName
    log .info s!"listening on {address}, version {config.serverVersion}"
    let server ← Std.Mutex.new ({ config, state := store } : Server Store)
    acceptLoop ⟨server, options.data, log⟩ socket

/-- What the program calls itself. -/
def programName : String := "wiresql"

/-- The version of the program. -/
def programVersion : String := "0.1.0"

end WireSql.Main

open WireSql in
/-- The program. -/
def main (arguments : List String) : IO UInt32 := do
  match Options.parse arguments with
  | .error e =>
    IO.eprintln s!"error: {e.message}\n\nFor more information, try '--help'."
    return 2
  | .ok .help =>
    IO.print (Options.help Main.programName)
    return 0
  | .ok .version =>
    IO.println s!"{Main.programName} {Main.programVersion}"
    return 0
  | .ok (.serve options) =>
    try
      Main.serve options
      return 0
    catch e =>
      IO.eprintln s!"Error: {e}"
      return 1
