import WireSql.Command
import WireSql.Login

/-!
# `WireSql.Connection`: one connection from greeting to end

A connection answers every frame completely before it looks at the next. `Connection.onFrame` is one
such step: it decides a login, answers a command, or does nothing once the connection has ended.
Errors become error packets; only those that leave nothing to answer on end the connection.

`Connection.serve` puts the steps on a stream of bytes that arrives in pieces. It writes the
greeting, takes whole frames off the bytes received so far, answers each in turn, and ends when the
client leaves or quits, when a frame in either direction is over the cap, or when the worker
crashes. A reply that does not fit the cap ends the connection with none of its bytes written.
-/

namespace WireSql

/-- A connection with its settings. -/
structure Connection where
  config : ServerConfig
  session : Session
deriving DecidableEq

namespace Connection

variable {σ : Type}

/-- A new connection. -/
def new (config : ServerConfig) (connectionId : UInt32) (challenge : Wire.Challenge) : Connection :=
  { config, session := { connectionId, challenge } }

/-- The greeting, and the connection after it is sent. -/
def start (c : Connection) : Wire.Frame × Connection :=
  let frame := (c.session.greeting c.config).toFrame
  (frame, { c with session := { c.session with sequence := frame.sequence } })

/-! ## One frame -/

/-- What one frame leads to. -/
structure Step where
  frames : List Wire.Frame := []
  /-- Whether the connection ends once they are sent. -/
  close : Bool := false
deriving DecidableEq, Repr

/-- The step of a failed frame: an error packet, or the end where nothing can be answered. -/
def onError (s : Session) (e : Error) : Step :=
  if e.isFatal then { close := true }
  else { frames := [(Wire.ErrPacket.ofError e).toFrame s.nextSequence] }

/-- The packet that reports a login. -/
def loginReport : Wire.ClientHandshake → Wire.OkPacket
  | .short => .withInfo "Simple mode"
  | .full _ => {}

/-- Decide a client's answer to the greeting. -/
def onHandshake (config : ServerConfig) (s : Session) (payload : Bytes) :
    Except Error (Step × Session) := do
  match ← Wire.Packet.parse payload .handshakeResponse with
  | .handshake h =>
    let session ← Login.authenticate config s h
    return ({ frames := [(loginReport h).toFrame session.nextSequence] }, session)
  | _ => return ({ close := true }, s)

/-- The step of a command's reply. -/
def ofReply : Reply → Step
  | .frames frames => { frames }
  | .close => { close := true }

/-- The step of a frame for a session that holds its sequence number, with the session and the
state of the backend afterwards. -/
def stepOf (backend : Backend σ) (config : ServerConfig) (s : Session) (state : σ)
    (payload : Bytes) : Except Introspection.Crash Step × Session × σ :=
  match s.phase with
  | .awaitingAuth =>
    match onHandshake config s payload with
    | .ok (step, session) => (.ok step, session, state)
    | .error e => (.ok (onError s e), s, state)
  | .authenticated =>
    let outcome := Command.dispatch backend s state payload
    match outcome.reply with
    | .ok reply => (.ok (ofReply reply), outcome.session, outcome.state)
    | .error (.error e) => (.ok (onError outcome.session e), outcome.session, outcome.state)
    | .error (.crash c) => (.error c, outcome.session, outcome.state)
  | .closed => (.ok { close := true }, s, state)

/-- The session after a step: it holds the sequence number of the last frame, and has ended where
the step ends it. -/
def settle (s : Session) (step : Step) : Session :=
  let s := match step.frames.getLast? with
    | some last => { s with sequence := last.sequence }
    | none => s
  if step.close then s.close else s

/-- Answer one frame. -/
def onFrame (backend : Backend σ) (c : Connection) (state : σ) (frame : Wire.Frame) :
    Except Introspection.Crash Step × Connection × σ :=
  let s := { c.session with sequence := frame.sequence }
  match stepOf backend c.config s state frame.payload with
  | (.ok step, session, state) => (.ok step, { c with session := settle session step }, state)
  | (.error crash, session, state) => (.error crash, { c with session }, state)

/-! ## A stream of bytes -/

/-- How a connection ends. -/
inductive Ending where
  /-- The client has no more to say. -/
  | clientLeft
  | quit
  /-- A frame is over the cap. -/
  | failed (e : FramingError)
  | crashed (c : Introspection.Crash)
deriving DecidableEq, Repr

/-- A connection in the middle of its stream. -/
structure Serving (σ : Type) where
  connection : Connection
  /-- The state of the backend. -/
  state : σ
  /-- The bytes received that are no whole frame yet. -/
  pending : Bytes := []
  /-- Every byte written so far. -/
  written : Bytes := []
  /-- How the connection ended, once it has. -/
  ending : Option Ending := none

/-- The cap on frames in both directions. -/
def codec (config : ServerConfig) : Wire.Codec := .ofLimit config.maxPacketSize

/-- Answer one frame, if the connection has not ended. -/
def Serving.answer (backend : Backend σ) (s : Serving σ) (frame : Wire.Frame) : Serving σ :=
  if s.ending.isSome then s
  else match onFrame backend s.connection s.state frame with
  | (.error crash, connection, state) =>
    { s with connection, state, ending := some (.crashed crash) }
  | (.ok step, connection, state) =>
    match (codec connection.config).encodeAll step.frames with
    | .error e => { s with connection, state, ending := some (.failed e) }
    | .ok bytes =>
      let ending := if step.close then some Ending.quit else none
      { s with connection, state, ending, written := s.written ++ bytes }

/-- Take in the bytes of one read: answer the frames that are whole now and keep the rest. -/
def Serving.receive (backend : Backend σ) (s : Serving σ) (read : Bytes) : Serving σ :=
  if s.ending.isSome then s
  else
    let decoded := (codec s.connection.config).decodeAll (s.pending ++ read)
    let s := decoded.frames.foldl (Serving.answer backend) { s with pending := decoded.rest }
    match s.ending, decoded.failure with
    | none, some e => { s with ending := some (.failed e) }
    | _, _ => s

/-- The connection after its greeting has been written, or could not be. -/
def Serving.greet (c : Connection) (state : σ) : Serving σ :=
  let (frame, connection) := c.start
  match (codec c.config).encode frame with
  | .ok bytes => { connection, state, written := bytes }
  | .error e => { connection, state, ending := some (.failed e) }

/-- The connection after the end of its stream. -/
def Serving.finish (s : Serving σ) : Serving σ :=
  { s with ending := some (s.ending.getD .clientLeft) }

/-- Serve a connection whose bytes arrive in the given reads, up to the end of the stream. -/
def serve (backend : Backend σ) (c : Connection) (state : σ) (reads : List Bytes) : Serving σ :=
  (reads.foldl (Serving.receive backend) (Serving.greet c state)).finish

end Connection

end WireSql
