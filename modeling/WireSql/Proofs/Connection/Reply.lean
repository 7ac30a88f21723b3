import WireSql.Proofs.Connection.Run
import WireSql.Proofs.Wire.Results

/-!
# `WireSql.Proofs.Connection.Reply`: every request has one reply

A client sends one frame and waits for one reply: a packet that reports success, a packet that reports an
error, or a whole result (`Wire.IsReply`). It tells replies apart by their sequence numbers, which go on
from that of the request, so a reply that counts from anywhere else is lost on it.

`Command.Answers` lists what a command can come to, and `Command.dispatch_answers` shows that a command
other than the one that ends the connection comes to nothing else. Main statement: `reply_discipline`, for
one frame in any state of a connection that has not ended, over every backend.
-/

namespace WireSql

/-! ## Replies -/

/-- **One whole reply** in frames that count up from `first`, for a session with these capabilities. -/
inductive Wire.IsReply (capabilities : UInt32) (first : UInt8) : List Wire.Frame → Prop where
  | ok (p : Wire.OkPacket) : IsReply capabilities first [p.toFrame first]
  | err (p : Wire.ErrPacket) : IsReply capabilities first [p.toFrame first]
  /-- A result with columns, from their number to the end of the rows. -/
  | result (r : ResultSet) (hcolumns : r.columns ≠ []) :
      IsReply capabilities first (Wire.resultFrames r capabilities first)

namespace Wire

variable {capabilities : UInt32} {first : UInt8} {reply : List Frame}

/-- Every result is one reply: without columns it is a packet that reports success. -/
theorem isReply_resultFrames (r : ResultSet) (capabilities : UInt32) (first : UInt8) :
    IsReply capabilities first (resultFrames r capabilities first) := by
  by_cases hcolumns : r.columns = []
  · have hcommand : r.isCommand = true := List.isEmpty_iff.mpr hcolumns
    unfold resultFrames
    rw [hcommand, if_pos rfl]
    exact .ok _
  · exact .result r hcolumns

/-- A reply counts up from its first number, modulo 256. -/
theorem IsReply.sequence (h : IsReply capabilities first reply) {i : Nat} {frame : Frame}
    (hi : reply[i]? = some frame) : frame.sequence = first + UInt8.ofNat i := by
  -- a reply of one packet has a frame of number zero and no other
  have hsingle : ∀ p : Bytes, [Frame.mk first p][i]? = some frame →
      frame.sequence = first + UInt8.ofNat i := fun p hp =>
    sequence_of_getElem?_frames (show (frames first [p])[i]? = some frame from hp)
  cases h with
  | ok p => exact hsingle p.payload hi
  | err p => exact hsingle p.payload hi
  | result r hcolumns =>
    rw [resultFrames_of_columns capabilities first hcolumns] at hi
    exact sequence_of_getElem?_frames hi

/-- A reply has a frame. -/
theorem IsReply.ne_nil (h : IsReply capabilities first reply) : reply ≠ [] := by
  cases h with
  | ok p => exact List.cons_ne_nil _ _
  | err p => exact List.cons_ne_nil _ _
  | result r hcolumns =>
    rw [resultFrames_of_columns capabilities first hcolumns]
    exact List.cons_ne_nil _ _

end Wire

/-! ## Commands -/

namespace Command

variable {σ : Type} {backend : Backend σ} {s : Session} {state : σ}

/-- **What a command can come to** that does not end the connection: a failure that can be answered, a
crash, or one whole reply. -/
inductive Answers (s : Session) : Except Fault Reply → Prop where
  | failed (e : Error) (he : e.isFatal = false) : Answers s (.error (.error e))
  | crashed (crash : Introspection.Crash) : Answers s (.error (.crash crash))
  | answered (frames : List Wire.Frame)
      (h : Wire.IsReply s.capabilities s.nextSequence frames) : Answers s (.ok (.frames frames))

theorem switchAndReport_answers (name : List Char) (packet : Wire.OkPacket) :
    Answers s (switchAndReport backend s state name packet).reply := by
  unfold switchAndReport switch
  dsimp only
  cases hd : backend.selectDatabase state (String.ofList (bareName name)) with
  | ok _ => exact .answered _ (.ok packet)
  | error e => exact .failed e (isFatal_of_selectDatabase hd)

theorem forward_answers (sql : String) : Answers s (forward backend s state sql).reply := by
  unfold forward
  split
  · exact .failed _ rfl
  · exact .answered _ (Wire.isReply_resultFrames _ _ _)

theorem query_answers (sql : String) : Answers s (query backend s state sql).reply := by
  unfold query
  split
  · exact .failed _ rfl
  · split
    · exact switchAndReport_answers _ _
    · split
      · exact .crashed _
      · exact .answered _ (Wire.isReply_resultFrames _ _ _)
      · exact forward_answers sql

/-- Does a payload command the end of the connection? -/
def Quits (payload : Bytes) : Prop := payload.head? = some 0x01

variable (backend s state)

theorem dispatch_of_quits {payload : Bytes} (h : Quits payload) :
    dispatch backend s state payload = ⟨.ok .close, s, state⟩ := by
  cases payload with
  | nil => cases h
  | cons code body =>
    obtain rfl : code = 0x01 := Option.some.inj h
    rfl

/-- **A command other than the end of the connection fails, crashes or has one whole reply.** -/
theorem dispatch_answers {payload : Bytes} (h : ¬ Quits payload) :
    Answers s (dispatch backend s state payload).reply := by
  cases payload with
  | nil => exact .failed _ rfl
  | cons code body =>
    have hparse : Wire.Packet.parse (code :: body) .command = .ok (.command ⟨code, body⟩) := rfl
    unfold dispatch
    rw [hparse]
    dsimp only
    split
    · next hquit => exact absurd (congrArg some (Wire.Command.eq_code_of_ofCode? hquit)) h
    · exact .answered _ (.ok _)
    · exact switchAndReport_answers _ _
    · exact query_answers _
    · exact .failed _ rfl

end Command

/-! ## Frames -/

namespace Connection

variable {σ : Type} {backend : Backend σ} {c : Connection} {state : σ} {frame : Wire.Frame}

/-- **What a client may count on** when a frame leads a connection to a step. -/
structure Disciplined (c : Connection) (frame : Wire.Frame) (step : Step) (c' : Connection) : Prop where
  /-- The step ends the connection exactly where a logged-in client commands it. -/
  close_iff : step.close = true ↔ c.session.phase = .authenticated ∧ frame.payload.head? = some 0x01
  /-- The connection has ended exactly where the step ends it. -/
  closed_iff : c'.session.phase = .closed ↔ step.close = true
  silent : step.close = true → step.frames = []
  /-- Every other step is one whole reply. -/
  reply : step.close = false →
    Wire.IsReply c'.session.capabilities (frame.sequence + 1) step.frames
  answers : step.close = false → step.frames ≠ []
  /-- The frames count up from the request, modulo 256. -/
  sequence : ∀ i reply, step.frames[i]? = some reply →
    reply.sequence = frame.sequence + 1 + UInt8.ofNat i
  /-- The session holds the number of the last frame. -/
  last : ∀ reply, step.frames.getLast? = some reply → c'.session.sequence = reply.sequence

/-- A step that sends a reply sets the number of the session, and changes nothing else. -/
theorem settle_of_reply {s : Session} {frames : List Wire.Frame} (h : frames ≠ []) :
    settle s { frames } = { s with sequence := (frames.getLast h).sequence } := by
  unfold settle
  dsimp only
  rw [List.getLast?_eq_some_getLast h]
  rfl

/-- A step that sends one whole reply, counted from the request, is as a client may count on. -/
theorem disciplined_of_reply {s : Session} {frames : List Wire.Frame} (hphase : s.phase ≠ .closed)
    (hquit : ¬ (c.session.phase = .authenticated ∧ frame.payload.head? = some 0x01))
    (hreply : Wire.IsReply s.capabilities (frame.sequence + 1) frames) :
    Disciplined c frame { frames } { c with session := settle s { frames } } := by
  have hne : frames ≠ [] := hreply.ne_nil
  rw [settle_of_reply hne]
  constructor
  case close_iff => exact ⟨fun h => absurd h Bool.false_ne_true, fun h => absurd h hquit⟩
  case closed_iff => exact ⟨fun h => absurd h hphase, fun h => absurd h Bool.false_ne_true⟩
  case silent => exact fun h => absurd h Bool.false_ne_true
  case reply => exact fun _ => hreply
  case answers => exact fun _ => hne
  case sequence => exact fun i reply hi => hreply.sequence hi
  case last =>
    intro reply hlast
    rw [List.getLast?_eq_some_getLast hne] at hlast
    rw [← Option.some.inj hlast]

/-- A command that ends the connection is as a client may count on. -/
theorem disciplined_of_quits {s : Session} (hphase : c.session.phase = .authenticated)
    (hquits : Command.Quits frame.payload) :
    Disciplined c frame { close := true } { c with session := settle s { close := true } } where
  close_iff := ⟨fun _ => ⟨hphase, hquits⟩, fun _ => rfl⟩
  closed_iff := ⟨fun _ => rfl, fun _ => rfl⟩
  silent := fun _ => rfl
  reply := fun h => absurd h.symm Bool.false_ne_true
  answers := fun h => absurd h.symm Bool.false_ne_true
  sequence := fun i reply h => by cases h
  last := fun reply h => by cases h

/-- A failure that can be answered is answered with one error packet. -/
theorem disciplined_onError {s : Session} {e : Error} (he : e.isFatal = false)
    (hphase : s.phase ≠ .closed) (hsequence : s.sequence = frame.sequence)
    (hquit : ¬ (c.session.phase = .authenticated ∧ frame.payload.head? = some 0x01)) :
    Disciplined c frame (onError s e) { c with session := settle s (onError s e) } := by
  rw [onError_of_not_fatal he]
  refine disciplined_of_reply hphase hquit ?_
  unfold Session.nextSequence
  rw [hsequence]
  exact .err _

/-- **No error that can arise ends the connection.** -/
structure NeverFatal (backend : Backend σ) (c : Connection) (state : σ) (frame : Wire.Frame) : Prop where
  /-- Not in front of a login. -/
  login : ∀ e, onHandshake c.config { c.session with sequence := frame.sequence } frame.payload =
    .error e → e.isFatal = false
  /-- Not behind it. -/
  command : ∀ e, (Command.dispatch backend { c.session with sequence := frame.sequence } state
    frame.payload).reply = .error (.error e) → e.isFatal = false

theorem neverFatal (backend : Backend σ) (c : Connection) (state : σ) (frame : Wire.Frame) :
    NeverFatal backend c state frame where
  login := fun _ h => (onHandshake_error h).1
  command := by
    intro e h
    by_cases hquits : Command.Quits frame.payload
    · rw [Command.dispatch_of_quits _ _ _ hquits] at h
      cases h
    · have hanswers := Command.dispatch_answers backend
        { c.session with sequence := frame.sequence } state hquits
      rw [h] at hanswers
      cases hanswers with
      | failed _ he => exact he

/-- In front of a login a frame is answered with success or with an error. -/
theorem disciplined_of_awaitingAuth (backend : Backend σ) {c : Connection} (state : σ)
    (frame : Wire.Frame) (hp : c.session.phase = .awaitingAuth) :
    ∃ step c' state', onFrame backend c state frame = (.ok step, c', state') ∧
      Disciplined c frame step c' := by
  have hquit : ¬ (c.session.phase = .authenticated ∧ frame.payload.head? = some 0x01) := by
    rw [hp]
    nofun
  have hopen : c.session.phase ≠ .closed := by
    rw [hp]
    nofun
  rw [onFrame_of_awaitingAuth hp]
  cases hh : onHandshake c.config { c.session with sequence := frame.sequence } frame.payload with
  | ok v =>
    obtain ⟨step, s'⟩ := v
    obtain ⟨capabilities, username, database, -, rfl, packet, rfl⟩ := onHandshake_ok hh
    exact ⟨_, _, _, rfl, disciplined_of_reply nofun hquit (.ok packet)⟩
  | error e =>
    have he : e.isFatal = false := (onHandshake_error hh).1
    exact ⟨_, _, _, rfl, disciplined_onError he hopen rfl hquit⟩

/-- Behind a login a command ends the connection, or is answered with what it comes to. -/
theorem disciplined_of_authenticated (backend : Backend σ) {c : Connection} (state : σ)
    (frame : Wire.Frame) (hp : c.session.phase = .authenticated)
    (hcrash : ∀ crash, (Command.dispatch backend { c.session with sequence := frame.sequence } state
      frame.payload).reply ≠ .error (.crash crash)) :
    ∃ step c' state', onFrame backend c state frame = (.ok step, c', state') ∧
      Disciplined c frame step c' := by
  rw [onFrame_of_authenticated hp]
  by_cases hquits : Command.Quits frame.payload
  · rw [Command.dispatch_of_quits _ _ _ hquits]
    exact ⟨_, _, _, rfl, disciplined_of_quits hp hquits⟩
  · have hquit : ¬ (c.session.phase = .authenticated ∧ frame.payload.head? = some 0x01) :=
      fun h => hquits h.2
    have hopen : c.session.phase ≠ .closed := by
      rw [hp]
      nofun
    -- a command changes neither the number of the session nor what it can do
    obtain ⟨database, hd⟩ := Command.dispatch_session backend
      { c.session with sequence := frame.sequence } state frame.payload
    have hanswers := Command.dispatch_answers backend
      { c.session with sequence := frame.sequence } state hquits
    generalize Command.dispatch backend { c.session with sequence := frame.sequence } state
      frame.payload = outcome at hd hanswers hcrash
    obtain ⟨reply, session, state'⟩ := outcome
    obtain rfl : session = _ := hd
    cases hanswers with
    | failed e he => exact ⟨_, _, _, rfl, disciplined_onError he hopen rfl hquit⟩
    | crashed crash => exact absurd rfl (hcrash crash)
    | answered frames hreply => exact ⟨_, _, _, rfl, disciplined_of_reply hopen hquit hreply⟩

/-- **Every request has one reply**, counted from the request, in every state of a connection that has not
ended and over every backend; only a logged-in client ends the connection, and it does so by commanding it.
A crash of the worker is left out. -/
theorem reply_discipline (backend : Backend σ) (c : Connection) (state : σ) (frame : Wire.Frame)
    (hopen : c.session.phase ≠ .closed)
    (hcrash : c.session.phase = .authenticated → ∀ crash,
      (Command.dispatch backend { c.session with sequence := frame.sequence } state
        frame.payload).reply ≠ .error (.crash crash)) :
    NeverFatal backend c state frame ∧
      ∃ step c' state', onFrame backend c state frame = (.ok step, c', state') ∧
        Disciplined c frame step c' := by
  refine ⟨neverFatal backend c state frame, ?_⟩
  cases hp : c.session.phase with
  | closed => exact absurd hp hopen
  | awaitingAuth => exact disciplined_of_awaitingAuth backend state frame hp
  | authenticated => exact disciplined_of_authenticated backend state frame hp (hcrash hp)

/-- A query for a table of two rows, whose reply counts past 255. -/
theorem reply_discipline_past_255 :
    let t : Table := { columns := [⟨"id", .int⟩], rows := [[.int 7], [.null]] }
    let s : Store :=
      { catalog := { databases := .ofEntries [("d", { tables := .ofEntries [("t", t)] })] } }
    let session : Session :=
      { connectionId := 1, challenge := .ofBytes [], authenticated := true, database := some "d",
        phase := .authenticated }
    let c : Connection := { config := {}, session }
    let frame : Wire.Frame := ⟨252, 0x03 :: Text.encode "SELECT * FROM t"⟩
    c.session.phase ≠ .closed ∧ NeverFatal Store.backend c s frame ∧
      ∃ step c' s', onFrame Store.backend c s frame = (.ok step, c', s') ∧
        Disciplined c frame step c' := by
  intro t s session c frame
  have hopen : c.session.phase ≠ .closed := by decide
  have hanswered : (Command.dispatch Store.backend { c.session with sequence := frame.sequence } s
      frame.payload).reply.isOk = true := by decide +kernel
  have hcrash : c.session.phase = .authenticated → ∀ crash,
      (Command.dispatch Store.backend { c.session with sequence := frame.sequence } s
        frame.payload).reply ≠ .error (.crash crash) := by
    intro _ crash h
    rw [h] at hanswered
    cases hanswered
  exact ⟨hopen, reply_discipline Store.backend c s frame hopen hcrash⟩

end Connection

end WireSql
