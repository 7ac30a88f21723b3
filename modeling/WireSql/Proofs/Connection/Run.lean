import Mathlib.Data.List.Induction
import WireSql.Proofs.Connection.Handshake

/-!
# `WireSql.Proofs.Connection.Run`: what frames do to a session

`Connection.run` answers any number of frames, one after the other. What one frame can do to the session
is said once, by `Session.Moves`, with a constructor for each way: a login is refused or let in, a command
is answered or ends the connection, and a connection that has ended stays as it is. `onFrame_moves`
shows that there is no other way, and everything about runs is derived from it by induction on the
frames.

The backend takes no part while the connection waits for a login: `onFrame_of_awaiting` says so for one
frame and `run_of_awaiting` for a run.
-/

namespace WireSql

/-- **What one frame with this payload can do to a session.** -/
inductive Session.Moves (config : ServerConfig) (payload : Bytes) (s : Session) : Session → Prop where
  /-- A payload that is no login is refused. -/
  | refused (hp : s.phase = .awaitingAuth)
      (hno : ∀ capabilities, ¬ Login.Admits config s.challenge payload capabilities)
      (sequence : UInt8) : Moves config payload s { s with sequence }
  | letIn (hp : s.phase = .awaitingAuth) {capabilities : UInt32}
      (hadm : Login.Admits config s.challenge payload capabilities) (sequence : UInt8)
      (username database : Option String) :
      Moves config payload s { s.login capabilities username database with sequence }
  /-- A command is answered, and may change the database. -/
  | goesOn (hp : s.phase = .authenticated) (sequence : UInt8) (database : Option String) :
      Moves config payload s { s with sequence, database }
  | ends (hp : s.phase = .authenticated) (sequence : UInt8) (database : Option String) :
      Moves config payload s { s with sequence, database, phase := .closed }
  /-- Nothing happens behind the end. -/
  | stays (hp : s.phase = .closed) (sequence : UInt8) : Moves config payload s { s with sequence }

namespace Command

variable {σ : Type} (backend : Backend σ) (s : Session) (state : σ)

/-- A database that is not there is no reason to end the connection. -/
theorem isFatal_of_selectDatabase {backend : Backend σ} {state : σ} {name : String} {e : Error}
    (h : backend.selectDatabase state name = .error e) : e.isFatal = false := by
  obtain ⟨missing, rfl⟩ := backend.selectDatabase_error state name e h
  rfl

theorem switchAndReport_session (name : List Char) (packet : Wire.OkPacket) :
    ∃ database, (switchAndReport backend s state name packet).session = { s with database } := by
  unfold switchAndReport
  split
  · next s' h =>
    unfold switch at h
    cases hd : backend.selectDatabase state (String.ofList (bareName name)) with
    | ok u =>
      simp only [hd, bind, Except.bind, pure, Except.pure, Except.ok.injEq] at h
      exact ⟨_, h.symm⟩
    | error e => simp [hd, bind, Except.bind] at h
  · exact ⟨s.database, rfl⟩

theorem forgetMissing_eq (state : σ) :
    ∃ database, forgetMissing backend state s = { s with database } := by
  unfold forgetMissing
  split
  · exact ⟨s.database, rfl⟩
  · split
    · exact ⟨s.database, rfl⟩
    · exact ⟨none, rfl⟩

theorem forward_session (sql : String) :
    ∃ database, (forward backend s state sql).session = { s with database } := by
  unfold forward
  split
  · exact ⟨s.database, rfl⟩
  · next r state' _ =>
    show ∃ database, (if r.isCommand then forgetMissing backend state' s else s) = { s with database }
    split
    · exact forgetMissing_eq backend s state'
    · exact ⟨s.database, rfl⟩

theorem query_session (sql : String) :
    ∃ database, (query backend s state sql).session = { s with database } := by
  unfold query
  split
  · exact ⟨s.database, rfl⟩
  · split
    · exact switchAndReport_session backend s state _ _
    · split
      · exact ⟨s.database, rfl⟩
      · exact ⟨s.database, rfl⟩
      · exact forward_session backend s state sql

/-- **A command changes at most the database of a session.** -/
theorem dispatch_session (payload : Bytes) :
    ∃ database, (dispatch backend s state payload).session = { s with database } := by
  unfold dispatch
  split
  · exact ⟨s.database, rfl⟩
  · split
    · exact ⟨s.database, rfl⟩
    · exact ⟨s.database, rfl⟩
    · exact switchAndReport_session backend s state _ _
    · exact query_session backend s state _
    · exact ⟨s.database, rfl⟩
  · exact ⟨s.database, rfl⟩

end Command

namespace Connection

variable {σ τ : Type}

/-! ## One frame -/

/-- Settling a step sets the sequence number, and ends the session where the step says so. -/
theorem settle_eq (s : Session) (step : Step) :
    ∃ sequence, settle s step =
      if step.close then { s with sequence, phase := .closed } else { s with sequence } := by
  unfold settle
  cases step.frames.getLast? with
  | none => exact ⟨s.sequence, rfl⟩
  | some last => exact ⟨last.sequence, rfl⟩

/-- A refusal that leaves the connection open is one error packet. -/
theorem onError_of_not_fatal {s : Session} {e : Error} (h : e.isFatal = false) :
    onError s e = { frames := [(Wire.ErrPacket.ofError e).toFrame s.nextSequence] } := by
  simp [onError, h]

/-- A frame for a connection that waits for a login is decided by `onHandshake`. -/
theorem onFrame_of_awaitingAuth {c : Connection} (h : c.session.phase = .awaitingAuth)
    (backend : Backend σ) (state : σ) (frame : Wire.Frame) :
    onFrame backend c state frame =
      match onHandshake c.config { c.session with sequence := frame.sequence } frame.payload with
      | .ok (step, s) => (.ok step, { c with session := settle s step }, state)
      | .error e =>
        let step := onError { c.session with sequence := frame.sequence } e
        (.ok step,
          { c with session := settle { c.session with sequence := frame.sequence } step }, state) := by
  simp only [onFrame, stepOf, h]
  cases onHandshake c.config _ frame.payload <;> rfl

/-- A frame for a logged-in session is answered by `Command.dispatch`. -/
theorem onFrame_of_authenticated {c : Connection} (h : c.session.phase = .authenticated)
    (backend : Backend σ) (state : σ) (frame : Wire.Frame) :
    onFrame backend c state frame =
      let outcome := Command.dispatch backend { c.session with sequence := frame.sequence } state
        frame.payload
      match outcome.reply with
      | .ok reply =>
        (.ok (ofReply reply), { c with session := settle outcome.session (ofReply reply) },
          outcome.state)
      | .error (.error e) =>
        (.ok (onError outcome.session e),
          { c with session := settle outcome.session (onError outcome.session e) }, outcome.state)
      | .error (.crash crash) => (.error crash, { c with session := outcome.session }, outcome.state) := by
  simp only [onFrame, stepOf, h]
  cases (Command.dispatch backend _ state frame.payload).reply with
  | ok reply => rfl
  | error fault => cases fault <;> rfl

/-- **A connection that has ended answers nothing** and changes nothing but its sequence number. -/
theorem onFrame_of_closed {c : Connection} (h : c.session.phase = .closed) (backend : Backend σ)
    (state : σ) (frame : Wire.Frame) :
    onFrame backend c state frame =
      (.ok { close := true }, { c with session := { c.session with sequence := frame.sequence } },
        state) := by
  simp [onFrame, stepOf, settle, Session.close, h]

/-- **While a connection waits for a login, its backend is neither asked nor changed**: the answer to a
frame is the same over every other backend in every other state. -/
theorem onFrame_of_awaiting {c : Connection} (h : c.session.phase = .awaitingAuth)
    (backend : Backend σ) (state : σ) (other : Backend τ) (t : τ) (frame : Wire.Frame) :
    onFrame other c t frame =
      ((onFrame backend c state frame).1, (onFrame backend c state frame).2.1, t) := by
  rw [onFrame_of_awaitingAuth h, onFrame_of_awaitingAuth h]
  cases onHandshake c.config { c.session with sequence := frame.sequence } frame.payload <;> rfl

/-- **The settings of a connection stay, and its session makes one of the known moves.** -/
theorem onFrame_moves (backend : Backend σ) (c : Connection) (state : σ) (frame : Wire.Frame) :
    (onFrame backend c state frame).2.1.config = c.config ∧
      Session.Moves c.config frame.payload c.session (onFrame backend c state frame).2.1.session := by
  cases hp : c.session.phase with
  | closed =>
    rw [onFrame_of_closed hp]
    exact ⟨rfl, .stays hp frame.sequence⟩
  | awaitingAuth =>
    rw [onFrame_of_awaitingAuth hp]
    cases hh : onHandshake c.config { c.session with sequence := frame.sequence } frame.payload with
    | ok v =>
      obtain ⟨step, s'⟩ := v
      obtain ⟨capabilities, username, database, hadm, rfl, packet, rfl⟩ := onHandshake_ok hh
      exact ⟨rfl, .letIn hp hadm _ username database⟩
    | error e =>
      obtain ⟨hfatal, hno⟩ := onHandshake_error hh
      dsimp only
      rw [onError_of_not_fatal hfatal]
      exact ⟨rfl, .refused hp hno _⟩
  | authenticated =>
    rw [onFrame_of_authenticated hp]
    obtain ⟨database, hd⟩ := Command.dispatch_session backend
      { c.session with sequence := frame.sequence } state frame.payload
    -- whatever is answered, the session settles with the database that the command leaves
    have hsettle : ∀ step, Session.Moves c.config frame.payload c.session
        (settle (Command.dispatch backend { c.session with sequence := frame.sequence } state
          frame.payload).session step) := by
      intro step
      rw [hd]
      obtain ⟨sequence, hs⟩ := settle_eq
        { c.session with sequence := frame.sequence, database } step
      rw [hs]
      split
      · exact .ends hp sequence database
      · exact .goesOn hp sequence database
    dsimp only
    split
    · exact ⟨rfl, hsettle _⟩
    · exact ⟨rfl, hsettle _⟩
    · exact ⟨rfl, hd ▸ .goesOn hp frame.sequence database⟩

/-! ## Any number of frames -/

/-- The connection and the state of its backend behind one frame. -/
def next (backend : Backend σ) (p : Connection × σ) (frame : Wire.Frame) : Connection × σ :=
  (onFrame backend p.1 p.2 frame).2

/-- **The connection and the state of its backend behind any number of frames.** A crash ends the worker
that answers; the states it has gone through are those of the frames up to the crash. -/
def run (backend : Backend σ) (p : Connection × σ) (frames : List Wire.Frame) : Connection × σ :=
  frames.foldl (next backend) p

variable {backend : Backend σ} {p : Connection × σ}

theorem run_append (earlier later : List Wire.Frame) :
    run backend p (earlier ++ later) = run backend (run backend p earlier) later :=
  List.foldl_append

theorem run_concat (frames : List Wire.Frame) (frame : Wire.Frame) :
    run backend p (frames ++ [frame]) = next backend (run backend p frames) frame :=
  run_append frames [frame]

/-- **What every move keeps, every run keeps.** -/
theorem run_induction {motive : Session → Prop}
    (hstep : ∀ payload s s', Session.Moves p.1.config payload s s' → motive s → motive s')
    (hinit : motive p.1.session) (frames : List Wire.Frame) :
    (run backend p frames).1.config = p.1.config ∧ motive (run backend p frames).1.session := by
  induction frames using List.reverseRecOn with
  | nil => exact ⟨rfl, hinit⟩
  | append_singleton frames frame ih =>
    rw [run_concat]
    -- the settings are carried along: the next move is one under the settings of the start
    obtain ⟨hconfig, hm⟩ := ih
    obtain ⟨hconfig', hmoves⟩ := onFrame_moves backend (run backend p frames).1
      (run backend p frames).2 frame
    exact ⟨hconfig'.trans hconfig, hstep frame.payload _ _ (hconfig ▸ hmoves) hm⟩

/-- A session that waits for a login after a move has waited before it. -/
theorem awaiting_of_moves {config : ServerConfig} {payload : Bytes} {s s' : Session}
    (h : Session.Moves config payload s s') (hp : s'.phase = .awaitingAuth) :
    s.phase = .awaitingAuth := by
  cases h with
  | refused h => exact h
  | letIn h => exact h
  | goesOn _ => exact hp
  | ends _ => cases hp
  | stays _ => exact hp

/-- **As long as a connection waits for a login, its backend takes no part**: the run is the same over
every other backend in every other state, which it leaves alone. -/
theorem run_of_awaiting {c : Connection} {state : σ} (frames : List Wire.Frame)
    (h : (run backend (c, state) frames).1.session.phase = .awaitingAuth) (other : Backend τ) (t : τ) :
    run other (c, t) frames = ((run backend (c, state) frames).1, t) := by
  induction frames using List.reverseRecOn with
  | nil => rfl
  | append_singleton frames frame ih =>
    rw [run_concat] at h
    -- who waits behind the last frame has waited in front of it
    have hbefore : (run backend (c, state) frames).1.session.phase = .awaitingAuth :=
      awaiting_of_moves (onFrame_moves backend _ _ frame).2 h
    rw [run_concat, run_concat, ih hbefore]
    exact congrArg Prod.snd (onFrame_of_awaiting hbefore backend _ other t frame)

end Connection

end WireSql
