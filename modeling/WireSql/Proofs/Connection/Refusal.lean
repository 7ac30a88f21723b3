import WireSql.Proofs.Connection.Run
import WireSql.Proofs.Store.AllOrNothing
import WireSql.Proofs.Wire.Marks

/-!
# `WireSql.Proofs.Connection.Refusal`: a refused request leaves no trace

A client that is answered with an error packet may take its request as never made. `Outcome.Settles` lists
the ways in which a command can come out, and only the one with a reply changes anything;
`dispatch_settles` shows that there is no other way, over every backend that fails without a trace.
`Store.backend_failsClean` says that the backend that keeps its tables in memory is one.

`refusal_leaves_no_trace` puts this together for one frame of any connection over any store.
-/

namespace WireSql

/-- **A backend that fails without a trace**: a statement that fails leaves its state alone. -/
def Backend.FailsClean {σ : Type} (backend : Backend σ) : Prop :=
  ∀ state sql capabilities database e,
    (backend.execute state sql capabilities database).1 = .error e →
      (backend.execute state sql capabilities database).2 = state

/-- The backend that keeps its tables in memory fails without a trace. -/
theorem Store.backend_failsClean : Store.backend.FailsClean := by
  intro s sql capabilities database e h
  rw [backend_execute] at h ⊢
  cases hrun : s.execute sql database with
  | ok v => rw [hrun] at h; cases h
  | error e' => rfl

/-! ## Commands -/

namespace Command

variable {σ : Type}

/-- **The ways in which a command can come out.** A failure leaves the session and the state as they were,
and the connection open; a reply holds no error packet. -/
inductive Outcome.Settles (s : Session) (state : σ) : Outcome σ → Prop where
  | failed (e : Error) (he : e.isFatal = false) : Settles s state ⟨.error (.error e), s, state⟩
  /-- The worker ends. -/
  | crashed (crash : Introspection.Crash) : Settles s state ⟨.error (.crash crash), s, state⟩
  | answered (frames : List Wire.Frame) (hframes : ∀ frame ∈ frames, ¬ Wire.MarksError frame.payload)
      (session : Session) (state' : σ) : Settles s state ⟨.ok (.frames frames), session, state'⟩
  | ended : Settles s state ⟨.ok .close, s, state⟩

variable {backend : Backend σ} {s : Session} {state : σ}

theorem not_marksError_of_mem_ok {p : Wire.OkPacket} {sequence : UInt8} :
    ∀ frame ∈ [p.toFrame sequence], ¬ Wire.MarksError frame.payload := by
  intro frame h
  obtain rfl := List.mem_singleton.mp h
  exact Wire.not_marksError_ok p

theorem settles_switchAndReport (name : List Char) (packet : Wire.OkPacket) :
    Outcome.Settles s state (switchAndReport backend s state name packet) := by
  unfold switchAndReport switch
  dsimp only
  cases hd : backend.selectDatabase state (String.ofList (bareName name)) with
  | ok _ => exact .answered _ not_marksError_of_mem_ok _ _
  | error e => exact .failed e (isFatal_of_selectDatabase hd)

theorem settles_forward (hb : backend.FailsClean) (sql : String) :
    Outcome.Settles s state (forward backend s state sql) := by
  unfold forward
  split
  · next e state' h =>
    -- a backend may have done something before it failed; this one has not
    have hkept : state' = state := by
      have hclean := hb state sql s.capabilities s.database e
      rw [h] at hclean
      exact hclean rfl
    subst hkept
    exact .failed _ rfl
  · exact .answered _ (fun _ hf => Wire.not_marksError_of_mem_resultFrames hf) _ _

theorem settles_query (hb : backend.FailsClean) (sql : String) :
    Outcome.Settles s state (query backend s state sql) := by
  unfold query
  split
  · exact .failed _ rfl
  · split
    · exact settles_switchAndReport _ _
    · split
      · exact .crashed _
      · exact .answered _ (fun _ hf => Wire.not_marksError_of_mem_resultFrames hf) _ _
      · exact settles_forward hb sql

/-- A payload that is no command is reported as malformed. -/
theorem parse_command_error {payload : Bytes} {e : Error}
    (h : Wire.Packet.parse payload .command = .error e) :
    ∃ detail, e = Wire.Parse.malformed payload detail := by
  unfold Wire.Packet.parse at h
  cases payload with
  | nil => exact ⟨_, (Except.error.inj h).symm⟩
  | cons code body => cases h

/-- **A command comes out in one of the known ways.** -/
theorem dispatch_settles (hb : backend.FailsClean) (payload : Bytes) :
    Outcome.Settles s state (dispatch backend s state payload) := by
  unfold dispatch
  split
  · next e h =>
    obtain ⟨detail, rfl⟩ := parse_command_error h
    exact .failed _ rfl
  · split
    · exact .ended
    · exact .answered _ not_marksError_of_mem_ok _ _
    · exact settles_switchAndReport _ _
    · exact settles_query hb _
    · exact .failed _ rfl
  · exact .failed _ rfl

end Command

/-! ## Frames -/

namespace Connection

variable {σ : Type} {backend : Backend σ} {c : Connection} {state : σ} {frame : Wire.Frame}

/-- Does a reply hold an error packet? -/
def Step.Refuses (step : Step) : Prop := ∃ frame ∈ step.frames, Wire.MarksError frame.payload

/-- A failure that leaves the connection open is answered with an error packet. -/
theorem refuses_onError {s : Session} {e : Error} (he : e.isFatal = false) :
    (onError s e).Refuses := by
  rw [onError_of_not_fatal he]
  exact ⟨_, List.mem_singleton.mpr rfl, Wire.marksError_err _⟩

/-- Such a failure changes nothing of a session but its sequence number. -/
theorem settle_onError {s : Session} {e : Error} (he : e.isFatal = false) :
    settle s (onError s e) = { s with sequence := s.nextSequence } := by
  rw [onError_of_not_fatal he]
  rfl

/-- **A frame that is answered with an error packet leaves no trace**, over every backend that fails
without one. -/
theorem no_trace_of_refuses (hb : backend.FailsClean) {step : Step} {c' : Connection} {state' : σ}
    (h : onFrame backend c state frame = (.ok step, c', state')) (hr : step.Refuses) :
    state' = state ∧ ∃ sequence, c' = { c with session := { c.session with sequence } } := by
  obtain ⟨reply, hreply, hmark⟩ := hr
  cases hp : c.session.phase with
  | closed =>
    rw [onFrame_of_closed hp] at h
    cases h
    cases hreply
  | awaitingAuth =>
    -- who is let in is answered with success
    rw [onFrame_of_awaitingAuth hp] at h
    cases hh : onHandshake c.config { c.session with sequence := frame.sequence } frame.payload with
    | ok v =>
      rw [hh] at h
      obtain ⟨step', s'⟩ := v
      obtain ⟨-, -, -, -, -, packet, rfl⟩ := onHandshake_ok hh
      cases h
      exact absurd hmark (Command.not_marksError_of_mem_ok reply hreply)
    | error e =>
      rw [hh] at h
      have he : e.isFatal = false := (onHandshake_error hh).1
      cases h
      exact ⟨rfl, _, congrArg (fun session => { c with session }) (settle_onError he)⟩
  | authenticated =>
    -- of the ways in which a command comes out, failing is the one with an error packet
    rw [onFrame_of_authenticated hp] at h
    have hsettles : Command.Outcome.Settles { c.session with sequence := frame.sequence } state _ :=
      Command.dispatch_settles hb frame.payload
    generalize Command.dispatch backend { c.session with sequence := frame.sequence } state
      frame.payload = outcome at h hsettles
    cases hsettles with
    | failed e he =>
      cases h
      exact ⟨rfl, _, congrArg (fun session => { c with session }) (settle_onError he)⟩
    | crashed crash => cases h
    | answered frames hframes session state'' =>
      cases h
      exact absurd hmark (hframes reply hreply)
    | ended =>
      cases h
      cases hreply

/-- **What a refusal guarantees** of one frame for a connection over a store. -/
structure CleanRefusal (c : Connection) (s : Store) (frame : Wire.Frame) : Prop where
  /-- Behind an error packet the catalog and its file are what they were before, and so is everything of
  the connection but its sequence number. -/
  no_trace : ∀ step c' s', onFrame Store.backend c s frame = (.ok step, c', s') → step.Refuses →
    s' = s ∧ ∃ sequence, c' = { c with session := { c.session with sequence } }
  /-- Every login that is not admitted is refused so. -/
  login : c.session.phase = .awaitingAuth →
    (∀ capabilities, ¬ Login.Admits c.config c.session.challenge frame.payload capabilities) →
    ∃ step c' s', onFrame Store.backend c s frame = (.ok step, c', s') ∧ step.Refuses
  /-- Every command that fails is refused so. -/
  command : c.session.phase = .authenticated →
    ∀ e, (Command.dispatch Store.backend { c.session with sequence := frame.sequence } s
      frame.payload).reply = .error (.error e) →
    ∃ step c' s', onFrame Store.backend c s frame = (.ok step, c', s') ∧ step.Refuses

/-- **A refused request leaves no trace**, in every state of a connection and over every store. -/
theorem refusal_leaves_no_trace (c : Connection) (s : Store) (frame : Wire.Frame) :
    CleanRefusal c s frame where
  no_trace := fun _ _ _ h hr => no_trace_of_refuses Store.backend_failsClean h hr
  login := by
    intro hp hno
    rw [onFrame_of_awaitingAuth hp]
    cases hh : onHandshake c.config { c.session with sequence := frame.sequence } frame.payload with
    | ok v =>
      obtain ⟨capabilities, -, -, hadm, -⟩ := onHandshake_ok hh
      exact absurd hadm (hno capabilities)
    | error e => exact ⟨_, _, _, rfl, refuses_onError (onHandshake_error hh).1⟩
  command := by
    intro hp e he
    rw [onFrame_of_authenticated hp]
    have hsettles : Command.Outcome.Settles { c.session with sequence := frame.sequence } s _ :=
      Command.dispatch_settles Store.backend_failsClean frame.payload
    generalize Command.dispatch Store.backend { c.session with sequence := frame.sequence } s
      frame.payload = outcome at he hsettles ⊢
    cases hsettles with
    | failed e' he' => exact ⟨_, _, _, rfl, refuses_onError he'⟩
    | crashed crash => cases he
    | answered frames hframes session state' => cases he
    | ended => cases he

/-- A statement of two rows whose second one does not fit is refused, and the first one is not there. -/
theorem refusal_leaves_no_trace_second_row :
    let t : Table := { columns := [⟨"id", .int⟩], rows := [[.int 7]] }
    let s : Store :=
      { catalog := { databases := .ofEntries [("d", { tables := .ofEntries [("t", t)] })] },
        autosave := some { text := none } }
    let session : Session :=
      { connectionId := 1, challenge := .ofBytes [], authenticated := true, database := some "d",
        phase := .authenticated }
    let c : Connection := { config := {}, session }
    let sql := "INSERT INTO t VALUES (1), ('x')"
    let frame : Wire.Frame := ⟨0, 0x03 :: Text.encode sql⟩
    ∃ step c', onFrame Store.backend c s frame = (.ok step, c', s) ∧ step.Refuses ∧
      ∃ sequence, c' = { c with session := { c.session with sequence } } := by
  intro t s session c sql frame
  have hfails : (Command.dispatch Store.backend { c.session with sequence := frame.sequence } s
      frame.payload).reply = .error (.error (.query
        { fault := .database, message := "Incorrect INT value: 'x' for column 'id'",
          sql := some sql })) := by decide +kernel
  have hclean : CleanRefusal c s frame := refusal_leaves_no_trace c s frame
  obtain ⟨step, c', s', h, hr⟩ := hclean.command rfl _ hfails
  obtain ⟨rfl, hc⟩ := hclean.no_trace step c' s' h hr
  exact ⟨step, c', h, hr, hc⟩

end Connection

end WireSql
