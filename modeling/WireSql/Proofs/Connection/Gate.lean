import WireSql.Proofs.Connection.Run

/-!
# `WireSql.Proofs.Connection.Gate`: the login gate

A connection takes commands only behind a login. `login_gate` says what that means for a connection that
has been greeted and has then answered any frames at all, and for one frame more: where its session can
go, which payloads open the gate, that the backend takes no part in front of it, and what a login fixes
for good. The facts about single moves are read off `Session.Moves`, those about runs follow by
`run_induction`.
-/

namespace WireSql

/-! ## Single moves -/

namespace Session.Moves

variable {config : ServerConfig} {payload : Bytes} {s s' : Session}

/-- The phases come in one order, and none is skipped. -/
theorem phase_order (h : Moves config payload s s') :
    s'.phase = s.phase ∨ (s.phase = .awaitingAuth ∧ s'.phase = .authenticated) ∨
      (s.phase = .authenticated ∧ s'.phase = .closed) := by
  cases h with
  | refused _ _ _ => exact .inl rfl
  | letIn hp _ _ _ _ => exact .inr (.inl ⟨hp, rfl⟩)
  | goesOn _ _ _ => exact .inl rfl
  | ends hp _ _ => exact .inr (.inr ⟨hp, rfl⟩)
  | stays _ _ => exact .inl rfl

/-- A session is marked as logged in exactly when it no longer waits for a login. -/
theorem authenticated_iff (h : Moves config payload s s')
    (hs : s.authenticated = true ↔ s.phase ≠ .awaitingAuth) :
    s'.authenticated = true ↔ s'.phase ≠ .awaitingAuth := by
  cases h with
  | refused _ _ _ => exact hs
  | letIn _ _ _ _ _ => exact ⟨fun _ h => Phase.noConfusion h, fun _ => rfl⟩
  | goesOn _ _ _ => exact hs
  | ends hp _ _ =>
    have hauth : s.authenticated = true := hs.mpr (by rw [hp]; exact Phase.noConfusion)
    exact ⟨fun _ h => Phase.noConfusion h, fun _ => hauth⟩
  | stays _ _ => exact hs

/-- The number of a connection and its challenge never change. -/
theorem identity (h : Moves config payload s s') :
    s'.connectionId = s.connectionId ∧ s'.challenge = s.challenge := by
  cases h <;> exact ⟨rfl, rfl⟩

/-- **The gate opens for a login and for nothing else.** -/
theorem opens_iff (h : Moves config payload s s') (hp : s.phase = .awaitingAuth) :
    s'.phase ≠ .awaitingAuth ↔
      ∃ capabilities, Login.Admits config s.challenge payload capabilities := by
  cases h with
  | refused _ hno _ => exact ⟨fun h => absurd hp h, fun ⟨k, hk⟩ => absurd hk (hno k)⟩
  | letIn _ hadm _ _ _ => exact ⟨fun _ => ⟨_, hadm⟩, fun _ h => Phase.noConfusion h⟩
  | goesOn h _ _ => rw [hp] at h; cases h
  | ends h _ _ => rw [hp] at h; cases h
  | stays h _ => rw [hp] at h; cases h

/-- A login gives the session the capabilities it is admitted with. -/
theorem capabilities_of_admits (h : Moves config payload s s') (hp : s.phase = .awaitingAuth)
    {capabilities : UInt32} (hadm : Login.Admits config s.challenge payload capabilities) :
    s'.phase ≠ .awaitingAuth ∧ s'.capabilities = capabilities := by
  cases h with
  | refused _ hno _ => exact absurd hadm (hno capabilities)
  | letIn _ hadm' _ _ _ => exact ⟨Phase.noConfusion, hadm'.unique hadm⟩
  | goesOn h _ _ => rw [hp] at h; cases h
  | ends h _ _ => rw [hp] at h; cases h
  | stays h _ => rw [hp] at h; cases h

/-- Behind the gate the capabilities never change. -/
theorem capabilities_of_open (h : Moves config payload s s') (hp : s.phase ≠ .awaitingAuth) :
    s'.phase ≠ .awaitingAuth ∧ s'.capabilities = s.capabilities := by
  cases h with
  | refused h _ _ => exact absurd h hp
  | letIn h _ _ _ _ => exact absurd h hp
  | goesOn _ _ _ => exact ⟨hp, rfl⟩
  | ends _ _ _ => exact ⟨Phase.noConfusion, rfl⟩
  | stays _ _ => exact ⟨hp, rfl⟩

end Session.Moves

namespace Connection

variable {σ : Type}

/-! ## Runs -/

/-- The connection and the state of the backend behind the greeting and `frames`. -/
def reached (backend : Backend σ) (config : ServerConfig) (connectionId : UInt32)
    (challenge : Wire.Challenge) (state : σ) (frames : List Wire.Frame) : Connection × σ :=
  run backend ((new config connectionId challenge).start.2, state) frames

variable (backend : Backend σ) (config : ServerConfig) (connectionId : UInt32)
  (challenge : Wire.Challenge) (state : σ) (frames : List Wire.Frame)

theorem config_reached :
    (reached backend config connectionId challenge state frames).1.config = config :=
  (run_induction (motive := fun _ => True) (fun _ _ _ _ _ => trivial) trivial frames).1

theorem identity_reached :
    (reached backend config connectionId challenge state frames).1.session.connectionId = connectionId ∧
      (reached backend config connectionId challenge state frames).1.session.challenge = challenge :=
  (run_induction
    (motive := fun s => s.connectionId = connectionId ∧ s.challenge = challenge)
    (fun _ _ _ h hs => ⟨h.identity.1.trans hs.1, h.identity.2.trans hs.2⟩) ⟨rfl, rfl⟩ frames).2

theorem authenticated_reached_iff :
    (reached backend config connectionId challenge state frames).1.session.authenticated = true ↔
      (reached backend config connectionId challenge state frames).1.session.phase ≠ .awaitingAuth :=
  (run_induction (motive := fun s => s.authenticated = true ↔ s.phase ≠ .awaitingAuth)
    (fun _ _ _ h hs => h.authenticated_iff hs)
    ⟨fun h => Bool.noConfusion h, fun h => absurd rfl h⟩ frames).2

/-- Behind the gate no frames change the capabilities. -/
theorem capabilities_run {p : Connection × σ} (h : p.1.session.phase ≠ .awaitingAuth) :
    (run backend p frames).1.session.capabilities = p.1.session.capabilities := by
  have hkept : (run backend p frames).1.config = p.1.config ∧
      ((run backend p frames).1.session.phase ≠ .awaitingAuth ∧
        (run backend p frames).1.session.capabilities = p.1.session.capabilities) :=
    run_induction
      (motive := fun s => s.phase ≠ .awaitingAuth ∧ s.capabilities = p.1.session.capabilities)
      (fun _ _ _ hm hs =>
        ⟨(hm.capabilities_of_open hs.1).1, (hm.capabilities_of_open hs.1).2.trans hs.2⟩)
      ⟨h, rfl⟩ frames
  exact hkept.2.2

/-! ## The gate -/

/-- **What the login gate guarantees** of a connection `before` it answers one more `frame`. -/
structure LoginGate (frame : Wire.Frame) (before : Connection × σ) : Prop where
  /-- The challenge that a login answers is the one that the greeting carries. -/
  greeted : ∃ greeting : Wire.Greeting,
    (new config connectionId challenge).start.1 = greeting.toFrame ∧ greeting.challenge = challenge
  /-- The number of the connection and its challenge have never changed. -/
  identity : before.1.session.connectionId = connectionId ∧ before.1.session.challenge = challenge
  /-- The session waits, then is logged in, then has ended. -/
  phase_order : (onFrame backend before.1 before.2 frame).2.1.session.phase = before.1.session.phase ∨
    (before.1.session.phase = .awaitingAuth ∧
      (onFrame backend before.1 before.2 frame).2.1.session.phase = .authenticated) ∨
    (before.1.session.phase = .authenticated ∧
      (onFrame backend before.1 before.2 frame).2.1.session.phase = .closed)
  /-- A connection that has ended answers with the end and no frame, and changes only its sequence
  number. -/
  closed_absorbing : before.1.session.phase = .closed →
    onFrame backend before.1 before.2 frame =
      (.ok { frames := [], close := true },
        { before.1 with session := { before.1.session with sequence := frame.sequence } }, before.2)
  /-- The session is marked as logged in exactly when it no longer waits. -/
  authenticated_iff :
    before.1.session.authenticated = true ↔ before.1.session.phase ≠ .awaitingAuth
  /-- The gate opens for a payload that `Login.Admits`, and for no other. -/
  opens_iff : before.1.session.phase = .awaitingAuth →
    ((onFrame backend before.1 before.2 frame).2.1.session.phase ≠ .awaitingAuth ↔
      ∃ capabilities, Login.Admits config challenge frame.payload capabilities)
  /-- Up to the frame that opens the gate, and with it, the state of the backend is the first one. All
  that has happened would have happened over any other backend, so this one has not been asked. -/
  backend_untouched : before.1.session.phase = .awaitingAuth →
    before.2 = state ∧ (onFrame backend before.1 before.2 frame).2.2 = state ∧
      ∀ (τ : Type) (other : Backend τ) (t : τ),
        reached other config connectionId challenge t frames = (before.1, t) ∧
          onFrame other before.1 t frame =
            ((onFrame backend before.1 before.2 frame).1,
              (onFrame backend before.1 before.2 frame).2.1, t)
  /-- The capabilities of a login are those that `Login.Admits` names, whatever comes later. -/
  capabilities_fixed : before.1.session.phase = .awaitingAuth →
    ∀ capabilities, Login.Admits config challenge frame.payload capabilities →
      ∀ later, (run backend (onFrame backend before.1 before.2 frame).2 later).1.session.capabilities =
        capabilities

/-- **The login gate holds on every run.** Whatever frames have been answered since the greeting, and
whatever frame comes next, the session moves through its phases in order and leaves the first one only
by a login; until then the backend takes no part, and what the login fixes stays. -/
theorem login_gate (frame : Wire.Frame) :
    LoginGate backend config connectionId challenge state frames frame
      (reached backend config connectionId challenge state frames) := by
  have hconfig := config_reached backend config connectionId challenge state frames
  have hidentity := identity_reached backend config connectionId challenge state frames
  have hmoves := (onFrame_moves backend (reached backend config connectionId challenge state frames).1
    (reached backend config connectionId challenge state frames).2 frame).2
  rw [hconfig] at hmoves
  exact {
    greeted := ⟨_, rfl, rfl⟩
    identity := hidentity
    phase_order := hmoves.phase_order
    closed_absorbing := fun hp => onFrame_of_closed hp backend _ frame
    authenticated_iff := authenticated_reached_iff backend config connectionId challenge state frames
    opens_iff := by
      intro hp
      -- a login answers the session's own challenge, which is still that of the greeting
      have hopens := hmoves.opens_iff hp
      rwa [hidentity.2] at hopens
    backend_untouched := by
      intro hp
      have hstate : (reached backend config connectionId challenge state frames).2 = state :=
        congrArg Prod.snd (run_of_awaiting frames hp backend state)
      refine ⟨hstate, ?_, fun τ other t => ⟨run_of_awaiting frames hp other t, ?_⟩⟩
      · rw [onFrame_of_awaiting hp backend state]
        exact hstate
      · exact onFrame_of_awaiting hp backend _ other t frame
    capabilities_fixed := by
      intro hp capabilities hadm later
      rw [← hidentity.2] at hadm
      obtain ⟨hopen, hcaps⟩ := hmoves.capabilities_of_admits hp hadm
      rw [capabilities_run backend later hopen, hcaps] }

/-- A client that proves the empty password, and asks for something that the server does not offer, has
the rest of what it asks for from then on: behind a refused attempt, its login and the end. -/
theorem login_gate_empty_password :
    let config : ServerConfig := { password := "" }
    let answer : Wire.HandshakeResponse :=
      { capabilities := Wire.Capability.secureConnection ||| 0x40000000, maxPacketSize := 0x1000000,
        charset := 33, username := "root", authResponse := [], database := none, authPlugin := none }
    let frame := answer.toFrame 1
    let challenge := Wire.Challenge.ofBytes []
    let before := reached Store.backend config 1 challenge {}
      [{ answer with authResponse := [0] }.toFrame 1]
    before.1.session.phase = .awaitingAuth ∧
      Login.Admits config challenge frame.payload Wire.Capability.secureConnection ∧
      ∀ later, (run Store.backend (onFrame Store.backend before.1 before.2 frame).2
        later).1.session.capabilities = Wire.Capability.secureConnection := by
  intro config answer frame challenge before
  have hwaits : before.1.session.phase = .awaitingAuth := by decide
  have hparse : Wire.ClientHandshake.parse frame.payload = .ok (.full answer) := by decide
  have hverify : AuthPlugin.nativePassword.verify config.password challenge.bytes
      answer.authResponse = true := by decide
  have hmask : answer.capabilities &&& config.capabilities = Wire.Capability.secureConnection := by
    decide
  have hadm : Login.Admits config challenge frame.payload Wire.Capability.secureConnection :=
    hmask ▸ .full answer .nativePassword hparse (by decide) hverify
  have hgate : LoginGate Store.backend config 1 challenge {}
      [{ answer with authResponse := [0] }.toFrame 1] frame before :=
    login_gate Store.backend config 1 challenge {} [{ answer with authResponse := [0] }.toFrame 1] frame
  clear_value before frame
  exact ⟨hwaits, hadm, hgate.capabilities_fixed hwaits _ hadm⟩

end Connection

end WireSql
