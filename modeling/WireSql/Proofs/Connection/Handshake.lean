import WireSql.Connection

/-!
# `WireSql.Proofs.Connection.Handshake`: who is let in

A connection that waits for a login decides every frame by `Connection.onHandshake`. This module says
what that decision comes to, without any word about how the payload is read:

* `Login.Admits` is the condition under which a payload is a login, together with the capabilities
  that the session then has;
* `Connection.onHandshake_ok` and `Connection.onHandshake_error` are the two outcomes: a payload that
  is admitted makes the session a logged-in one and changes nothing else, any other payload is
  refused with an error that leaves the connection open.

That no refusal ends the connection rests on `Wire.ClientHandshake.parse_error`: a payload that cannot
be read is reported as malformed, and in no other way.
-/

namespace WireSql

/-! ## Payloads that cannot be read -/

namespace Wire.Parse

variable {α β : Type} {payload : Bytes}

/-- Every failure of the reading is a report that the payload is malformed. -/
def Reports (payload : Bytes) (p : Parse α) : Prop :=
  ∀ r e, p r = .error e → ∃ detail, e = malformed payload detail

theorem reports_pure (a : α) : Reports payload (pure a : Parse α) := by
  intro r e h
  cases h

theorem reports_bind {p : Parse α} {f : α → Parse β} (hp : Reports payload p)
    (hf : ∀ a, Reports payload (f a)) : Reports payload (p >>= f) := by
  intro r e h
  have h' : (p r).bind (fun v => f v.1 v.2) = .error e := h
  cases hpr : p r with
  | ok v =>
    rw [hpr] at h'
    exact hf v.1 v.2 e h'
  | error e' =>
    rw [hpr] at h'
    obtain rfl : e' = e := Except.error.inj h'
    exact hp r e' hpr

theorem reports_need (detail : String) (read : Read α) :
    Reports payload (need payload detail read) := by
  intro r e h
  unfold need at h
  split at h
  · cases h
  · exact ⟨detail, (Except.error.inj h).symm⟩

theorem reports_allow (read : Read α) : Reports payload (allow read) := by
  intro r e h
  cases h

/-- A run fails as its reading does. -/
theorem Reports.of_run {p : Parse α} (hp : Reports payload p) {e : Error}
    (h : run payload p = .error e) : ∃ detail, e = malformed payload detail := by
  unfold run at h
  cases hr : StateT.run p (Reader.ofBytes payload) with
  | ok v => rw [hr] at h; cases h
  | error e' =>
    rw [hr] at h
    exact hp (Reader.ofBytes payload) e (hr.trans (congrArg _ (Except.error.inj h)))

end Wire.Parse

namespace Wire.ClientHandshake

open Parse

theorem reports_authResponse (payload : Bytes) (capabilities : UInt32) :
    Reports payload (authResponse payload capabilities) := by
  unfold authResponse
  split
  · exact reports_need _ _
  · split
    · exact reports_bind (reports_need _ _) fun _ => reports_need _ _
    · exact reports_bind (reports_allow _) fun _ => reports_pure _

theorem reports_announced (payload : Bytes) (capabilities capability : UInt32) :
    Reports payload (announced capabilities capability) := by
  unfold announced
  split
  · exact reports_bind (reports_allow _) fun _ => reports_pure _
  · exact reports_pure _

theorem reports_response (payload : Bytes) : Reports payload (response payload) := by
  unfold response
  -- one line for each field, in the order in which they are read
  refine reports_bind (reports_need _ _) fun capabilities => ?_
  refine reports_bind (reports_need _ _) fun _ => ?_
  refine reports_bind (reports_need _ _) fun _ => ?_
  refine reports_bind (reports_need _ _) fun _ => ?_
  refine reports_bind (reports_allow _) fun _ => ?_
  refine reports_bind (reports_authResponse payload capabilities) fun _ => ?_
  refine reports_bind (reports_announced payload capabilities _) fun _ => ?_
  exact reports_bind (reports_announced payload capabilities _) fun _ => reports_pure _

/-- **A payload that is no answer to the greeting is reported as malformed.** -/
theorem parse_error {payload : Bytes} {e : Error} (h : parse payload = .error e) :
    ∃ detail, e = malformed payload detail := by
  unfold parse at h
  split at h
  · cases h
  · cases hr : run payload (response payload) with
    | ok r => rw [hr] at h; cases h
    | error e' =>
      rw [hr] at h
      exact (reports_response payload).of_run (hr.trans (congrArg _ (Except.error.inj h)))

/-- An answer says nothing exactly when it is too short for the fixed fields. -/
theorem parse_eq_short_iff {payload : Bytes} :
    parse payload = .ok .short ↔ payload.length < handshakeHeaderSize := by
  unfold parse
  split
  · next h => exact ⟨fun _ => h, fun _ => rfl⟩
  · next h =>
    refine ⟨fun hp => ?_, fun hl => absurd hl h⟩
    cases hr : run payload (response payload) with
    | ok r => rw [hr] at hp; cases hp
    | error e => rw [hr] at hp; cases hp

end Wire.ClientHandshake

/-! ## The condition of a login -/

namespace Login

/-- **A payload that lets a client in**, with the capabilities that the session has from then on. An
answer too short to say anything needs no proof; an answer with all its fields names a scheme that is
known (the first one where it names none) and proves the password under the challenge. -/
inductive Admits (config : ServerConfig) (challenge : Wire.Challenge) (payload : Bytes) :
    UInt32 → Prop where
  /-- The payload is shorter than the fixed fields. -/
  | short (h : payload.length < 32) : Admits config challenge payload 0
  /-- The payload is an answer that proves the password. -/
  | full (r : Wire.HandshakeResponse) (plugin : AuthPlugin)
      (hparse : Wire.ClientHandshake.parse payload = .ok (.full r))
      (hplugin : AuthPlugin.ofName? (r.authPlugin.getD "mysql_native_password") = some plugin)
      (hverify : plugin.verify config.password challenge.bytes r.authResponse = true) :
      Admits config challenge payload (r.capabilities &&& config.capabilities)

variable {config : ServerConfig} {challenge : Wire.Challenge} {payload : Bytes}

/-- What is too short to be read is admitted as such. -/
theorem Admits.of_short (hparse : Wire.ClientHandshake.parse payload = .ok .short) {k : UInt32}
    (h : Admits config challenge payload k) : k = 0 := by
  cases h with
  | short _ => rfl
  | full r _ hparse' =>
    rw [hparse] at hparse'
    cases hparse'

/-- What has been read is admitted by its scheme and its proof. -/
theorem Admits.of_full {r : Wire.HandshakeResponse}
    (hparse : Wire.ClientHandshake.parse payload = .ok (.full r)) {k : UInt32}
    (h : Admits config challenge payload k) :
    k = r.capabilities &&& config.capabilities ∧
      ∃ plugin, AuthPlugin.ofName? (r.authPlugin.getD "mysql_native_password") = some plugin ∧
        plugin.verify config.password challenge.bytes r.authResponse = true := by
  cases h with
  | short hl =>
    rw [Wire.ClientHandshake.parse_eq_short_iff.mpr hl] at hparse
    cases hparse
  | full r' plugin hparse' hplugin hverify =>
    rw [hparse] at hparse'
    cases hparse'
    exact ⟨rfl, plugin, hplugin, hverify⟩

/-- What cannot be read is not admitted. -/
theorem not_admits_of_error {e : Error} (hparse : Wire.ClientHandshake.parse payload = .error e)
    (k : UInt32) : ¬ Admits config challenge payload k := by
  intro h
  cases h with
  | short hl =>
    rw [Wire.ClientHandshake.parse_eq_short_iff.mpr hl] at hparse
    cases hparse
  | full r _ hparse' =>
    rw [hparse] at hparse'
    cases hparse'

/-- A payload gives a session its capabilities in one way only. -/
theorem Admits.unique {a b : UInt32} (ha : Admits config challenge payload a)
    (hb : Admits config challenge payload b) : a = b := by
  cases hparse : Wire.ClientHandshake.parse payload with
  | error e => exact absurd ha (not_admits_of_error hparse a)
  | ok h =>
    cases h with
    | short => exact (ha.of_short hparse).trans (hb.of_short hparse).symm
    | full r => exact (ha.of_full hparse).1.trans (hb.of_full hparse).1.symm

/-- A login that succeeds makes the session a logged-in one, and is admitted. -/
theorem authenticate_ok {s s' : Session} {h : Wire.ClientHandshake}
    (hparse : Wire.ClientHandshake.parse payload = .ok h) (ha : authenticate config s h = .ok s') :
    ∃ capabilities username database, s' = s.login capabilities username database ∧
      Admits config s.challenge payload capabilities := by
  cases h with
  | short =>
    obtain rfl := Except.ok.inj ha
    exact ⟨0, none, none, rfl, .short (Wire.ClientHandshake.parse_eq_short_iff.mp hparse)⟩
  | full r =>
    simp only [authenticate, authenticateFull] at ha
    split at ha
    · cases ha
    · next plugin hplugin =>
      split at ha
      · next hverify =>
        obtain rfl := Except.ok.inj ha
        exact ⟨_, _, _, rfl, .full r plugin hparse hplugin hverify⟩
      · cases ha

/-- A login that fails is not admitted, and the connection stays open. -/
theorem authenticate_error {s : Session} {h : Wire.ClientHandshake} {e : Error}
    (hparse : Wire.ClientHandshake.parse payload = .ok h) (ha : authenticate config s h = .error e) :
    e.isFatal = false ∧ ∀ capabilities, ¬ Admits config s.challenge payload capabilities := by
  cases h with
  | short => cases ha
  | full r =>
    simp only [authenticate, authenticateFull] at ha
    split at ha
    · next hnone =>
      obtain rfl := Except.error.inj ha
      refine ⟨rfl, fun capabilities hadm => ?_⟩
      -- an admitted payload is this very answer, with a scheme that is known
      obtain ⟨-, plugin, hplugin, -⟩ := hadm.of_full hparse
      have hboth : none = some plugin := hnone.symm.trans hplugin
      cases hboth
    · next plugin hplugin =>
      split at ha
      · cases ha
      · next hverify =>
        obtain rfl := Except.error.inj ha
        refine ⟨rfl, fun capabilities hadm => ?_⟩
        obtain ⟨-, plugin', hplugin', hverify'⟩ := hadm.of_full hparse
        have hboth : some plugin = some plugin' := hplugin.symm.trans hplugin'
        obtain rfl := Option.some.inj hboth
        exact hverify hverify'

end Login

/-! ## The decision of a connection -/

namespace Connection

variable {config : ServerConfig} {s : Session} {payload : Bytes}

/-- What `onHandshake` does, step by step: read the payload, decide the login, report it. -/
theorem onHandshake_eq (config : ServerConfig) (s : Session) (payload : Bytes) :
    onHandshake config s payload =
      match Wire.ClientHandshake.parse payload with
      | .error e => .error e
      | .ok h =>
        match Login.authenticate config s h with
        | .error e => .error e
        | .ok s' => .ok ({ frames := [(loginReport h).toFrame s'.nextSequence] }, s') := by
  unfold onHandshake Wire.Packet.parse
  cases Wire.ClientHandshake.parse payload with
  | error e => rfl
  | ok h =>
    cases hauth : Login.authenticate config s h with
    | error e => simp [Except.map, bind, Except.bind, hauth]
    | ok s' => simp [Except.map, bind, Except.bind, hauth, pure, Except.pure]

/-- **A payload that is accepted is a login.** The reply is one packet that reports success. -/
theorem onHandshake_ok {step : Step} {s' : Session}
    (h : onHandshake config s payload = .ok (step, s')) :
    ∃ capabilities username database, Login.Admits config s.challenge payload capabilities ∧
      s' = s.login capabilities username database ∧
      ∃ packet : Wire.OkPacket, step = { frames := [packet.toFrame s.nextSequence] } := by
  rw [onHandshake_eq] at h
  split at h
  · cases h
  · next hs hparse =>
    split at h
    · cases h
    · next s₁ hauth =>
      obtain ⟨rfl, rfl⟩ := Prod.mk.inj (Except.ok.inj h)
      obtain ⟨capabilities, username, database, rfl, hadm⟩ := Login.authenticate_ok hparse hauth
      exact ⟨capabilities, username, database, hadm, rfl, loginReport hs, rfl⟩

/-- **A payload that is refused is no login**, and the refusal leaves the connection open. -/
theorem onHandshake_error {e : Error} (h : onHandshake config s payload = .error e) :
    e.isFatal = false ∧
      ∀ capabilities, ¬ Login.Admits config s.challenge payload capabilities := by
  rw [onHandshake_eq] at h
  split at h
  · next e' hparse =>
    obtain rfl := Except.error.inj h
    obtain ⟨detail, rfl⟩ := Wire.ClientHandshake.parse_error hparse
    exact ⟨rfl, Login.not_admits_of_error hparse⟩
  · next hs hparse =>
    split at h
    · next e' hauth =>
      obtain rfl := Except.error.inj h
      exact Login.authenticate_error hparse hauth
    · cases h

end Connection

end WireSql
