import WireSql.Proofs.Auth.Verification
import WireSql.Proofs.Connection.Gate
import WireSql.Proofs.Wire.Reading

/-!
# `WireSql.Proofs.Connection.Greeting`: what a client learns from the greeting

The challenge and the capabilities of a greeting are cut in two and travel apart, behind a version of any
length. A client that puts them together again has the greeting as it was (`parse_payload`), as far as its
two texts can stand in front of a zero.

Settings that are accepted have such texts. `greeting_round_trip` says that the client then knows the very
challenge under which its proof will be verified, and the very capabilities with which its own will be
masked, at whatever attempt it is let in.
-/

namespace WireSql

namespace Wire

/-! ## Halves -/

/-- A challenge is made of its bytes. -/
theorem Challenge.ofBytes_bytes (c : Challenge) : Challenge.ofBytes c.bytes = c := by
  have hzeros : zeros (challengeLength - c.bytes.length) = [] := by
    rw [c.length_bytes, Nat.sub_self]
    rfl
  have hbytes : (Challenge.ofBytes c.bytes).bytes = c.bytes := by
    show c.bytes.take challengeLength ++ zeros (challengeLength - c.bytes.length) = c.bytes
    rw [hzeros, List.append_nil, List.take_of_length_le (Nat.le_of_eq c.length_bytes)]
  cases c
  simpa only [Challenge.ofBytes, Challenge.mk.injEq] using hbytes

/-- A word is made of its two halves. -/
theorem toUInt16_or_shiftLeft (n : UInt32) :
    n.toUInt16.toUInt32 ||| (n >>> 16).toUInt16.toUInt32 <<< 16 = n := by
  have hhigh : n.toNat / 2 ^ 16 < 2 ^ 16 := Nat.div_lt_of_lt_mul n.toNat_lt
  have hlow : n.toUInt16.toUInt32.toNat = n.toNat % 2 ^ 16 := by
    rw [UInt16.toNat_toUInt32, UInt32.toNat_toUInt16]
  have hshifted : ((n >>> 16).toUInt16.toUInt32 <<< 16).toNat = (n.toNat / 2 ^ 16) <<< 16 := by
    have hroom : (n.toNat / 2 ^ 16) <<< 16 < 2 ^ 32 := by
      rw [Nat.shiftLeft_eq]
      omega
    rw [UInt32.toNat_shiftLeft, UInt16.toNat_toUInt32, UInt32.toNat_toUInt16, UInt32.toNat_shiftRight]
    show ((n.toNat >>> 16) % 2 ^ 16) <<< 16 % 2 ^ 32 = _
    rw [Nat.shiftRight_eq_div_pow, Nat.mod_eq_of_lt hhigh, Nat.mod_eq_of_lt hroom]
  apply UInt32.toNat_inj.mp
  rw [UInt32.toNat_or, hlow, hshifted, Nat.or_comm,
    ← Nat.shiftLeft_add_eq_or_of_lt (Nat.mod_lt _ (by decide)), Nat.shiftLeft_eq]
  exact Nat.div_add_mod' n.toNat (2 ^ 16)

/-! ## Reading a greeting -/

namespace Greeting

open Parse

variable {g : Greeting}

/-- **A greeting is read as it was written**, if its texts can stand in front of a zero. -/
theorem parse_payload (hversion : '\x00' ∉ g.serverVersion.toList) (hplugin : '\x00' ∉ g.authPlugin.toList) :
    parse g.payload = .ok g := by
  have hshape : g.payload = ofU8 protocolVersion ++ (ofZeroEndedText g.serverVersion ++
      (ofU32 g.connectionId ++ (g.challenge.bytes.take 8 ++ (ofU8 0 ++ (ofU16 g.capabilities.toUInt16 ++
      (ofU8 g.charset ++ (ofU16 g.statusFlags ++ (ofU16 (g.capabilities >>> 16).toUInt16 ++
      ((ofU8 announcedChallengeLength ++ zeros 10) ++ (g.challenge.bytes.drop 8 ++
      (ofU8 0 ++ ofZeroEndedText g.authPlugin))))))))))) := by
    simp only [payload, Field.encodeAll, List.flatMap_cons, List.flatMap_nil, Field.encode, List.append_assoc,
      List.append_nil]
  have hfirst : (g.challenge.bytes.take 8).length = 8 := by
    rw [List.length_take, g.challenge.length_bytes]
    rfl
  have hsecond : (g.challenge.bytes.drop 8).length = challengeLength - 8 := by
    rw [List.length_drop, g.challenge.length_bytes]
  have hversion' : ¬(protocolVersion != protocolVersion) = true := by decide
  unfold parse
  refine run_of_closes ?_
  rw [hshape]
  -- one line for each field, in the order in which they are written
  refine closes_bind (finds_need (Read.finds_u8 _)) ?_
  dsimp only
  rw [if_neg hversion']
  refine closes_bind (finds_need (Read.finds_zeroEndedText hversion)) ?_
  refine closes_bind (finds_need (Read.finds_u32 _)) ?_
  refine closes_bind (finds_need (hfirst ▸ Read.finds_bytes _)) ?_
  refine closes_bind (finds_allow (Read.finds_skip (ofU8 0))) ?_
  refine closes_bind (finds_need (Read.finds_u16 _)) ?_
  refine closes_bind (finds_need (Read.finds_u8 _)) ?_
  refine closes_bind (finds_need (Read.finds_u16 _)) ?_
  refine closes_bind (finds_need (Read.finds_u16 _)) ?_
  refine closes_bind (finds_allow (Read.finds_skip (ofU8 announcedChallengeLength ++ zeros 10))) ?_
  refine closes_bind (finds_need (hsecond ▸ Read.finds_bytes _)) ?_
  refine closes_bind (finds_allow (Read.finds_skip (ofU8 0))) ?_
  rw [List.take_append_drop, Challenge.ofBytes_bytes, toUInt16_or_shiftLeft]
  exact (finds_map (finds_allow (Read.finds_zeroEndedText hplugin)) fun authPlugin =>
    { g with authPlugin := authPlugin.getD "" }).closes

end Greeting

end Wire

/-! ## Accepted settings -/

/-- The version of accepted settings can stand in front of a zero. -/
theorem ServerConfig.zero_notMem_of_validate {config : ServerConfig} (h : config.validate = .ok ()) :
    '\x00' ∉ config.serverVersion.toList := by
  have hcomplaint : config.complaint? = none := by
    unfold validate at h
    split at h
    · cases h
    · assumption
  intro hzero
  have hcontains : config.serverVersion.toList.contains '\x00' = true := List.contains_iff_mem.mpr hzero
  unfold complaint? at hcomplaint
  rw [if_pos hcontains] at hcomplaint
  repeat' split at hcomplaint
  all_goals cases hcomplaint

theorem AuthPlugin.zero_notMem_name (plugin : AuthPlugin) : '\x00' ∉ plugin.name.toList := by
  cases plugin
  · decide
  · decide

/-- A client's proof of the password is accepted under the challenge that it was made for. -/
theorem AuthPlugin.verify_proof (plugin : AuthPlugin) (password : String) (challenge : Bytes) :
    plugin.verify password challenge (plugin.proof password challenge) = true := by
  cases plugin with
  | nativePassword => exact Auth.verifyNative_iff.mpr rfl
  | cachingSha2 => exact Auth.verifySha2_sha2Proof password challenge

/-! ## What both sides know -/

namespace Connection

variable {config : ServerConfig} {connectionId : UInt32} {challenge : Wire.Challenge}

/-- The greeting of a connection is that of its session. -/
theorem payload_start : (new config connectionId challenge).start.1.payload =
    ((new config connectionId challenge).session.greeting config).payload := rfl

/-- **The client knows what its login is decided by**: it reads this greeting, and the server decides every
login by the challenge and the capabilities that stand in it. -/
structure Agrees (config : ServerConfig) (connectionId : UInt32) (challenge : Wire.Challenge)
    (g : Wire.Greeting) : Prop where
  /-- The client reads the greeting of the session. -/
  greeting_eq : g = (new config connectionId challenge).session.greeting config
  challenge_eq : g.challenge = challenge
  capabilities_eq : g.capabilities = config.capabilities
  /-- Whatever the client has sent before, its proof is verified under that challenge, and its capabilities
  are masked with those. -/
  decided : ∀ {σ : Type} (backend : Backend σ) (state : σ) (frames : List Wire.Frame)
    (r : Wire.HandshakeResponse) (plugin : AuthPlugin), AuthPlugin.ofName? (Login.pluginName r) = some plugin →
      let c := (reached backend config connectionId challenge state frames).1
      Login.authenticate c.config c.session (.full r) =
        if plugin.verify config.password g.challenge.bytes r.authResponse then
          .ok (c.session.login (r.capabilities &&& g.capabilities) (some r.username) r.database)
        else .error (Login.accessDenied r.username r.authResponse)
  /-- The proof of the password under that challenge is accepted. -/
  accepted : ∀ plugin : AuthPlugin, plugin.verify config.password g.challenge.bytes
    (plugin.proof config.password g.challenge.bytes) = true

theorem agrees_greeting (config : ServerConfig) (connectionId : UInt32) (challenge : Wire.Challenge) :
    Agrees config connectionId challenge ((new config connectionId challenge).session.greeting config) where
  greeting_eq := rfl
  challenge_eq := rfl
  capabilities_eq := rfl
  decided := by
    intro σ backend state frames r plugin hplugin c
    have hconfig : c.config = config := config_reached backend config connectionId challenge state frames
    have hchallenge : c.session.challenge = challenge :=
      (identity_reached backend config connectionId challenge state frames).2
    show Login.authenticateFull c.config c.session r = _
    unfold Login.authenticateFull
    rw [hplugin, hconfig, hchallenge]
    rfl
  accepted := fun plugin => plugin.verify_proof config.password challenge.bytes

/-- **A greeting is read back as it is**, if its version and the name of its plugin hold no zero: with any
number of the connection, any challenge and any capabilities, character set and status. From every
connection with accepted settings the client reads the challenge and the capabilities by which its login
will be decided. -/
theorem greeting_round_trip :
    (∀ g : Wire.Greeting, '\x00' ∉ g.serverVersion.toList → '\x00' ∉ g.authPlugin.toList →
      Wire.Greeting.parse g.toFrame.payload = .ok g) ∧
    ∀ config : ServerConfig, config.validate = .ok () → ∀ connectionId challenge,
      ∃ g, Wire.Greeting.parse (new config connectionId challenge).start.1.payload = .ok g ∧
        Agrees config connectionId challenge g := by
  refine ⟨fun g hversion hplugin => Wire.Greeting.parse_payload hversion hplugin, ?_⟩
  intro config hvalid connectionId challenge
  refine ⟨_, ?_, agrees_greeting config connectionId challenge⟩
  rw [payload_start]
  exact Wire.Greeting.parse_payload (ServerConfig.zero_notMem_of_validate hvalid)
    config.authPlugin.zero_notMem_name

/-- A version of several bytes a character, no plugin, and zeros and ones wherever they can stand; and a
connection whose challenge has zeros in both halves. -/
theorem greeting_round_trip_zeros :
    let challenge := Wire.Challenge.ofBytes (List.replicate 7 0 ++ [1, 0, 255, 0])
    let g : Wire.Greeting :=
      { serverVersion := "5.7é", connectionId := 0xFFFFFFFF, challenge, capabilities := 0xFFFF0000,
        charset := 0, statusFlags := 0xFFFF, authPlugin := "" }
    let config : ServerConfig := { serverVersion := "é", capabilities := 0x80000001 }
    ('\x00' ∉ g.serverVersion.toList ∧ '\x00' ∉ g.authPlugin.toList ∧
      Wire.Greeting.parse g.toFrame.payload = .ok g) ∧
    config.validate = .ok () ∧
      ∃ g, Wire.Greeting.parse (new config 7 challenge).start.1.payload = .ok g ∧
        Agrees config 7 challenge g := by
  intro challenge g config
  have hversion : '\x00' ∉ g.serverVersion.toList := by decide
  have hplugin : '\x00' ∉ g.authPlugin.toList := by decide
  have hvalid : config.validate = .ok () := by decide
  exact ⟨⟨hversion, hplugin, greeting_round_trip.1 g hversion hplugin⟩, hvalid,
    greeting_round_trip.2 config hvalid 7 challenge⟩

end Connection

end WireSql
