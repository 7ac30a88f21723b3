import WireSql.Proofs.Wire.Reading
import WireSql.Wire.Handshake

/-!
# `WireSql.Proofs.Wire.Handshake`: the client's answer is read as it was written

The layout of an answer to the greeting depends on the capabilities that it asks for, which stand at its
front. It can carry an answer that is `Sendable`: each part has a form that ends where the next one begins,
and there is a place for every part that the answer has.

Main statement: `parse_toFrame`. What the layout leaves open is who tells a missing name from one that is
there: a missing database is written as the empty text and a missing plugin as nothing at all, so that the
plugin is found missing only because it is the last field (`closes_plugin`).
-/

namespace WireSql.Wire

open Parse

/-! ## Answers that can be sent -/

/-- The name can stand in front of a zero, and is not taken for a missing one. -/
def IsAnnounced (capabilities capability : UInt32) (name : String) : Prop :=
  Capability.has capabilities capability = true ∧ name ≠ "" ∧ '\x00' ∉ name.toList

/-- The proof of the password ends where its layout says. Behind a prefixed length it may be as long as a
64-bit word can count. -/
def IsProof (capabilities : UInt32) (proof : Bytes) : Prop :=
  if Capability.has capabilities Capability.prefixedResponse then proof.length < UInt64.size
  else if Capability.has capabilities Capability.secureConnection then proof.length ≤ 255
  else 0 ∉ proof

/-- **An answer that its layout can carry.** -/
structure HandshakeResponse.Sendable (r : HandshakeResponse) : Prop where
  /-- The user's name can stand in front of a zero. -/
  username : '\x00' ∉ r.username.toList
  /-- The proof of the password ends where its layout says. -/
  authResponse : IsProof r.capabilities r.authResponse
  /-- A database is there only if the capabilities announce one. -/
  database : ∀ name ∈ r.database, IsAnnounced r.capabilities Capability.connectWithDatabase name
  /-- A plugin is there only if the capabilities announce one. -/
  authPlugin : ∀ name ∈ r.authPlugin, IsAnnounced r.capabilities Capability.pluginAuth name

namespace ClientHandshake

variable {capabilities capability : UInt32} {proof : Bytes} {name : String} {r : HandshakeResponse}

/-! ## Parts of an answer -/

/-- Each of the three layouts of the proof is read back. -/
theorem finds_authResponse (payload : Bytes) (h : IsProof r.capabilities r.authResponse) :
    Finds (authResponse payload r.capabilities) r.authField r.authResponse := by
  unfold IsProof at h
  unfold authResponse HandshakeResponse.authField
  by_cases hprefixed : Capability.has r.capabilities Capability.prefixedResponse = true
  · rw [if_pos hprefixed] at h
    rw [if_pos hprefixed, if_pos hprefixed]
    exact finds_need (Read.finds_prefixedBytes h)
  · rw [if_neg hprefixed] at h
    rw [if_neg hprefixed, if_neg hprefixed]
    by_cases hsecure : Capability.has r.capabilities Capability.secureConnection = true
    · rw [if_pos hsecure] at h
      rw [if_pos hsecure, if_pos hsecure]
      have hcount : (UInt8.ofNat r.authResponse.length).toNat = r.authResponse.length :=
        Text.toNat_ofNat_of_lt (Nat.lt_succ_of_le h)
      refine finds_bind (finds_need (Read.finds_u8 _)) ?_
      rw [hcount]
      exact finds_need (Read.finds_bytes r.authResponse)
    · rw [if_neg hsecure] at h
      rw [if_neg hsecure, if_neg hsecure]
      exact finds_map (finds_allow (Read.finds_zeroEndedBytes h)) fun found => found.getD []

/-- A name in front of a zero is read back where one is announced, and the empty one as a missing name. -/
theorem finds_announced (h : Capability.has capabilities capability = true) (hname : '\x00' ∉ name.toList) :
    Finds (announced capabilities capability) (ofZeroEndedText name) ((some name).filter (· != "")) := by
  unfold announced
  rw [if_pos h]
  exact finds_map (finds_allow (Read.finds_zeroEndedText hname)) fun found => found.filter (· != "")

theorem finds_unannounced (h : ¬ Capability.has capabilities capability = true) :
    Finds (announced capabilities capability) [] none := by
  unfold announced
  rw [if_neg h]
  exact finds_pure none

/-- At the end of the payload there is no name. -/
theorem closes_announced : Closes (announced capabilities capability) [] none := by
  unfold announced
  split
  · intro position
    exact ⟨⟨position, []⟩, rfl⟩
  · exact (finds_pure none).closes

/-- A name that counts as there is not filtered out. -/
theorem filter_of_isAnnounced (h : IsAnnounced capabilities capability name) :
    (some name).filter (· != "") = some name := by
  rw [Option.filter_some, if_pos (bne_iff_ne.2 h.2.1)]

theorem finds_database
    (h : ∀ name ∈ r.database, IsAnnounced r.capabilities Capability.connectWithDatabase name) :
    Finds (announced r.capabilities Capability.connectWithDatabase) r.databaseField r.database := by
  unfold HandshakeResponse.databaseField
  by_cases hflag : Capability.has r.capabilities Capability.connectWithDatabase = true
  · rw [if_pos hflag]
    cases hdatabase : r.database with
    | none => exact finds_announced hflag (by decide)
    | some name =>
      have hname := h name hdatabase
      rw [Option.getD_some, ← filter_of_isAnnounced hname]
      exact finds_announced hflag hname.2.2
  · rw [if_neg hflag]
    cases hdatabase : r.database with
    | none => exact finds_unannounced hflag
    | some name => exact absurd (h name hdatabase).1 hflag

/-- The plugin is the last field: where there is none, nothing is left to read. -/
theorem closes_plugin (h : ∀ name ∈ r.authPlugin, IsAnnounced r.capabilities Capability.pluginAuth name) :
    Closes (announced r.capabilities Capability.pluginAuth) r.pluginField r.authPlugin := by
  unfold HandshakeResponse.pluginField
  cases hplugin : r.authPlugin with
  | none => exact closes_announced
  | some name =>
    have hname := h name hplugin
    dsimp only
    rw [if_pos hname.1, ← filter_of_isAnnounced hname]
    exact (finds_announced hname.1 hname.2.2).closes

/-! ## Whole answers -/

theorem closes_response (payload : Bytes) (h : r.Sendable) : Closes (response payload) r.payload r := by
  have hshape : r.payload = ofU32 r.capabilities ++ (ofU32 r.maxPacketSize ++ (ofU8 r.charset ++
      (zeros 23 ++ (ofZeroEndedText r.username ++ (r.authField ++ (r.databaseField ++ r.pluginField)))))) := by
    simp only [HandshakeResponse.payload, List.append_assoc]
  rw [hshape]
  unfold response
  -- one line for each field, in the order in which they are written
  refine closes_bind (finds_need (Read.finds_u32 _)) ?_
  refine closes_bind (finds_need (Read.finds_u32 _)) ?_
  refine closes_bind (finds_need (Read.finds_u8 _)) ?_
  refine closes_bind (finds_need (Read.finds_skip (zeros 23))) ?_
  refine closes_bind (finds_allow (Read.finds_zeroEndedText h.username)) ?_
  refine closes_bind (finds_authResponse payload h.authResponse) ?_
  refine closes_bind (finds_database h.database) ?_
  exact closes_map (closes_plugin h.authPlugin) fun authPlugin => { r with authPlugin }

/-- The fixed fields are always there, so that no written answer is taken for one of an old client. -/
theorem handshakeHeaderSize_le_payload (r : HandshakeResponse) : handshakeHeaderSize ≤ r.payload.length := by
  simp only [HandshakeResponse.payload, ofU32, ofU8, zeros, List.length_append, length_littleEndian,
    List.length_replicate, handshakeHeaderSize]
  omega

/-- **An answer that its layout can carry is read from its frame as it is**, whatever capabilities it asks
for. -/
theorem parse_toFrame (r : HandshakeResponse) (h : r.Sendable) (sequence : UInt8) :
    parse (r.toFrame sequence).payload = .ok (.full r) := by
  show parse r.payload = .ok (.full r)
  unfold parse
  rw [if_neg (Nat.not_lt.2 (handshakeHeaderSize_le_payload r)), run_of_closes (closes_response r.payload h)]
  rfl

/-- No database and no plugin where both are announced, and a proof with zeros and marks in it. -/
theorem parse_toFrame_missing_names :
    let r : HandshakeResponse :=
      { capabilities := Capability.prefixedResponse ||| Capability.secureConnection |||
          Capability.connectWithDatabase ||| Capability.pluginAuth,
        maxPacketSize := 0xFFFFFFFF, charset := 255, username := "josé", authResponse := [0, 0xFB, 0, 0xFE],
        database := none, authPlugin := none }
    r.Sendable ∧ parse (r.toFrame 1).payload = .ok (.full r) := by
  intro r
  have hproof : IsProof r.capabilities r.authResponse := by
    unfold IsProof
    rw [if_pos (by decide)]
    decide
  have hsendable : r.Sendable := ⟨by decide, hproof, nofun, nofun⟩
  exact ⟨hsendable, parse_toFrame r hsendable 1⟩

end ClientHandshake

end WireSql.Wire
