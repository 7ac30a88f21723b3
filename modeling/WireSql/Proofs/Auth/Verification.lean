import WireSql.Auth

/-!
# `WireSql.Proofs.Auth.Verification`: which proofs of a password are accepted

Masking a secret is an involution where the mask reaches as far as the secret (`xor_xor_cancel`), and a
digest has a fixed length, so a server that takes the mask off a proof gets back the whole digest of the
password that the client started from. `verification_exact` says of both schemes which responses are
accepted, for every password, challenge and response. In the scheme of SHA-1 that is the one proof; in the
scheme of SHA-256 it is every response of the right length that holds, under the mask, something whose
digest is the stored one.
-/

namespace WireSql.Auth

open Digest

/-! ## Bytes combined -/

@[simp] theorem length_xor (a b : Bytes) : (xor a b).length = min a.length b.length :=
  List.length_zipWith

theorem getElem_xor {a b : Bytes} {i : Nat} (h : i < (xor a b).length) (ha : i < a.length)
    (hb : i < b.length) : (xor a b)[i] = a[i] ^^^ b[i] :=
  List.getElem_zipWith

theorem xor_comm (a b : Bytes) : xor a b = xor b a := by
  unfold xor
  rw [List.zipWith_comm]
  congr 1
  funext x y
  exact UInt8.xor_comm y x

/-- **A mask taken off leaves the secret it was put on**, where it reaches as far as the secret. -/
theorem xor_xor_cancel {secret mask : Bytes} (h : secret.length ≤ mask.length) :
    xor mask (xor secret mask) = secret := by
  have hlength : (xor mask (xor secret mask)).length = secret.length := by
    rw [length_xor, length_xor]
    omega
  refine List.ext_getElem hlength fun i hi hsecret => ?_
  have hmask : i < mask.length := Nat.lt_of_lt_of_le hsecret h
  have hmasked : i < (xor secret mask).length := by
    rw [length_xor]
    omega
  rw [getElem_xor hi hmask hmasked, getElem_xor hmasked hsecret hmask, UInt8.xor_comm,
    UInt8.xor_assoc, UInt8.xor_self, UInt8.xor_zero]

/-! ## Bytes compared -/

/-- Collecting bits yields none exactly where there are none. -/
theorem foldl_or_eq_zero_iff {bytes : Bytes} {bits : UInt8} :
    bytes.foldl (· ||| ·) bits = 0 ↔ bits = 0 ∧ ∀ b ∈ bytes, b = 0 := by
  induction bytes generalizing bits with
  | nil => simp
  | cons b bytes ih => rw [List.foldl_cons, ih, UInt8.or_eq_zero_iff, List.forall_mem_cons, and_assoc]

/-- Two sequences of one length that differ in no bit are the same. -/
theorem eq_of_xor_eq_zero {a b : Bytes} (hlength : a.length = b.length)
    (h : ∀ bits ∈ xor a b, bits = 0) : a = b := by
  refine List.ext_getElem hlength fun i ha hb => ?_
  have hi : i < (xor a b).length := by
    rw [length_xor]
    omega
  have hzero : a[i] ^^^ b[i] = 0 := getElem_xor hi ha hb ▸ h _ (List.getElem_mem hi)
  exact UInt8.xor_eq_zero_iff.mp hzero

/-- **The comparison that looks at every byte is equality.** -/
theorem sameBytes_iff {a b : Bytes} : sameBytes a b = true ↔ a = b := by
  unfold sameBytes
  rw [Bool.and_eq_true, beq_iff_eq, beq_iff_eq, foldl_or_eq_zero_iff]
  constructor
  · rintro ⟨hlength, -, hzero⟩
    exact eq_of_xor_eq_zero hlength hzero
  · rintro rfl
    refine ⟨rfl, rfl, fun bits hbits => ?_⟩
    obtain ⟨i, hi, rfl⟩ := List.getElem_of_mem hbits
    have ha : i < a.length := by rwa [length_xor, Nat.min_self] at hi
    rw [getElem_xor hi ha ha, UInt8.xor_self]

/-! ## Proofs -/

/-- The digest of SHA-256 that a password is known by. -/
abbrev stored (password : String) : Bytes := sha256 (sha256 (Text.encode password))

theorem length_sha2Mask (secret challenge : Bytes) : (sha2Mask secret challenge).length = 32 :=
  length_sha256 _

theorem length_nativeProof (password : String) (challenge : Bytes) :
    (nativeProof password challenge).length = if password = "" then 0 else 20 := by
  unfold nativeProof
  by_cases hempty : password = ""
  · subst hempty
    rfl
  · have hnot : ¬ password.isEmpty = true := fun h => hempty (String.isEmpty_iff.mp h)
    rw [if_neg hnot, if_neg hempty, length_xor, length_sha1, length_sha1, Nat.min_self]

/-- In the scheme of SHA-1 the proof is computed again and compared. -/
theorem verifyNative_iff {password : String} {challenge response : Bytes} :
    verifyNative password challenge response = true ↔ response = nativeProof password challenge := by
  unfold verifyNative
  split
  · next hempty =>
    unfold nativeProof
    rw [if_pos hempty, List.isEmpty_iff]
  · dsimp only
    rw [Bool.and_eq_true, beq_iff_eq, sameBytes_iff]
    constructor
    · rintro ⟨-, h⟩
      exact h.symm
    · rintro rfl
      exact ⟨rfl, rfl⟩

/-- In the scheme of SHA-256 the mask is taken off, and what is under it digested. -/
theorem verifySha2_iff {password : String} {challenge response : Bytes} (hpassword : password ≠ "") :
    verifySha2 password challenge response = true ↔
      response.length = 32 ∧
        sha256 (xor response (sha256 (stored password ++ challenge))) = stored password := by
  have hnot : ¬ password.isEmpty = true := fun h => hpassword (String.isEmpty_iff.mp h)
  unfold verifySha2
  rw [if_neg hnot]
  split
  · next hlength =>
    have hlength : response.length ≠ 32 := bne_iff_ne.mp hlength
    simp [hlength]
  · next hlength =>
    have hlength : response.length = 32 := by simpa using hlength
    rw [sameBytes_iff, xor_comm]
    exact (and_iff_right hlength).symm

theorem verifySha2_sha2Proof (password : String) (challenge : Bytes) :
    verifySha2 password challenge (sha2Proof password challenge) = true := by
  unfold sha2Proof
  split
  · next hempty =>
    unfold verifySha2
    rw [if_pos hempty]
    rfl
  · next hempty =>
    have hpassword : password ≠ "" := fun h => hempty (String.isEmpty_iff.mpr h)
    have hreach : (sha256 (Text.encode password)).length ≤
        (sha2Mask (sha256 (Text.encode password)) challenge).length := by simp [length_sha2Mask]
    rw [verifySha2_iff hpassword, length_xor, length_sha256, length_sha2Mask, Nat.min_self, xor_comm]
    exact ⟨rfl, congrArg sha256 (xor_xor_cancel hreach)⟩

/-- **Exactly the right proofs are accepted.** In the scheme of SHA-1 that is the proof itself, of twenty
bytes, or of none for the empty password. In the scheme of SHA-256 the proof is always accepted; of the
empty password nothing else is than the zero byte, and of any other password every response of thirty-two
bytes that has the stored digest under its mask. -/
theorem verification_exact (password : String) (challenge response : Bytes) :
    (verifyNative password challenge response = true ↔ response = nativeProof password challenge) ∧
    (nativeProof password challenge).length = (if password = "" then 0 else 20) ∧
    verifySha2 password challenge (sha2Proof password challenge) = true ∧
    (verifySha2 password challenge response = true ↔
      if password = "" then response = [0]
      else response.length = 32 ∧
        sha256 (xor response (sha256 (sha256 (sha256 (Text.encode password)) ++ challenge))) =
          sha256 (sha256 (Text.encode password))) := by
  refine ⟨verifyNative_iff, length_nativeProof password challenge,
    verifySha2_sha2Proof password challenge, ?_⟩
  split
  · next hempty =>
    have hisEmpty : password.isEmpty = true := String.isEmpty_iff.mpr hempty
    unfold verifySha2
    rw [if_pos hisEmpty, beq_iff_eq]
  · next hpassword => exact verifySha2_iff hpassword

/-- The proofs that a client sends for one password and one challenge. -/
example :
    let challenge : Bytes := Text.encode "abcdefghijABCDEFGHIJ"
    nativeProof "123456" challenge =
      [0x47, 0x87, 0xb7, 0xbc, 0x68, 0xc1, 0x7a, 0xa3, 0xf3, 0x7d, 0x62, 0x72, 0x79, 0xae, 0x37, 0xc4,
        0x05, 0x62, 0x5b, 0x8a] ∧
    sha2Proof "123456" challenge =
      [0xe9, 0x63, 0x41, 0x7d, 0xcb, 0x8e, 0xe0, 0x63, 0x3d, 0x55, 0x94, 0xbe, 0xda, 0x4c, 0x34, 0x47,
        0x31, 0xf0, 0xa5, 0x78, 0x92, 0x60, 0xcd, 0xd8, 0x65, 0xb2, 0x8a, 0xa8, 0x62, 0xc8, 0x45, 0x75] := by
  decide +kernel

end WireSql.Auth
