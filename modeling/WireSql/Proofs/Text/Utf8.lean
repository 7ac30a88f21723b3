import WireSql.Text.Utf8

/-!
# `WireSql.Proofs.Text.Utf8`: reading what was written as text

Reading the UTF-8 form of a text gives the text again (`decode_encode`). The machine that reads is followed
through one character: its first byte fixes how many are to come and the range of the next one, every
further byte adds six bits, and with the last one the machine stands where it began
(`decodeFrom_utf8EncodeChar`).

What keeps overlong forms and surrogates out of the reader is a narrower range for the second byte. A
character never leaves that range, which is where its being a valid code point is used.
-/

namespace WireSql.Text

/-! ## Single bytes -/

theorem toNat_ofNat_of_lt {n : Nat} (h : n < 256) : (UInt8.ofNat n).toNat = n := by
  rw [UInt8.toNat_ofNat']
  exact Nat.mod_eq_of_lt h

/-- The first byte of two. -/
theorem firstByte_two : ∀ n < 32, 2 ≤ n →
    firstByte (UInt8.ofNat (n + 192)) = ([], some ⟨1, 0x80, 0xBF, n⟩) := by
  decide

/-- The first byte of three. The range of the next one keeps out overlong forms and surrogates. -/
theorem firstByte_three : ∀ n < 16, firstByte (UInt8.ofNat (n + 224)) =
    ([], some ⟨2, if n = 0 then 0xA0 else 0x80, if n = 13 then 0x9F else 0xBF, n⟩) := by
  decide

/-- The first byte of four. The range of the next one keeps out overlong forms and what lies beyond the
last character. -/
theorem firstByte_four : ∀ n < 5, firstByte (UInt8.ofNat (n + 240)) =
    ([], some ⟨3, if n = 0 then 0x90 else 0x80, if n = 4 then 0x8F else 0xBF, n⟩) := by
  decide

/-- A first byte that settles no character. -/
theorem decodeFrom_of_firstByte {b : UInt8} {p : Partial} (h : firstByte b = ([], some p))
    (rest : Bytes) : decodeFrom none (b :: rest) = decodeFrom (some p) rest := by
  rw [decodeFrom, nextByte, h]
  rfl

/-- A byte that continues a character adds its six bits. -/
theorem decodeFrom_continuation {n : Nat} (missing : Nat) {low high : UInt8} (bits : Nat) (hn : n < 64)
    (hlow : low.toNat ≤ n + 128) (hhigh : n + 128 ≤ high.toNat) (rest : Bytes) :
    decodeFrom (some ⟨missing, low, high, bits⟩) (UInt8.ofNat (n + 128) :: rest) =
      if missing ≤ 1 then Char.ofNat (bits * 64 + n) :: decodeFrom none rest
      else decodeFrom (some ⟨missing - 1, 0x80, 0xBF, bits * 64 + n⟩) rest := by
  have hbyte : (UInt8.ofNat (n + 128)).toNat = n + 128 := toNat_ofNat_of_lt (by omega)
  have hwithin : (decide (low ≤ UInt8.ofNat (n + 128)) && decide (UInt8.ofNat (n + 128) ≤ high)) =
      true := by
    simp only [UInt8.le_iff_toNat_le, hbyte, hlow, hhigh, decide_true, Bool.and_self]
  have hbits : (n + 128) % 64 = n := by omega
  rw [decodeFrom, nextByte, if_pos hwithin, hbyte, hbits]
  dsimp only
  split
  · rfl
  · rfl

/-- Behind the second byte of a character every continuation byte is in range. -/
theorem decodeFrom_inner {n : Nat} (missing bits : Nat) (hn : n < 64) (rest : Bytes) :
    decodeFrom (some ⟨missing, 0x80, 0xBF, bits⟩) (UInt8.ofNat (n + 128) :: rest) =
      if missing ≤ 1 then Char.ofNat (bits * 64 + n) :: decodeFrom none rest
      else decodeFrom (some ⟨missing - 1, 0x80, 0xBF, bits * 64 + n⟩) rest := by
  have hlow : (0x80 : UInt8).toNat ≤ n + 128 := Nat.le_add_left 128 n
  have hhigh : n + 128 ≤ (0xBF : UInt8).toNat := Nat.add_le_add_right (Nat.le_of_lt_succ hn) 128
  exact decodeFrom_continuation missing bits hn hlow hhigh rest

/-! ## Characters -/

/-- **A character is read from its bytes**, and reading goes on behind them. -/
theorem decodeFrom_utf8EncodeChar (c : Char) (rest : Bytes) :
    decodeFrom none (String.utf8EncodeChar c ++ rest) = c :: decodeFrom none rest := by
  have hvalid : c.val.toNat < 0xD800 ∨ 0xDFFF < c.val.toNat ∧ c.val.toNat < 0x110000 := c.valid
  have hchar : Char.ofNat c.val.toNat = c := Char.ofNat_toNat c
  unfold String.utf8EncodeChar
  -- the parts of the code point that the bytes carry make it up again
  generalize c.val.toNat = n at hvalid hchar
  dsimp only
  split
  · next h1 =>
    have hfirst : firstByte (UInt8.ofNat n) = ([Char.ofNat n], none) := by
      rw [firstByte, toNat_ofNat_of_lt (by omega), if_pos (by omega)]
    rw [List.singleton_append, decodeFrom, nextByte, hfirst, hchar]
    rfl
  · split
    · next h1 h2 =>
      have hbits : n / 64 % 32 * 64 + n % 64 = n := by omega
      rw [List.cons_append, List.singleton_append,
        decodeFrom_of_firstByte (firstByte_two _ (by omega) (by omega)),
        decodeFrom_inner _ _ (by omega), if_pos (Nat.le_refl 1), hbits, hchar]
    · split
      · next h1 h2 h3 =>
        have hbits : (n / 4096 % 16 * 64 + n / 64 % 64) * 64 + n % 64 = n := by omega
        have hlow : (if n / 4096 % 16 = 0 then (0xA0 : UInt8) else 0x80).toNat ≤ n / 64 % 64 + 128 := by
          split <;> simp <;> omega
        have hhigh : n / 64 % 64 + 128 ≤ (if n / 4096 % 16 = 13 then (0x9F : UInt8) else 0xBF).toNat := by
          split <;> simp <;> omega
        rw [List.cons_append, List.cons_append, List.singleton_append,
          decodeFrom_of_firstByte (firstByte_three _ (by omega)),
          decodeFrom_continuation 2 _ (by omega) hlow hhigh, if_neg (by decide),
          decodeFrom_inner (2 - 1) _ (by omega), if_pos (by decide), hbits, hchar]
      · next h1 h2 h3 =>
        have hbits : ((n / 262144 % 8 * 64 + n / 4096 % 64) * 64 + n / 64 % 64) * 64 + n % 64 = n := by
          omega
        have hlow : (if n / 262144 % 8 = 0 then (0x90 : UInt8) else 0x80).toNat ≤
            n / 4096 % 64 + 128 := by
          split <;> simp <;> omega
        have hhigh : n / 4096 % 64 + 128 ≤
            (if n / 262144 % 8 = 4 then (0x8F : UInt8) else 0xBF).toNat := by
          split <;> simp <;> omega
        rw [List.cons_append, List.cons_append, List.cons_append, List.singleton_append,
          decodeFrom_of_firstByte (firstByte_four _ (by omega)),
          decodeFrom_continuation 3 _ (by omega) hlow hhigh, if_neg (by decide),
          decodeFrom_inner (3 - 1) _ (by omega), if_neg (by decide),
          decodeFrom_inner (3 - 1 - 1) _ (by omega), if_pos (by decide), hbits, hchar]

/-- Only the zero character has a zero among its bytes: a byte of a longer form is at least 128. -/
theorem eq_zero_of_mem_utf8EncodeChar {c : Char} (h : 0 ∈ String.utf8EncodeChar c) : c = '\x00' := by
  have hvalid : c.val.toNat < 0xD800 ∨ 0xDFFF < c.val.toNat ∧ c.val.toNat < 0x110000 := c.valid
  have hchar : Char.ofNat c.val.toNat = c := Char.ofNat_toNat c
  have hlarge : ∀ n, 128 ≤ n → n < 256 → (0 : UInt8) ≠ UInt8.ofNat n := by
    intro n hn hn' heq
    have hnat : 0 = (UInt8.ofNat n).toNat := congrArg UInt8.toNat heq
    rw [toNat_ofNat_of_lt hn'] at hnat
    omega
  unfold String.utf8EncodeChar at h
  generalize c.val.toNat = n at h hvalid hchar
  dsimp only at h
  split at h
  · next h1 =>
    have hnat : 0 = (UInt8.ofNat n).toNat := congrArg UInt8.toNat (List.mem_singleton.1 h)
    rw [toNat_ofNat_of_lt (by omega)] at hnat
    rw [← hchar, ← hnat]
  · split at h
    · simp only [List.mem_cons, List.not_mem_nil, or_false] at h
      rcases h with h | h <;> exact absurd h (hlarge _ (by omega) (by omega))
    · split at h
      · simp only [List.mem_cons, List.not_mem_nil, or_false] at h
        rcases h with h | h | h <;> exact absurd h (hlarge _ (by omega) (by omega))
      · simp only [List.mem_cons, List.not_mem_nil, or_false] at h
        rcases h with h | h | h | h <;> exact absurd h (hlarge _ (by omega) (by omega))

/-- A text without the zero character has no zero among its bytes. -/
theorem zero_notMem_encode {s : String} (h : '\x00' ∉ s.toList) : 0 ∉ encode s := by
  intro hzero
  obtain ⟨c, hc, hmem⟩ := List.mem_flatMap.1 hzero
  exact h (eq_zero_of_mem_utf8EncodeChar hmem ▸ hc)

theorem decodeFrom_encodeChars (s : List Char) : decodeFrom none (encodeChars s) = s := by
  induction s with
  | nil => rfl
  | cons c s ih =>
    show decodeFrom none (String.utf8EncodeChar c ++ encodeChars s) = c :: s
    rw [decodeFrom_utf8EncodeChar, ih]

/-- **Reading the bytes of a text gives the text again.** -/
@[simp] theorem decode_encode (s : String) : decode (encode s) = s := by
  show String.ofList (decodeFrom none (encodeChars s.toList)) = s
  rw [decodeFrom_encodeChars, String.ofList_toList]

end WireSql.Text
