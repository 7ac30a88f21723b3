import WireSql.Wire.Field
import WireSql.Wire.Parse
import WireSql.Proofs.Text.Utf8

/-!
# `WireSql.Proofs.Wire.Reading`: reading the fields that were written

`Read.Finds read b a` says that a read finds the value `a` in the bytes `b`, whatever position it starts at
and whatever follows: it takes up all of `b` and not one byte more. Reads that find what they look for can
be put one behind the other (`finds_bind`), so a payload is read field by field as it was written.

Every kind of field that a payload is made of has its lemma: words of a fixed width, what stands in front
of a zero, prefixed integers, and the texts and cells that stand behind their length. A length travels as a
64-bit word; that the bytes are fewer than such a word can count is a hypothesis here, which any frame makes
good.

What takes up all that is left of a payload finds its value only in the last bytes of one, which is what
`Read.Closes` says (`closes_restText`).

`Parse.Finds` says the same of a payload that must have a form. A field that may be missing is found in no
bytes at all only where nothing follows; `Parse.Closes` says of a reading that it finds its value in the last
bytes of a payload.
-/

namespace WireSql.Wire

variable {α β : Type}

namespace Read

/-! ## Reads one behind the other -/

/-- **A read finds a value in bytes**, wherever they stand and whatever follows them, and stands right
behind them. -/
def Finds (read : Read α) (b : Bytes) (a : α) : Prop :=
  ∀ position rest, runFrom read ⟨position, b ++ rest⟩ = (some a, ⟨position + b.length, rest⟩)

theorem runFrom_bind (read : Read α) (f : α → Read β) (r : Reader) :
    runFrom (read >>= f) r =
      match runFrom read r with
      | (some a, r') => runFrom (f a) r'
      | (none, r') => (none, r') := by
  have hrun : runFrom (read >>= f) r =
      StateT.run (Option.elimM (OptionT.run read) (pure none) fun a => OptionT.run (f a)) r := by
    rw [← OptionT.run_bind]
    rfl
  rw [hrun, Option.elimM, StateT.run_bind]
  show ((runFrom read r).1.elim (pure none) f : StateM Reader (Option β)) (runFrom read r).2 = _
  rcases runFrom read r with ⟨x, r'⟩
  cases x with
  | none => rfl
  | some a => rfl

theorem finds_pure (a : α) : Finds (pure a) [] a := fun _ _ => rfl

theorem finds_bind {read : Read α} {f : α → Read β} {b b' : Bytes} {a : α} {a' : β}
    (h : Finds read b a) (h' : Finds (f a) b' a') : Finds (read >>= f) (b ++ b') a' := by
  intro position rest
  rw [runFrom_bind, List.append_assoc, h position (b' ++ rest)]
  dsimp only
  rw [h' (position + b.length) rest, List.length_append, Nat.add_assoc]

/-- What is made of a value that is found. -/
theorem finds_map {read : Read α} {b : Bytes} {a : α} (h : Finds read b a) (f : α → β) :
    Finds (do return f (← read)) b (f a) := by
  have hboth := finds_bind (f := fun a => pure (f a)) h (finds_pure (f a))
  rwa [List.append_nil] at hboth

/-- A read of a whole payload finds what stands at its front. -/
theorem onBytes_of_finds {read : Read α} {b : Bytes} {a : α} (h : Finds read b a) (rest : Bytes) :
    onBytes read (b ++ rest) = some a := by
  unfold onBytes Reader.ofBytes
  rw [h 0 rest]

/-! ## Words -/

theorem finds_bytes (b : Bytes) : Finds (bytes b.length) b b := by
  intro position rest
  have henough : ¬ (Reader.mk position (b ++ rest)).remaining < b.length := by
    simp only [Reader.remaining, List.length_append]
    omega
  show (if (Reader.mk position (b ++ rest)).remaining < b.length then _ else _) = _
  rw [if_neg henough, List.take_left, Reader.advance, List.drop_left]

theorem finds_word {width n : Nat} (h : n < Nat.pow 256 width) :
    Finds (word width) (littleEndian width n) n := by
  have hread := finds_map (finds_bytes (littleEndian width n)) ofLittleEndian
  rwa [length_littleEndian, ofLittleEndian_littleEndian, Nat.mod_eq_of_lt h] at hread

theorem finds_u8 (n : UInt8) : Finds u8 (ofU8 n) n := by
  have hread := finds_map (finds_word (show n.toNat < Nat.pow 256 1 from n.toNat_lt)) UInt8.ofNat
  rwa [UInt8.ofNat_toNat] at hread

theorem finds_u16 (n : UInt16) : Finds u16 (ofU16 n) n := by
  have hread := finds_map (finds_word (show n.toNat < Nat.pow 256 2 from n.toNat_lt)) UInt16.ofNat
  rwa [UInt16.ofNat_toNat] at hread

/-- Three bytes are enough for the number if they are enough for all of it. -/
theorem finds_u24 {n : UInt32} (h : n.toNat < 0x1000000) : Finds u24 (ofU24 n) n := by
  have hread := finds_map (finds_word (show n.toNat < Nat.pow 256 3 from h)) UInt32.ofNat
  rwa [UInt32.ofNat_toNat] at hread

theorem finds_u32 (n : UInt32) : Finds u32 (ofU32 n) n := by
  have hread := finds_map (finds_word (show n.toNat < Nat.pow 256 4 from n.toNat_lt)) UInt32.ofNat
  rwa [UInt32.ofNat_toNat] at hread

theorem finds_u64 (n : UInt64) : Finds u64 (ofU64 n) n := by
  have hread := finds_map (finds_word (show n.toNat < Nat.pow 256 8 from n.toNat_lt)) UInt64.ofNat
  rwa [UInt64.ofNat_toNat] at hread

/-- Bytes that are passed over may be any. -/
theorem finds_skip (b : Bytes) : Finds (skip b.length) b () := finds_map (finds_bytes b) fun _ => ()

/-- A text of as many bytes as there are is what these stand for. -/
theorem finds_text (b : Bytes) : Finds (text b.length) b (Text.decode b) := finds_map (finds_bytes b) Text.decode

/-- Where a field is found its default plays no part. -/
theorem finds_orDefault {read : Read α} {b : Bytes} {a : α} (h : Finds read b a) (default : α) :
    Finds (read.orDefault default) b a := by
  intro position rest
  show (some ((runFrom read ⟨position, b ++ rest⟩).1.getD default),
    (runFrom read ⟨position, b ++ rest⟩).2) = _
  rw [h position rest]
  rfl

/-! ## Up to a zero -/

/-- **Bytes without a zero are read back** up to the zero behind them. -/
theorem finds_zeroEndedBytes {b : Bytes} (h : 0 ∉ b) : Finds zeroEndedBytes (ofZeroEndedBytes b) b := by
  intro position rest
  have hbytes : ofZeroEndedBytes b ++ rest = b ++ 0 :: rest := by
    rw [ofZeroEndedBytes, List.append_assoc, List.singleton_append]
  have hkeep : ∀ c ∈ b, (c != 0) = true := by
    intro c hc
    rw [bne_iff_ne]
    rintro rfl
    exact h hc
  have hfound : (b ++ 0 :: rest).takeWhile (· != 0) = b := by
    rw [List.takeWhile_append_of_pos hkeep, List.takeWhile_cons_of_neg (by decide), List.append_nil]
  have hsome : (Reader.mk position (b ++ 0 :: rest)).isEmpty = false := by
    cases b with
    | nil => rfl
    | cons c b => rfl
  have hpassed : min (b.length + 1) (b ++ 0 :: rest).length = b.length + 1 := by
    rw [List.length_append, List.length_cons]
    omega
  have hdrop : (b ++ 0 :: rest).drop (b.length + 1) = rest := by
    rw [← List.drop_drop, List.drop_left, List.drop_one, List.tail_cons]
  rw [hbytes]
  show (if (Reader.mk position (b ++ 0 :: rest)).isEmpty = true then _ else _) = _
  rw [hsome, if_neg Bool.false_ne_true]
  dsimp only
  rw [hfound, Reader.remaining, hpassed, Reader.advance, hdrop, ofZeroEndedBytes, List.length_append,
    List.length_singleton]

/-- So is a text, if none of its characters is the zero. -/
theorem finds_zeroEndedText {s : String} (h : '\x00' ∉ s.toList) :
    Finds zeroEndedText (ofZeroEndedText s) s := by
  have hread := finds_map (finds_zeroEndedBytes (Text.zero_notMem_encode h)) Text.decode
  rwa [Text.decode_encode] at hread

end Read

/-! ## Prefixed integers -/

/-- **The forms of a prefixed integer**: a byte by itself, or a mark with two, three or eight bytes behind
it. -/
inductive PrefixedForm (n : UInt64) : Bytes → Prop where
  /-- A small number is its own first byte. -/
  | one (h : n.toNat < 251) : PrefixedForm n [UInt8.ofNat n.toNat]
  | two (h : n.toNat < 0x10000) : PrefixedForm n (0xFC :: littleEndian 2 n.toNat)
  | three (h : n.toNat < 0x1000000) : PrefixedForm n (0xFD :: littleEndian 3 n.toNat)
  | eight (h : 0x1000000 ≤ n.toNat) : PrefixedForm n (0xFE :: littleEndian 8 n.toNat)

theorem prefixedForm (n : UInt64) : PrefixedForm n (ofPrefixedInt n) := by
  unfold ofPrefixedInt
  split
  · next h =>
    have hn : n.toNat < 251 := UInt64.lt_iff_toNat_lt.mp h
    have hbyte : littleEndian 1 n.toNat = [UInt8.ofNat n.toNat] := by
      rw [littleEndian, littleEndian, Nat.mod_eq_of_lt (by omega)]
    rw [hbyte]
    exact .one hn
  · split
    · next h => exact .two (UInt64.lt_iff_toNat_lt.mp h)
    · split
      · next h => exact .three (UInt64.lt_iff_toNat_lt.mp h)
      · next h => exact .eight (Nat.le_of_not_lt fun hlt => h (UInt64.lt_iff_toNat_lt.mpr hlt))

/-- No prefixed integer begins with the mark of NULL or with the byte `FF`; the one that begins with a zero
is zero, and one that begins with `FE` is large. -/
theorem PrefixedForm.exists_cons {n : UInt64} {b : Bytes} (h : PrefixedForm n b) :
    ∃ mark rest, b = mark :: rest ∧ mark ≠ nullMark ∧ mark ≠ 0xFF ∧
      (mark = 0 → n.toNat = 0) ∧ (mark = 0xFE → 0x1000000 ≤ n.toNat) := by
  cases h with
  | one h =>
    have hother : ∀ k, 251 ≤ k → k < 256 → UInt8.ofNat n.toNat ≠ UInt8.ofNat k := by
      intro k hk hk' heq
      have hnat : (UInt8.ofNat n.toNat).toNat = (UInt8.ofNat k).toNat := congrArg UInt8.toNat heq
      rw [Text.toNat_ofNat_of_lt (by omega), Text.toNat_ofNat_of_lt hk'] at hnat
      omega
    refine ⟨_, [], rfl, hother 0xFB (by decide) (by decide), hother 0xFF (by decide) (by decide),
      fun heq => ?_, fun heq => absurd heq (hother 0xFE (by decide) (by decide))⟩
    rw [← Text.toNat_ofNat_of_lt (show n.toNat < 256 by omega), heq]
    rfl
  | two h => exact ⟨_, _, rfl, by decide, by decide, nofun, nofun⟩
  | three h => exact ⟨_, _, rfl, by decide, by decide, nofun, nofun⟩
  | eight h => exact ⟨_, _, rfl, by decide, by decide, nofun, fun _ => h⟩

namespace Read

/-- Read what follows the first byte of a prefixed integer. -/
def behindMark (first : UInt8) : Read UInt64 :=
  if first == 0xFC then do return UInt64.ofNat (← word 2)
  else if first == 0xFD then do return UInt64.ofNat (← word 3)
  else if first == 0xFE then do return UInt64.ofNat (← word 8)
  else return UInt64.ofNat first.toNat

theorem finds_prefixedInt_of_behindMark {first : UInt8} {b : Bytes} {n : UInt64}
    (hnull : first ≠ nullMark) (herr : first ≠ 0xFF) (h : Finds (behindMark first) b n) :
    Finds prefixedInt (first :: b) n := by
  intro position rest
  have hmark : (first == 0xFB || first == 0xFF) = false := by
    rw [beq_false_of_ne (show first ≠ 0xFB from hnull), beq_false_of_ne herr]
    rfl
  unfold prefixedInt
  rw [runFrom_bind]
  -- the first byte has been seen but not passed
  show runFrom (if first == 0xFB || first == 0xFF then _ else do skip 1; behindMark first)
    ⟨position, first :: (b ++ rest)⟩ = _
  rw [hmark, if_neg Bool.false_ne_true, runFrom_bind]
  show runFrom (behindMark first) ⟨position + 1, b ++ rest⟩ = _
  rw [h (position + 1) rest, List.length_cons, Nat.add_assoc, Nat.add_comm 1]

/-- **A prefixed integer is read back.** -/
theorem finds_prefixedInt (n : UInt64) : Finds prefixedInt (ofPrefixedInt n) n := by
  have hword : ∀ {width : Nat}, n.toNat < Nat.pow 256 width →
      Finds (do return UInt64.ofNat (← word width)) (littleEndian width n.toNat) n := by
    intro width h
    have hread := finds_map (finds_word h) UInt64.ofNat
    rwa [UInt64.ofNat_toNat] at hread
  have hform := prefixedForm n
  generalize ofPrefixedInt n = b at hform
  cases hform with
  | one h =>
    obtain ⟨mark, rest, hcons, hnull, herr, -, -⟩ := (PrefixedForm.one h).exists_cons
    obtain ⟨rfl, rfl⟩ := List.cons.inj hcons
    refine finds_prefixedInt_of_behindMark hnull herr ?_
    have hbyte : (UInt8.ofNat n.toNat).toNat = n.toNat := Text.toNat_ofNat_of_lt (by omega)
    have hsmall : ∀ k : UInt8, 251 ≤ k.toNat → (UInt8.ofNat n.toNat == k) = false := by
      intro k hk
      refine beq_false_of_ne fun heq => ?_
      rw [← heq, hbyte] at hk
      omega
    unfold behindMark
    rw [hsmall 0xFC (by decide), hsmall 0xFD (by decide), hsmall 0xFE (by decide), hbyte,
      UInt64.ofNat_toNat]
    exact finds_pure n
  | two h => exact finds_prefixedInt_of_behindMark (by decide) (by decide) (hword h)
  | three h => exact finds_prefixedInt_of_behindMark (by decide) (by decide) (hword h)
  | eight h => exact finds_prefixedInt_of_behindMark (by decide) (by decide) (hword n.toNat_lt)

/-! ## Texts and cells -/

/-- Bytes behind their number are read back, as far as a word can count them. -/
theorem finds_prefixedBytes {b : Bytes} (h : b.length < UInt64.size) :
    Finds prefixedBytes (ofPrefixedBytes b) b := by
  have hcount : (UInt64.ofNat b.length).toNat = b.length := UInt64.toNat_ofNat_of_lt h
  refine finds_bind (finds_prefixedInt (UInt64.ofNat b.length)) ?_
  rw [hcount]
  exact finds_bytes b

theorem finds_prefixedText {s : String} (h : (Text.encode s).length < UInt64.size) :
    Finds prefixedText (ofPrefixedText s) s := by
  have hread := finds_map (finds_prefixedBytes h) Text.decode
  rwa [Text.decode_encode] at hread

/-- The number of bytes that a cell's text has. -/
def cellLength : Option String → Nat
  | some s => (Text.encode s).length
  | none => 0

/-- **A cell is read back**, NULL as NULL and the empty text as a text. -/
theorem finds_cell {c : Option String} (h : cellLength c < UInt64.size) : Finds cell (ofCell c) c := by
  intro position rest
  cases c with
  | none =>
    unfold cell
    rw [runFrom_bind]
    rfl
  | some s =>
    -- the text begins with a prefixed integer, which is never the mark of NULL
    have hform := prefixedForm (UInt64.ofNat (Text.encode s).length)
    obtain ⟨mark, more, hcons, hnull, -, -, -⟩ := hform.exists_cons
    have hread := finds_map (finds_prefixedText h) some position rest
    have hcell : ofCell (some s) ++ rest = mark :: (more ++ Text.encode s ++ rest) := by
      show ofPrefixedInt _ ++ Text.encode s ++ rest = _
      rw [hcons]
      rfl
    have hpeek : runFrom peek ⟨position, ofCell (some s) ++ rest⟩ =
        (some mark, ⟨position, ofCell (some s) ++ rest⟩) := by
      rw [hcell]
      rfl
    unfold cell
    rw [runFrom_bind, hpeek]
    dsimp only
    rw [beq_false_of_ne hnull, if_neg Bool.false_ne_true]
    exact hread

/-! ## The end of a payload -/

/-- **A read finds a value in the last bytes of a payload** and stands at its end. -/
def Closes (read : Read α) (b : Bytes) (a : α) : Prop :=
  ∀ position, runFrom read ⟨position, b⟩ = (some a, ⟨position + b.length, []⟩)

theorem Finds.closes {read : Read α} {b : Bytes} {a : α} (h : Finds read b a) : Closes read b a := by
  intro position
  have hread := h position []
  rwa [List.append_nil] at hread

theorem closes_bind {read : Read α} {f : α → Read β} {b b' : Bytes} {a : α} {a' : β}
    (h : Finds read b a) (h' : Closes (f a) b' a') : Closes (read >>= f) (b ++ b') a' := by
  intro position
  rw [runFrom_bind, h position b']
  dsimp only
  rw [h' (position + b.length), List.length_append, Nat.add_assoc]

/-- What is made of the last value. -/
theorem closes_map {read : Read α} {b : Bytes} {a : α} (h : Closes read b a) (f : α → β) :
    Closes (do return f (← read)) b (f a) := by
  intro position
  rw [runFrom_bind, h position]
  rfl

theorem closes_rest (b : Bytes) : Closes rest b b := by
  intro position
  show (some b, (Reader.mk position b).advance b.length) = _
  rw [Reader.advance, List.drop_length]

/-- **A text up to the end of the payload is read back.** -/
theorem closes_restText (s : String) : Closes restText (Text.encode s) s := by
  have hread := closes_map (closes_rest (Text.encode s)) Text.decode
  rwa [Text.decode_encode] at hread

/-- A whole payload is read by a read that finds its value in all of it. -/
theorem onBytes_of_closes {read : Read α} {b : Bytes} {a : α} (h : Closes read b a) :
    onBytes read b = some a := by
  unfold onBytes Reader.ofBytes
  rw [h 0]

end Read

/-! ## Payloads that must have a form -/

namespace Parse

variable {payload : Bytes} {detail : String}

/-- **A reading finds a value in bytes**, wherever they stand in the payload and whatever follows them. -/
def Finds (p : Parse α) (b : Bytes) (a : α) : Prop :=
  ∀ position rest, p ⟨position, b ++ rest⟩ = .ok (a, ⟨position + b.length, rest⟩)

/-- **A reading finds a value in the last bytes of a payload.** -/
def Closes (p : Parse α) (b : Bytes) (a : α) : Prop :=
  ∀ position, ∃ r, p ⟨position, b⟩ = .ok (a, r)

theorem finds_need {read : Read α} {b : Bytes} {a : α} (h : Read.Finds read b a) :
    Finds (need payload detail read) b a := by
  intro position rest
  unfold need
  rw [h position rest]

theorem finds_allow {read : Read α} {b : Bytes} {a : α} (h : Read.Finds read b a) :
    Finds (allow read) b (some a) := by
  intro position rest
  unfold allow
  rw [h position rest]

theorem finds_pure (a : α) : Finds (pure a) [] a := fun _ _ => rfl

theorem bind_of_ok {p : Parse α} {f : α → Parse β} {r r' : Reader} {a : α} (h : p r = .ok (a, r')) :
    (p >>= f) r = f a r' := by
  show (p r).bind (fun v => f v.1 v.2) = f a r'
  rw [h]
  rfl

theorem finds_bind {p : Parse α} {f : α → Parse β} {b b' : Bytes} {a : α} {a' : β}
    (h : Finds p b a) (h' : Finds (f a) b' a') : Finds (p >>= f) (b ++ b') a' := by
  intro position rest
  rw [List.append_assoc, bind_of_ok (h position (b' ++ rest)), h' (position + b.length) rest,
    List.length_append, Nat.add_assoc]

/-- What is made of a value that is found. -/
theorem finds_map {p : Parse α} {b : Bytes} {a : α} (h : Finds p b a) (f : α → β) :
    Finds (do return f (← p)) b (f a) := by
  have hboth := finds_bind (f := fun a => pure (f a)) h (finds_pure (f a))
  rwa [List.append_nil] at hboth

theorem Finds.closes {p : Parse α} {b : Bytes} {a : α} (h : Finds p b a) : Closes p b a := by
  intro position
  have hread := h position []
  rw [List.append_nil] at hread
  exact ⟨_, hread⟩

theorem closes_bind {p : Parse α} {f : α → Parse β} {b b' : Bytes} {a : α} {a' : β}
    (h : Finds p b a) (h' : Closes (f a) b' a') : Closes (p >>= f) (b ++ b') a' := by
  intro position
  obtain ⟨r, hr⟩ := h' (position + b.length)
  exact ⟨r, (bind_of_ok (h position b')).trans hr⟩

/-- What is made of the last value. -/
theorem closes_map {p : Parse α} {b : Bytes} {a : α} (h : Closes p b a) (f : α → β) :
    Closes (do return f (← p)) b (f a) := by
  intro position
  obtain ⟨r, hr⟩ := h position
  exact ⟨r, bind_of_ok hr⟩

/-- A payload is read by a reading that finds its value in all of it. -/
theorem run_of_closes {p : Parse α} {b : Bytes} {a : α} (h : Closes p b a) : run b p = .ok a := by
  obtain ⟨r, hr⟩ := h 0
  show (p ⟨0, b⟩).map Prod.fst = .ok a
  rw [hr]
  rfl

end Parse

end WireSql.Wire
