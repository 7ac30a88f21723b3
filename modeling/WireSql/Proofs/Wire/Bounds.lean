import WireSql.Proofs.Outcome
import WireSql.Proofs.Wire.Reading
import WireSql.Wire.Cursor

/-!
# `WireSql.Proofs.Wire.Bounds`: reads stay within the payload

Reads by indices stop where an index or a sum goes wrong. They never do: `Mirrors` says of a read at a cursor
that it is not stopped, that it finds what the read of a payload finds and stands where that one stands, and
that it moves on, but not past the end. Reads put one behind the other mirror each other as well
(`Mirrors.bind`), so that only those remain which go by indices themselves. Each compares with what is left
before it moves, and with that a length out of the payload itself, however great, leads nowhere.

Main statement: `reads_stay_in_bounds`, on every read behind any sequence of reads.
-/

namespace WireSql.Wire

variable {α β : Type} {greatest : Nat} {c after : Cursor}

/-! ## Cursors and readers -/

namespace Cursor

theorem remaining_reader (c : Cursor) : c.reader.remaining = c.remaining := List.length_drop

theorem isEmpty_reader (c : Cursor) : c.reader.isEmpty = c.isEmpty := by
  rw [Reader.isEmpty, reader, isEmpty, Bool.eq_iff_iff, decide_eq_true_iff, List.isEmpty_iff, List.drop_eq_nil_iff]

theorem peek_reader (c : Cursor) : c.reader.peek = c.next? := List.head?_drop

theorem advance_reader (c : Cursor) (n : Nat) :
    c.reader.advance n = { c with position := c.position + n }.reader := by
  simp only [reader, Reader.advance, List.drop_drop]

theorem reader_injective {c c' : Cursor} (hdata : c.data = c'.data) (h : c.reader = c'.reader) : c = c' := by
  cases c
  cases c'
  obtain rfl := hdata
  obtain rfl := congrArg Reader.position h
  rfl

end Cursor

/-! ## Steps that could go wrong -/

namespace Fault

theorem sum_of_le {a b : Nat} (h : a + b ≤ greatest) : sum greatest a b = .ok (a + b) := if_pos h

theorem entry_of_lt {b : Bytes} {i : Nat} (h : i < b.length) : entry b i = .ok b[i] := by
  unfold entry
  rw [List.getElem?_eq_getElem h]

theorem slice_add {b : Bytes} {start n : Nat} (h : start + n ≤ b.length) :
    slice b start (start + n) = .ok ((b.drop start).take n) := by
  unfold slice
  rw [if_pos ⟨Nat.le_add_right _ _, h⟩, List.drop_take, Nat.add_sub_cancel_left]

/-- Looking up all the bytes one by one gives all the bytes. -/
theorem mapM_entry (b : Bytes) : (List.range b.length).mapM (entry b) = .ok b := by
  rw [mapM_eq_ok_iff, List.forall₂_iff_get]
  refine ⟨List.length_range, fun i _ hi => ?_⟩
  rw [List.get_eq_getElem, List.get_eq_getElem, List.getElem_range]
  exact entry_of_lt hi

end Fault

/-! ## Reads that mirror each other -/

/-- **What a read does from a cursor**: the read by indices is not stopped, it does what the read of a payload
does, and it stays within the payload. -/
structure Does (walk : Walk α) (read : Read α) (c : Cursor) (found : Option α) (after : Cursor) : Prop where
  /-- No index and no sum goes wrong. -/
  walk : walk.runFrom c = .ok (found, after)
  /-- The reader finds the same and stands at the same place. -/
  read : read.runFrom c.reader = (found, after.reader)
  data : after.data = c.data
  forward : c.position ≤ after.position
  within : after.position ≤ c.data.length

/-- **A read by indices mirrors a read of a payload**: from every place within a payload whose length is a word
it does the same. -/
def Mirrors (greatest : Nat) (walk : Walk α) (read : Read α) : Prop :=
  ∀ c : Cursor, c.position ≤ c.data.length → c.data.length ≤ greatest →
    ∃ found after, Does walk read c found after

variable {walk : Walk α} {read : Read α} {f : α → Walk β} {g : α → Read β}

theorem Walk.runFrom_bind_of_ok {found : Option α} (h : walk.runFrom c = .ok (found, after))
    (f : α → Walk β) : (walk >>= f).runFrom c =
      match found with
      | some a => (f a).runFrom after
      | none => .ok (none, after) := by
  have hrun : (walk >>= f).runFrom c =
      StateT.run (Option.elimM (OptionT.run walk) (pure none) fun a => OptionT.run (f a)) c := by
    rw [← OptionT.run_bind]
    rfl
  have hwalk : StateT.run (OptionT.run walk) c = .ok (found, after) := h
  rw [hrun, Option.elimM, StateT.run_bind, hwalk]
  cases found with
  | none => rfl
  | some a => rfl

theorem Does.bind {a : α} {found : Option β} {later : Cursor} (h : Does walk read c (some a) after)
    (h' : Does (f a) (g a) after found later) : Does (walk >>= f) (read >>= g) c found later where
  walk := (Walk.runFrom_bind_of_ok h.walk f).trans h'.walk
  read := by
    rw [Read.runFrom_bind, h.read]
    exact h'.read
  data := h'.data.trans h.data
  forward := Nat.le_trans h.forward h'.forward
  within := h.data ▸ h'.within

/-- What finds nothing ends a read. -/
theorem Does.bind_none (h : Does walk read c none after) (f : α → Walk β) (g : α → Read β) :
    Does (walk >>= f) (read >>= g) c none after where
  walk := Walk.runFrom_bind_of_ok h.walk f
  read := by rw [Read.runFrom_bind, h.read]
  data := h.data
  forward := h.forward
  within := h.within

theorem does_pure (a : α) (hc : c.position ≤ c.data.length) : Does (pure a) (pure a) c (some a) c :=
  ⟨rfl, rfl, rfl, Nat.le_refl _, hc⟩

theorem does_failure (hc : c.position ≤ c.data.length) :
    Does (failure : Walk α) (failure : Read α) c none c :=
  ⟨rfl, rfl, rfl, Nat.le_refl _, hc⟩

theorem mirrors_pure (a : α) : Mirrors greatest (pure a) (pure a) := fun c hc _ => ⟨some a, c, does_pure a hc⟩

/-- A read goes on from where another one has found something. -/
theorem Does.bind_mirrors {a : α} (h : Does walk read c (some a) after) (h' : Mirrors greatest (f a) (g a))
    (hword : c.data.length ≤ greatest) :
    ∃ found later, Does (walk >>= f) (read >>= g) c found later := by
  have hwithin : after.position ≤ after.data.length := h.data ▸ h.within
  obtain ⟨found, later, hlater⟩ := h' after hwithin (h.data ▸ hword)
  exact ⟨found, later, h.bind hlater⟩

/-- **Reads one behind the other mirror each other.** -/
theorem Mirrors.bind (h : Mirrors greatest walk read) (h' : ∀ a, Mirrors greatest (f a) (g a)) :
    Mirrors greatest (walk >>= f) (read >>= g) := by
  intro c hc hword
  obtain ⟨found, after, hdoes⟩ := h c hc hword
  cases found with
  | none => exact ⟨none, after, hdoes.bind_none f g⟩
  | some a => exact hdoes.bind_mirrors (h' a) hword

theorem Mirrors.map (h : Mirrors greatest walk read) (f : α → β) :
    Mirrors greatest (do return f (← walk)) (do return f (← read)) :=
  h.bind fun a => mirrors_pure (f a)

theorem mirrors_ite {walk' : Walk α} {read' : Read α} {p : Prop} [Decidable p]
    (h : Mirrors greatest walk read) (h' : Mirrors greatest walk' read') :
    Mirrors greatest (if p then walk else walk') (if p then read else read') := by
  split
  · exact h
  · exact h'

/-! ## Bytes and words -/

theorem does_peek (hc : c.position ≤ c.data.length) : Does Walk.peek Read.peek c c.next? c where
  walk := rfl
  read := congrArg (fun found => (found, c.reader)) c.peek_reader
  data := rfl
  forward := Nat.le_refl _
  within := hc

theorem mirrors_peek : Mirrors greatest Walk.peek Read.peek := fun c hc _ => ⟨c.next?, c, does_peek hc⟩

/-- **As many bytes as there are** are cut out between two indices, which stay within the payload. -/
theorem does_bytes {n : Nat} (hn : n ≤ c.remaining) (hc : c.position ≤ c.data.length)
    (hword : c.data.length ≤ greatest) :
    Does (Walk.bytes greatest n) (Read.bytes n) c (some ((c.data.drop c.position).take n))
      { c with position := c.position + n } := by
  have hstop : c.position + n ≤ c.data.length := by
    unfold Cursor.remaining at hn
    omega
  refine ⟨?_, ?_, rfl, Nat.le_add_right _ _, hstop⟩
  · show (if c.remaining < n then _ else _) = _
    rw [if_neg (Nat.not_lt_of_le hn), Fault.sum_of_le (Nat.le_trans hstop hword)]
    show (Fault.slice c.data c.position (c.position + n) >>= _) = _
    rw [Fault.slice_add hstop]
    rfl
  · show (if c.reader.remaining < n then _ else _) = _
    rw [c.remaining_reader, if_neg (Nat.not_lt_of_le hn), c.advance_reader]
    rfl

/-- More bytes than there are are not found, however many they are. -/
theorem does_bytes_of_lt (greatest : Nat) {n : Nat} (hn : c.remaining < n) (hc : c.position ≤ c.data.length) :
    Does (Walk.bytes greatest n) (Read.bytes n) c none c where
  walk := if_pos hn
  read := if_pos (c.remaining_reader.symm ▸ hn)
  data := rfl
  forward := Nat.le_refl _
  within := hc

theorem mirrors_bytes (n : Nat) : Mirrors greatest (Walk.bytes greatest n) (Read.bytes n) := by
  intro c hc hword
  rcases Nat.lt_or_ge c.remaining n with hn | hn
  · exact ⟨none, c, does_bytes_of_lt greatest hn hc⟩
  · exact ⟨_, _, does_bytes hn hc hword⟩

/-- As many bytes as there are can be passed. -/
theorem does_advance {n : Nat} (hn : n ≤ c.remaining) (hc : c.position ≤ c.data.length)
    (hword : c.data.length ≤ greatest) :
    Does (Walk.advance greatest n) (Read.skip n) c (some ()) { c with position := c.position + n } := by
  have hdoes := does_bytes hn hc hword
  have hskip := hdoes.bind (f := fun _ => pure ()) (g := fun _ => pure ()) (does_pure () hdoes.within)
  refine ⟨?_, hskip.read, rfl, hdoes.forward, hdoes.within⟩
  show (Fault.sum greatest c.position n >>= _) = _
  rw [Fault.sum_of_le (Nat.le_trans hdoes.within hword)]
  rfl

theorem mirrors_skip (n : Nat) : Mirrors greatest (Walk.skip greatest n) (Read.skip n) := by
  intro c hc hword
  rcases Nat.lt_or_ge c.remaining n with hn | hn
  · have hdoes := does_bytes_of_lt greatest hn hc
    have hskip := hdoes.bind_none (fun _ => pure ()) fun _ => pure ()
    exact ⟨none, c, if_pos hn, hskip.read, rfl, hdoes.forward, hdoes.within⟩
  · obtain ⟨hwalk, hread, hdata, hforward, hwithin⟩ := does_advance hn hc hword
    exact ⟨_, _, (if_neg (Nat.not_lt_of_le hn)).trans hwalk, hread, hdata, hforward, hwithin⟩

/-- **Only bytes that were found are looked up.** -/
theorem mirrors_word (width : Nat) : Mirrors greatest (Walk.word greatest width) (Read.word width) := by
  intro c hc hword
  rcases Nat.lt_or_ge c.remaining width with hn | hn
  · exact ⟨none, c, (does_bytes_of_lt greatest hn hc).bind_none _ _⟩
  · have hdoes := does_bytes hn hc hword
    generalize hfound : (c.data.drop c.position).take width = found at hdoes
    have hlength : found.length = width := by
      rw [← hfound, List.length_take, List.length_drop]
      exact Nat.min_eq_left hn
    have hdigits : Does (do return ofLittleEndian (← Walk.ofStep ((List.range width).mapM (Fault.entry found))))
        (pure (ofLittleEndian found)) { c with position := c.position + width } (some (ofLittleEndian found))
        { c with position := c.position + width } := by
      rw [← hlength, Fault.mapM_entry]
      exact does_pure _ (hlength ▸ hdoes.within)
    exact ⟨_, _, hdoes.bind hdigits⟩

/-! ## Reads that look at the next byte -/

/-- The next byte is one of those that are left. -/
theorem one_le_remaining {b : UInt8} (hnext : c.next? = some b) : 1 ≤ c.remaining := by
  have hlt : c.position < c.data.length := (List.getElem?_eq_some_iff.mp hnext).1
  unfold Cursor.remaining
  omega

/-- **A read that looks at the next byte first** may take it that the byte is there. -/
theorem mirrors_of_next {f : UInt8 → Walk α} {g : UInt8 → Read α}
    (h : ∀ c b, c.next? = some b → c.position ≤ c.data.length → c.data.length ≤ greatest →
      ∃ found after, Does (f b) (g b) c found after) :
    Mirrors greatest (Walk.peek >>= f) (Read.peek >>= g) := by
  intro c hc hword
  have hpeek := does_peek hc
  cases hnext : c.next? with
  | none =>
    rw [hnext] at hpeek
    exact ⟨none, c, hpeek.bind_none f g⟩
  | some b =>
    rw [hnext] at hpeek
    obtain ⟨found, after, hdoes⟩ := h c b hnext hc hword
    exact ⟨found, after, hpeek.bind hdoes⟩

/-- A number of one byte is the byte that comes next. -/
theorem mirrors_u8 : Mirrors greatest (Walk.u8 greatest) Read.u8 := by
  intro c hc hword
  have hpeek := does_peek hc
  cases hnext : c.next? with
  | none =>
    rw [hnext] at hpeek
    have hrest : c.data.drop c.position = [] := List.drop_eq_nil_of_le (List.getElem?_eq_none_iff.mp hnext)
    refine ⟨none, c, (hpeek.bind_none _ fun b => pure b).walk, ?_, rfl, Nat.le_refl _, hc⟩
    unfold Cursor.reader
    rw [hrest]
    rfl
  | some b =>
    rw [hnext] at hpeek
    have hadvance := does_advance (one_le_remaining hnext) hc hword
    have hwalk : Does (Walk.u8 greatest) (Read.peek >>= fun b => Read.skip 1 >>= fun _ => pure b) c (some b)
        { c with position := c.position + 1 } := hpeek.bind (hadvance.bind (does_pure b hadvance.within))
    have hrest : c.data.drop c.position = ofU8 b ++ c.data.drop (c.position + 1) := by
      obtain ⟨hlt, rfl⟩ := List.getElem?_eq_some_iff.mp hnext
      rw [List.drop_eq_getElem_cons hlt]
      simp [ofU8, littleEndian]
    refine ⟨some b, _, hwalk.walk, ?_, rfl, hadvance.forward, hadvance.within⟩
    unfold Cursor.reader
    rw [hrest]
    exact Read.finds_u8 b c.position _

theorem mirrors_behindMark (first : UInt8) :
    Mirrors greatest
      (if first == 0xFC then do return UInt64.ofNat (← Walk.word greatest 2)
      else if first == 0xFD then do return UInt64.ofNat (← Walk.word greatest 3)
      else if first == 0xFE then do return UInt64.ofNat (← Walk.word greatest 8)
      else return UInt64.ofNat first.toNat)
      (Read.behindMark first) :=
  mirrors_ite ((mirrors_word 2).map UInt64.ofNat)
    (mirrors_ite ((mirrors_word 3).map UInt64.ofNat)
      (mirrors_ite ((mirrors_word 8).map UInt64.ofNat) (mirrors_pure _)))

theorem mirrors_prefixedInt : Mirrors greatest (Walk.prefixedInt greatest) Read.prefixedInt := by
  refine mirrors_of_next fun c first hnext hc hword => ?_
  have hadvance := does_advance (one_le_remaining hnext) hc hword
  by_cases hmark : (first == 0xFB || first == 0xFF) = true
  · rw [if_pos hmark, if_pos hmark]
    exact ⟨none, c, (does_failure hc).bind_none _ _⟩
  · rw [if_neg hmark, if_neg hmark]
    exact hadvance.bind_mirrors (mirrors_behindMark first) hword

/-- **A length that no word holds is more than there are bytes**, so that it does not matter which of the two
keeps the read from finding anything. -/
theorem mirrors_counted (n : UInt64) : Mirrors greatest (Walk.counted greatest n) (Read.bytes n.toNat) := by
  intro c hc hword
  unfold Walk.counted
  split
  · next hgreat =>
    have hn : c.remaining < n.toNat := by
      unfold Cursor.remaining
      omega
    exact ⟨none, c, rfl, (does_bytes_of_lt greatest hn hc).read, rfl, Nat.le_refl _, hc⟩
  · exact mirrors_bytes n.toNat c hc hword

theorem mirrors_prefixedBytes : Mirrors greatest (Walk.prefixedBytes greatest) Read.prefixedBytes :=
  mirrors_prefixedInt.bind mirrors_counted

theorem mirrors_prefixedText : Mirrors greatest (Walk.prefixedText greatest) Read.prefixedText :=
  mirrors_prefixedBytes.map Text.decode

theorem mirrors_cell : Mirrors greatest (Walk.cell greatest) Read.cell := by
  refine mirrors_of_next fun c first hnext hc hword => ?_
  by_cases hmark : (first == nullMark) = true
  · rw [if_pos hmark, if_pos hmark]
    exact (does_advance (one_le_remaining hnext) hc hword).bind_mirrors (mirrors_pure none) hword
  · rw [if_neg hmark, if_neg hmark]
    exact (mirrors_prefixedText.map some) c hc hword

/-! ## Reads to a zero and to the end -/

/-- The bytes in front of the next zero. -/
def Cursor.zeroFree (c : Cursor) : Bytes := (c.data.drop c.position).takeWhile (· != 0)

theorem Cursor.zeroFree_prefix (c : Cursor) : c.zeroFree <+: c.data.drop c.position := List.takeWhile_prefix _

theorem Cursor.length_zeroFree_le (hc : c.position ≤ c.data.length) :
    c.position + c.zeroFree.length ≤ c.data.length := by
  have hlength := c.zeroFree_prefix.length_le
  rw [List.length_drop] at hlength
  omega

/-- The position moves on by as many bytes as stand in front of the next zero. -/
theorem toZero_eq {fuel : Nat} (hfuel : c.remaining ≤ fuel) (hword : c.data.length ≤ greatest) :
    Walk.toZero greatest fuel c = .ok { c with position := c.position + c.zeroFree.length } := by
  unfold Cursor.zeroFree
  induction fuel generalizing c with
  | zero =>
    have hend : c.data.length ≤ c.position := Nat.sub_eq_zero_iff_le.mp (Nat.le_zero.mp hfuel)
    rw [List.drop_eq_nil_of_le hend]
    rfl
  | succ fuel ih =>
    unfold Walk.toZero
    rcases Nat.lt_or_ge c.position c.data.length with hlt | hge
    · rw [if_pos hlt, Fault.entry_of_lt hlt, List.drop_eq_getElem_cons hlt]
      show (if c.data[c.position] == 0 then _ else _) = _
      by_cases hzero : c.data[c.position] = 0
      · rw [if_pos (beq_iff_eq.mpr hzero), List.takeWhile_cons_of_neg (by simp [hzero])]
        rfl
      · have hnext : c.data.length - (c.position + 1) ≤ fuel := by
          unfold Cursor.remaining at hfuel
          omega
        rw [if_neg (by simpa using hzero), Fault.sum_of_le (Nat.le_trans hlt hword),
          List.takeWhile_cons_of_pos (by simpa using hzero)]
        refine (ih (c := { c with position := c.position + 1 }) hnext hword).trans ?_
        rw [List.length_cons, Nat.add_assoc, Nat.add_comm 1]
    · rw [if_neg (Nat.not_lt_of_le hge), List.drop_eq_nil_of_le hge]
      rfl

/-- The bytes in front of a zero are found, and the zero is passed if it is there. -/
theorem Walk.runFrom_zeroEndedBytes (hlt : c.position < c.data.length) (hword : c.data.length ≤ greatest) :
    (Walk.zeroEndedBytes greatest).runFrom c =
      .ok (some c.zeroFree, { c with position := c.position + min (c.zeroFree.length + 1) c.remaining }) := by
  have hempty : ¬ c.isEmpty = true := by simpa [Cursor.isEmpty] using hlt
  have hle := Cursor.length_zeroFree_le (Nat.le_of_lt hlt)
  have hslice : Fault.slice c.data c.position (c.position + c.zeroFree.length) = .ok c.zeroFree := by
    rw [Fault.slice_add hle, ← List.prefix_iff_eq_take.mp c.zeroFree_prefix]
  show (if c.isEmpty then _ else _) = _
  rw [if_neg hempty, toZero_eq (Nat.le_refl c.remaining) hword]
  show (Fault.slice c.data c.position (c.position + c.zeroFree.length) >>= _) = _
  rw [hslice]
  show (if c.position + c.zeroFree.length < c.data.length then _ else _) = _
  split
  · next hzero =>
    have hmin : min (c.zeroFree.length + 1) c.remaining = c.zeroFree.length + 1 := by
      unfold Cursor.remaining
      omega
    rw [hmin, Fault.sum_of_le (Nat.le_trans hzero hword)]
    rfl
  · next hzero =>
    have hmin : min (c.zeroFree.length + 1) c.remaining = c.zeroFree.length := by
      unfold Cursor.remaining
      omega
    rw [hmin]
    rfl

/-- **A zero that is missing is not passed**: the position stays at the end of the payload. -/
theorem mirrors_zeroEndedBytes : Mirrors greatest (Walk.zeroEndedBytes greatest) Read.zeroEndedBytes := by
  intro c hc hword
  rcases Nat.lt_or_ge c.position c.data.length with hlt | hge
  · have hempty : ¬ c.reader.isEmpty = true := by simpa [c.isEmpty_reader, Cursor.isEmpty] using hlt
    have hwithin : c.position + min (c.zeroFree.length + 1) c.remaining ≤ c.data.length := by
      unfold Cursor.remaining
      omega
    refine ⟨_, _, Walk.runFrom_zeroEndedBytes hlt hword, ?_, rfl, Nat.le_add_right _ _, hwithin⟩
    show (if c.reader.isEmpty then _ else _) = _
    rw [if_neg hempty, c.remaining_reader, c.advance_reader]
    rfl
  · have hempty : c.isEmpty = true := decide_eq_true hge
    have hempty' : c.reader.isEmpty = true := c.isEmpty_reader.trans hempty
    exact ⟨none, c, if_pos hempty, if_pos hempty', rfl, Nat.le_refl _, hc⟩

theorem mirrors_rest : Mirrors greatest Walk.rest Read.rest := by
  intro c hc _
  have hend : c.position + c.remaining = c.data.length := Nat.add_sub_cancel' hc
  have hslice : Fault.slice c.data c.position c.data.length = .ok (c.data.drop c.position) := by
    have hall : (c.data.drop c.position).length ≤ c.remaining := Nat.le_of_eq List.length_drop
    have hcut := Fault.slice_add (Nat.le_of_eq hend)
    rwa [hend, List.take_of_length_le hall] at hcut
  refine ⟨some (c.data.drop c.position), { c with position := c.data.length }, ?_, ?_, rfl, hc, Nat.le_refl _⟩
  · show (Fault.slice c.data (min c.position c.data.length) c.data.length >>= _) = _
    rw [Nat.min_eq_left hc, hslice]
    rfl
  · show (some c.reader.rest, c.reader.advance c.reader.remaining) = _
    rw [c.remaining_reader, c.advance_reader, hend]
    rfl

/-! ## Reads that find nothing -/

namespace Read

/-- **A read that finds nothing leaves the reader where it is.** -/
def Stays (read : Read α) : Prop := ∀ r r', read.runFrom r = (none, r') → r' = r

theorem Stays.map {read : Read α} (h : Stays read) (f : α → β) : Stays (do return f (← read)) := by
  intro r r' hrun
  rw [runFrom_bind] at hrun
  rcases hread : read.runFrom r with ⟨found, after⟩
  rw [hread] at hrun
  cases found with
  | none =>
    obtain rfl : after = r' := congrArg Prod.snd hrun
    exact h r after hread
  | some a => cases hrun

theorem stays_peek : Stays peek := fun _ _ hrun => (congrArg Prod.snd hrun).symm

/-- A read that tests first whether it finds something. -/
theorem stays_of_test (p : Reader → Prop) [DecidablePred p] (f : Reader → α × Reader) :
    Stays (ofFunction fun r => if p r then (none, r) else (some (f r).1, (f r).2)) := by
  intro r r' hrun
  change (if p r then (none, r) else (some (f r).1, (f r).2)) = (none, r') at hrun
  split at hrun
  · exact (congrArg Prod.snd hrun).symm
  · cases hrun

theorem stays_bytes (n : Nat) : Stays (bytes n) :=
  stays_of_test (fun r => r.remaining < n) fun r => (r.rest.take n, r.advance n)

theorem stays_word (width : Nat) : Stays (word width) := (stays_bytes width).map ofLittleEndian

theorem stays_zeroEndedBytes : Stays zeroEndedBytes :=
  stays_of_test (fun r => r.isEmpty = true) fun r =>
    (r.rest.takeWhile (· != 0), r.advance (min ((r.rest.takeWhile (· != 0)).length + 1) r.remaining))

theorem stays_rest : Stays rest := by
  intro r r' hrun
  cases hrun

end Read

/-! ## Reads by name -/

namespace Request

/-- Does the read begin with a prefixed integer? If it does, it may have passed that one when it finds
nothing. -/
def isPrefixed : Request → Bool
  | prefixedInt | prefixedBytes | prefixedText | cell => true
  | _ => false

variable {q : Request}

/-- **Every read by indices mirrors the read of the same name.** -/
theorem mirrors (q : Request) : Mirrors greatest (q.walk greatest) q.read := by
  cases q with
  | peek => exact mirrors_peek.map Found.u8
  | u8 => exact mirrors_u8.map Found.u8
  | u16 => exact ((mirrors_word 2).map UInt16.ofNat).map Found.u16
  | u24 => exact ((mirrors_word 3).map UInt32.ofNat).map Found.u32
  | u32 => exact ((mirrors_word 4).map UInt32.ofNat).map Found.u32
  | u64 => exact ((mirrors_word 8).map UInt64.ofNat).map Found.u64
  | prefixedInt => exact mirrors_prefixedInt.map Found.u64
  | prefixedBytes => exact mirrors_prefixedBytes.map Found.bytes
  | prefixedText => exact mirrors_prefixedText.map Found.text
  | cell => exact mirrors_cell.map Found.cell
  | zeroEndedBytes => exact mirrors_zeroEndedBytes.map Found.bytes
  | zeroEndedText => exact (mirrors_zeroEndedBytes.map Text.decode).map Found.text
  | bytes n => exact (mirrors_bytes n).map Found.bytes
  | text n => exact ((mirrors_bytes n).map Text.decode).map Found.text
  | skip n => exact (mirrors_skip n).map fun _ => Found.passed
  | rest => exact mirrors_rest.map Found.bytes
  | restText => exact (mirrors_rest.map Text.decode).map Found.text

/-- A read that does not begin with a prefixed integer passes nothing when it finds nothing. -/
theorem stays (h : q.isPrefixed = false) : q.read.Stays := by
  cases q with
  | peek => exact Read.stays_peek.map Found.u8
  | u8 => exact ((Read.stays_word 1).map UInt8.ofNat).map Found.u8
  | u16 => exact ((Read.stays_word 2).map UInt16.ofNat).map Found.u16
  | u24 => exact ((Read.stays_word 3).map UInt32.ofNat).map Found.u32
  | u32 => exact ((Read.stays_word 4).map UInt32.ofNat).map Found.u32
  | u64 => exact ((Read.stays_word 8).map UInt64.ofNat).map Found.u64
  | prefixedInt | prefixedBytes | prefixedText | cell => cases h
  | zeroEndedBytes => exact Read.stays_zeroEndedBytes.map Found.bytes
  | zeroEndedText => exact (Read.stays_zeroEndedBytes.map Text.decode).map Found.text
  | bytes n => exact (Read.stays_bytes n).map Found.bytes
  | text n => exact ((Read.stays_bytes n).map Text.decode).map Found.text
  | skip n => exact ((Read.stays_bytes n).map fun _ => ()).map fun _ => Found.passed
  | rest => exact Read.stays_rest.map Found.bytes
  | restText => exact (Read.stays_rest.map Text.decode).map Found.text

/-- **What one read leaves behind in a payload**: the cursor behind it, next to the one in front of it. -/
structure InBounds (q : Request) (payload : Bytes) (before : Cursor) (found : Option Found) (after : Cursor) :
    Prop where
  data : after.data = payload
  forward : before.position ≤ after.position
  within : after.position ≤ payload.length
  /-- What is left is the length without the position. -/
  left : after.position + after.remaining = payload.length
  /-- A read that finds nothing and does not begin with a prefixed integer leaves the position unchanged. -/
  unmoved : found = none → q.isPrefixed = false → after = before

theorem inBounds_of_does {found : Option Found} (h : Does (q.walk greatest) q.read c found after) :
    q.InBounds c.data c found after where
  data := h.data
  forward := h.forward
  within := h.within
  left := by
    rw [← h.data]
    exact Nat.add_sub_cancel' (h.data ▸ h.within)
  unmoved := by
    rintro rfl hq
    exact Cursor.reader_injective h.data (stays hq c.reader after.reader h.read)

/-- **Reads by indices one after the other are not stopped** from any place within a payload. They find what
the reads of the payload find, and end at a place within it. -/
theorem walkAll_mirrors (qs : List Request) (hc : c.position ≤ c.data.length) (hword : c.data.length ≤ greatest) :
    ∃ answers after, walkAll greatest qs c = .ok (answers, after) ∧
      readAll qs c.reader = (answers, after.reader) ∧ after.data = c.data ∧ after.position ≤ c.data.length := by
  induction qs generalizing c with
  | nil => exact ⟨[], c, rfl, rfl, rfl, hc⟩
  | cons q qs ih =>
    obtain ⟨found, next, hfirst⟩ := q.mirrors c hc hword
    obtain ⟨answers, after, hwalk, hread, hdata, hwithin⟩ :=
      ih (hfirst.data ▸ hfirst.within) (hfirst.data ▸ hword)
    refine ⟨found :: answers, after, ?_, ?_, hdata.trans hfirst.data, hfirst.data ▸ hwithin⟩
    · rw [walkAll, hfirst.walk]
      show (walkAll greatest qs next >>= _) = _
      rw [hwalk]
      rfl
    · rw [readAll, hfirst.read]
      dsimp only
      rw [hread]

end Request

/-- **Every read behind any sequence of reads stays within the payload.** However many bytes the reads ask for,
or the payload tells them to ask for, no index and no sum goes wrong in any of them: reading by indices does
what reading a list does. -/
theorem reads_stay_in_bounds {payload : Bytes} (h : payload.length ≤ greatest) (earlier : List Request) (q : Request) :
    ∃ answers before found after,
      Request.walkAll greatest earlier (Cursor.ofBytes payload) = .ok (answers, before) ∧
      (q.walk greatest).runFrom before = .ok (found, after) ∧
      Request.readAll earlier (Reader.ofBytes payload) = (answers, before.reader) ∧
      q.read.runFrom before.reader = (found, after.reader) ∧ q.InBounds payload before found after := by
  obtain ⟨answers, before, hwalk, hread, hdata, hwithin⟩ :=
    Request.walkAll_mirrors (c := Cursor.ofBytes payload) earlier (Nat.zero_le _) h
  have hdata : before.data = payload := hdata
  obtain ⟨found, after, hlast⟩ := q.mirrors before (hdata ▸ hwithin) (hdata ▸ h)
  exact ⟨answers, before, found, after, hwalk, hlast.walk, hread, hlast.read,
    hdata ▸ Request.inBounds_of_does hlast⟩

/-- The greatest number of a 64-bit word, asked for and read from the payload: the prefix is passed, its bytes
are not found, and what follows is read from behind the prefix. -/
theorem reads_stay_in_bounds_greatest_length :
    let greatest := 0xFFFFFFFFFFFFFFFF
    let payload : Bytes := 0xFE :: List.replicate 8 0xFF ++ [0x41]
    let last : Cursor := ⟨payload, 9⟩
    payload.length ≤ greatest ∧
      Request.walkAll greatest [.bytes greatest, .prefixedBytes] (Cursor.ofBytes payload) =
        .ok ([none, none], last) ∧
      (Request.skip 2).InBounds payload last none last := by
  intro greatest payload last
  have hlength : payload.length ≤ greatest := by decide
  obtain ⟨answers, before, found, after, hwalk, hlast, -, -, hbounds⟩ :=
    reads_stay_in_bounds hlength [.bytes greatest, .prefixedBytes] (.skip 2)
  have hrun : Request.walkAll greatest [.bytes greatest, .prefixedBytes] (Cursor.ofBytes payload) =
      .ok ([none, none], last) := rfl
  obtain ⟨rfl, rfl⟩ := Prod.mk.inj (Except.ok.inj (hrun.symm.trans hwalk))
  have hskip : ((Request.skip 2).walk greatest).runFrom last = .ok (none, last) := rfl
  obtain ⟨rfl, rfl⟩ := Prod.mk.inj (Except.ok.inj (hskip.symm.trans hlast))
  exact ⟨hlength, hrun, hbounds⟩

end WireSql.Wire
