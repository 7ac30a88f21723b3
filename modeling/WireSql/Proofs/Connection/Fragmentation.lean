import WireSql.Proofs.Connection.Run
import WireSql.Proofs.Wire.Decoding

/-!
# `WireSql.Proofs.Connection.Fragmentation`: where a stream is cut makes no difference

A stream of bytes reaches a connection in reads of any size. `serve_of_flatten_eq` says that the size
does not matter: two ways of cutting the same stream lead to the same bytes written, the same state of
the backend, the same session and the same ending.

Shape: `Serving.observed` is all of a connection in the middle of its stream but the bytes that are no
whole frame yet. `receive_append` shows that two reads one after the other are, in that view, one read of
both together; the induction over the reads (`foldl_receive`) needs beyond that only that no whole frame
is ever left waiting (`Serving.Settled`).

The last section compares `Serving.receive`, which takes every frame of a read before it answers the
first, with `Serving.pump`, which takes a frame only when the one before it has been answered. The two
agree in everything but the bytes left waiting (`receive_eq_pump`).
-/

namespace WireSql.Connection

variable {σ : Type} {backend : Backend σ}

namespace Serving

/-! ## Answering frames -/

/-- All of a connection but the bytes that are no whole frame yet. -/
def observed (s : Serving σ) : Serving σ := { s with pending := [] }

theorem answer_of_ended {s : Serving σ} (h : s.ending.isSome = true) (frame : Wire.Frame) :
    answer backend s frame = s := by
  simp [answer, h]

theorem foldl_answer_of_ended {s : Serving σ} (h : s.ending.isSome = true) (frames : List Wire.Frame) :
    frames.foldl (answer backend) s = s := by
  induction frames with
  | nil => rfl
  | cons frame frames ih => rw [List.foldl_cons, answer_of_ended h, ih]

/-- An answer neither reads nor changes the bytes that wait. -/
theorem answer_with_pending (s : Serving σ) (pending : Bytes) (frame : Wire.Frame) :
    answer backend { s with pending } frame = { answer backend s frame with pending } := by
  unfold answer
  split
  · rfl
  · dsimp only
    split
    · rfl
    · split <;> rfl

theorem foldl_answer_with_pending (s : Serving σ) (pending : Bytes) (frames : List Wire.Frame) :
    frames.foldl (answer backend) { s with pending } =
      { frames.foldl (answer backend) s with pending } := by
  induction frames generalizing s with
  | nil => rfl
  | cons frame frames ih => rw [List.foldl_cons, answer_with_pending, ih, List.foldl_cons]

/-- An answer does not change the settings. -/
theorem config_answer (s : Serving σ) (frame : Wire.Frame) :
    (answer backend s frame).connection.config = s.connection.config := by
  have hconfig := (onFrame_moves backend s.connection s.state frame).1
  unfold answer
  split
  · rfl
  · split
    · next h => rw [h] at hconfig; exact hconfig
    · next h =>
      rw [h] at hconfig
      split <;> exact hconfig

theorem config_foldl_answer (s : Serving σ) (frames : List Wire.Frame) :
    (frames.foldl (answer backend) s).connection.config = s.connection.config := by
  induction frames generalizing s with
  | nil => rfl
  | cons frame frames ih => rw [List.foldl_cons, ih, config_answer]

/-! ## Taking in reads -/

/-- The codec of a connection in the middle of its stream. -/
abbrev wire (s : Serving σ) : Wire.Codec := codec s.connection.config

/-- The connection behind a failure of the decoder, which matters only while it has not ended. -/
def fail (s : Serving σ) (failure : Option FramingError) : Serving σ :=
  match s.ending, failure with
  | none, some e => { s with ending := some (.failed e) }
  | _, _ => s

theorem receive_of_ended {s : Serving σ} (h : s.ending.isSome = true) (read : Bytes) :
    receive backend s read = s := by
  simp [receive, h]

/-- A read in three parts: the frames it completes, the bytes it leaves, and its failure. -/
theorem receive_of_open {s : Serving σ} (h : s.ending = none) (read : Bytes) :
    receive backend s read =
      ({ (s.wire.decodeAll (s.pending ++ read)).frames.foldl (answer backend) s with
        pending := (s.wire.decodeAll (s.pending ++ read)).rest } : Serving σ).fail
        (s.wire.decodeAll (s.pending ++ read)).failure := by
  unfold receive
  rw [if_neg (by simp [h])]
  exact congrArg (fun t : Serving σ => t.fail (s.wire.decodeAll (s.pending ++ read)).failure)
    (foldl_answer_with_pending s _ _)

theorem fail_of_ended {s : Serving σ} (h : s.ending.isSome = true) (failure : Option FramingError) :
    s.fail failure = s := by
  unfold fail
  split
  · next e hnone => rw [hnone] at h; cases h
  · rfl

@[simp] theorem fail_none (s : Serving σ) : s.fail none = s := by
  unfold fail
  split
  · next h => cases h
  · rfl

theorem config_fail (s : Serving σ) (failure : Option FramingError) :
    (s.fail failure).connection = s.connection := by
  unfold fail
  split <;> rfl

theorem config_receive (s : Serving σ) (read : Bytes) :
    (receive backend s read).connection.config = s.connection.config := by
  cases h : s.ending with
  | some ending => rw [receive_of_ended (by simp [h])]
  | none =>
    rw [receive_of_open h, config_fail]
    exact config_foldl_answer s _

/-- No whole frame waits, and no header over the cap, unless the connection has ended. -/
def Settled (s : Serving σ) : Prop := s.ending.isSome = true ∨ s.wire.decode s.pending = .ok none

/-- A read leaves no whole frame behind. -/
theorem settled_receive (s : Serving σ) (read : Bytes) : Settled (receive backend s read) := by
  cases h : s.ending with
  | some ending => exact .inl (by rw [receive_of_ended (by simp [h]), h]; rfl)
  | none =>
    cases hend : (receive backend s read).ending with
    | some ending => exact .inl (by rw [hend]; rfl)
    | none =>
      refine .inr ?_
      have hcodec : (receive backend s read).wire = s.wire :=
        congrArg codec (config_receive s read)
      rw [hcodec]
      rw [receive_of_open h] at hend ⊢
      -- a failure would have ended the connection, so decoding stopped for lack of bytes
      cases hfail : (s.wire.decodeAll (s.pending ++ read)).failure with
      | none => rw [fail_none]; exact s.wire.decode_rest_of_failure_none _ hfail
      | some e =>
        rw [hfail] at hend
        unfold fail at hend
        split at hend
        · cases hend
        · next hno => exact absurd rfl (hno e hend)

/-- A settled connection makes nothing of a read without bytes. -/
theorem receive_nil {s : Serving σ} (h : Settled s) : receive backend s [] = s := by
  cases hend : s.ending with
  | some ending => exact receive_of_ended (by simp [hend]) []
  | none =>
    have hpending : s.wire.decode s.pending = .ok none := by
      rcases h with h | h
      · rw [hend] at h; cases h
      · exact h
    rw [receive_of_open hend, List.append_nil, Wire.Codec.decodeAll_of_none hpending, fail_none]
    rfl

/-- **Two reads are one read of both together.** -/
theorem receive_append (s : Serving σ) (x y : Bytes) :
    (receive backend (receive backend s x) y).observed = (receive backend s (x ++ y)).observed := by
  cases h : s.ending with
  | some ending =>
    have hended : s.ending.isSome = true := by simp [h]
    rw [receive_of_ended hended, receive_of_ended hended, receive_of_ended hended]
  | none =>
    have hcodec : (receive backend s x).wire = s.wire := congrArg codec (config_receive s x)
    rw [receive_of_open h (x ++ y), ← List.append_assoc, s.wire.decodeAll_append,
      List.foldl_append]
    have hx : receive backend s x = _ := receive_of_open h x
    generalize hd : s.wire.decodeAll (s.pending ++ x) = d at hx ⊢
    generalize ht : d.frames.foldl (answer backend) s = t at hx ⊢
    cases htend : t.ending with
    | some ending =>
      -- the first read has ended the connection: nothing of the second one counts
      have hended : t.ending.isSome = true := by simp [htend]
      have hstay : ∀ (pending : Bytes) (failure : Option FramingError),
          ({ t with pending } : Serving σ).fail failure = { t with pending } := by
        intro pending failure
        apply fail_of_ended
        exact hended
      have hxend : (receive backend s x).ending.isSome = true := by rw [hx, hstay]; exact hended
      rw [receive_of_ended hxend, hx, foldl_answer_of_ended hended, hstay, hstay]
      rfl
    | none =>
      cases hfail : d.failure with
      | some e =>
        -- the first read has failed: the second one meets the same failure at the same place
        have hrest : s.wire.decode d.rest = .error e := by
          rw [← hd] at hfail ⊢
          exact s.wire.decode_rest_of_failure_some _ hfail
        rw [hfail] at hx
        have hxend : (receive backend s x).ending.isSome = true := by
          rw [hx]; unfold fail; dsimp only; rw [htend]; rfl
        rw [receive_of_ended hxend, hx,
          Wire.Codec.decodeAll_of_error (Wire.Codec.decode_append_of_error hrest y)]
        unfold fail
        simp only [htend, List.foldl_nil, observed]
      | none =>
        rw [hfail, fail_none] at hx
        have hxend : (receive backend s x).ending = none := by rw [hx]; exact htend
        have hpending : (receive backend s x).pending = d.rest := by rw [hx]
        rw [receive_of_open hxend, hcodec, hpending, hx, foldl_answer_with_pending]

/-- **Reads one after the other are one read of all their bytes.** -/
theorem foldl_receive {s : Serving σ} (h : Settled s) (reads : List Bytes) :
    (reads.foldl (receive backend) s).observed = (receive backend s reads.flatten).observed := by
  induction reads generalizing s with
  | nil => rw [List.foldl_nil, List.flatten_nil, receive_nil h]
  | cons read reads ih =>
    rw [List.foldl_cons, ih (settled_receive s read), receive_append, List.flatten_cons]

theorem settled_greet (c : Connection) (state : σ) : Settled (greet c state) := by
  unfold greet
  dsimp only
  split
  · exact .inr Wire.Codec.decode_nil
  · exact .inl rfl

end Serving

/-! ## Serving a stream -/

/-- **How a stream is cut into reads makes no difference.** Over every backend, and for every stream,
valid or not, two ways of cutting it lead to the same bytes written, the same state of the backend, the
same connection and the same ending. -/
theorem serve_of_flatten_eq (backend : Backend σ) (c : Connection) (state : σ)
    {reads reads' : List Bytes} (h : reads.flatten = reads'.flatten) :
    (c.serve backend state reads).written = (c.serve backend state reads').written ∧
      (c.serve backend state reads).state = (c.serve backend state reads').state ∧
      (c.serve backend state reads).connection = (c.serve backend state reads').connection ∧
      (c.serve backend state reads).ending = (c.serve backend state reads').ending := by
  have hobserved :
      (reads.foldl (Serving.receive backend) (Serving.greet c state)).observed =
        (reads'.foldl (Serving.receive backend) (Serving.greet c state)).observed := by
    rw [Serving.foldl_receive (Serving.settled_greet c state),
      Serving.foldl_receive (Serving.settled_greet c state), h]
  have hwritten := congrArg Serving.written hobserved
  have hstate := congrArg Serving.state hobserved
  have hconnection := congrArg Serving.connection hobserved
  have hending := congrArg (fun s : Serving σ => some (s.ending.getD .clientLeft)) hobserved
  exact ⟨hwritten, hstate, hconnection, hending⟩

/-- A login, the request to end and two bytes of rubbish, cut inside a header and inside a payload, or
not at all. -/
theorem serve_of_flatten_eq_quit :
    let c := new {} 1 (Wire.Challenge.ofBytes [])
    let reads := [[3, 0], [0, 1, 1, 2], [3, 1, 0, 0, 0, 1], [9, 9]]
    let whole := [[3, 0, 0, 1, 1, 2, 3, 1, 0, 0, 0, 1, 9, 9]]
    reads.flatten = whole.flatten ∧
      (c.serve Store.backend {} reads).written = (c.serve Store.backend {} whole).written ∧
      (c.serve Store.backend {} reads).state = (c.serve Store.backend {} whole).state ∧
      (c.serve Store.backend {} reads).connection = (c.serve Store.backend {} whole).connection ∧
      (c.serve Store.backend {} reads).ending = (c.serve Store.backend {} whole).ending := by
  intro c reads whole
  have hflatten : reads.flatten = whole.flatten := by decide
  exact ⟨hflatten, serve_of_flatten_eq Store.backend c {} hflatten⟩

/-! ## One frame at a time -/

namespace Serving

/-- Answer the frames at the front of bytes, each before the next is looked at, until the connection has
ended or no whole frame is left. -/
def pump (backend : Backend σ) (s : Serving σ) (bytes : Bytes) : Serving σ :=
  if s.ending.isSome then s
  else match _h : s.wire.decode bytes with
    | .error e => { s with ending := some (.failed e) }
    | .ok none => { s with pending := bytes }
    | .ok (some (frame, rest)) => pump backend (answer backend s frame) rest
termination_by bytes.length
decreasing_by exact Wire.Codec.length_lt_of_decode _h

theorem pump_of_ended {s : Serving σ} (h : s.ending.isSome = true) (bytes : Bytes) :
    pump backend s bytes = s := by
  rw [pump, if_pos h]

theorem pump_of_error {s : Serving σ} (h : s.ending = none) {bytes : Bytes} {e : FramingError}
    (hd : s.wire.decode bytes = .error e) :
    pump backend s bytes = { s with ending := some (.failed e) } := by
  rw [pump, if_neg (by simp [h])]
  split
  · next hd' => rw [Except.error.inj (hd'.symm.trans hd)]
  · next hd' => cases hd'.symm.trans hd
  · next hd' => cases hd'.symm.trans hd

theorem pump_of_none {s : Serving σ} (h : s.ending = none) {bytes : Bytes}
    (hd : s.wire.decode bytes = .ok none) : pump backend s bytes = { s with pending := bytes } := by
  rw [pump, if_neg (by simp [h])]
  split
  · next hd' => cases hd'.symm.trans hd
  · rfl
  · next hd' => cases hd'.symm.trans hd

theorem pump_of_some {s : Serving σ} (h : s.ending = none) {bytes rest : Bytes} {frame : Wire.Frame}
    (hd : s.wire.decode bytes = .ok (some (frame, rest))) :
    pump backend s bytes = pump backend (answer backend s frame) rest := by
  rw [pump, if_neg (by simp [h])]
  split
  · next hd' => cases hd'.symm.trans hd
  · next hd' => cases hd'.symm.trans hd
  · next hd' =>
    obtain ⟨rfl, rfl⟩ := Prod.mk.inj (Option.some.inj (Except.ok.inj (hd'.symm.trans hd)))
    rfl

/-- Answering all the frames of bytes at once leaves what answering each in its turn leaves. -/
theorem answerAll_eq_pump (wire : Wire.Codec) (bytes : Bytes) {s : Serving σ} (hwire : s.wire = wire)
    (h : s.ending = none) :
    (({ (wire.decodeAll bytes).frames.foldl (answer backend) s with
      pending := (wire.decodeAll bytes).rest } : Serving σ).fail
        (wire.decodeAll bytes).failure).observed = (pump backend s bytes).observed := by
  induction bytes using Wire.Codec.decode_induction wire generalizing s with
  | hnone bytes hd =>
    rw [Wire.Codec.decodeAll_of_none hd, fail_none, pump_of_none h (hwire ▸ hd)]
    rfl
  | herror bytes e hd =>
    rw [Wire.Codec.decodeAll_of_error hd, pump_of_error h (hwire ▸ hd)]
    simp [fail, h, observed]
  | hsome bytes frame rest hd ih =>
    rw [Wire.Codec.decodeAll_of_some hd, pump_of_some h (hwire ▸ hd), List.foldl_cons]
    have hwire' : (answer backend s frame).wire = wire :=
      (congrArg codec (config_answer s frame)).trans hwire
    cases hend : (answer backend s frame).ending with
    | none => exact ih hwire' hend
    | some ending =>
      -- the frames behind the end leave no trace
      have hended : (answer backend s frame).ending.isSome = true := by simp [hend]
      rw [foldl_answer_of_ended hended, pump_of_ended hended]
      simp [fail, hend, observed]

/-- **Taking all frames of a read before answering the first makes no difference** to taking each when
the one before it has been answered: what lies behind the end of a connection is decoded for nothing. -/
theorem receive_eq_pump (s : Serving σ) (read : Bytes) :
    (receive backend s read).observed = (pump backend s (s.pending ++ read)).observed := by
  cases h : s.ending with
  | some ending =>
    have hended : s.ending.isSome = true := by simp [h]
    rw [receive_of_ended hended, pump_of_ended hended]
  | none => rw [receive_of_open h, answerAll_eq_pump s.wire _ rfl h]

end Serving

end WireSql.Connection
