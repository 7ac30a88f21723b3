import WireSql.Proofs.Wire.Sending
import WireSql.Wire.Buffer

/-!
# `WireSql.Proofs.Wire.Exactness`: a buffer is frames and what is stuck behind them

`Codec.take` and `Codec.drain` are `decode` and `decodeAll` done at a buffer (`exec_take`, `drain_eq`), so
that what is known of the one is known of the other. `Stuck` says, from the bytes alone, when there is no
frame to take and whether that is a failure.

Main statement: `exact_ofLimit`. Putting frames and draining the buffer again are inverse to each other, and
a buffer can be read in one way only: as the bytes of frames within the cap and a rest that is stuck.
-/

namespace WireSql.Wire

/-! ## Numbers read from bytes -/

/-- Writing what was read gives the bytes again. -/
theorem littleEndian_ofLittleEndian (b : Bytes) : littleEndian b.length (ofLittleEndian b) = b := by
  induction b with
  | nil => rfl
  | cons x b ih =>
    have hx := x.toNat_lt
    have hlow : (x.toNat + 256 * ofLittleEndian b) % 256 = x.toNat := by omega
    have hhigh : (x.toNat + 256 * ofLittleEndian b) / 256 = ofLittleEndian b := by omega
    rw [List.length_cons, ofLittleEndian, littleEndian, hlow, hhigh, ih, UInt8.ofNat_toNat]

theorem ofLittleEndian_three (x y z : UInt8) :
    ofLittleEndian [x, y, z] = x.toNat + 256 * y.toNat + 65536 * z.toNat := by
  simp only [ofLittleEndian]
  omega

/-! ## Programs at buffers -/

namespace Buffered

variable {α β : Type}

@[simp] theorem exec_pure (a : α) (b : Bytes) : (pure a : Buffered α).exec b = (.ok a, b) := rfl

@[simp] theorem exec_throw (e : FramingError) (b : Bytes) :
    (throw e : Buffered α).exec b = (.error e, b) := rfl

@[simp] theorem exec_bind_get (f : Bytes → Buffered α) (b : Bytes) :
    ((get : Buffered Bytes) >>= f).exec b = (f b).exec b := rfl

@[simp] theorem exec_bind_set (b' : Bytes) (f : PUnit → Buffered α) (b : Bytes) :
    ((set b' : Buffered PUnit) >>= f).exec b = (f ⟨⟩).exec b' := rfl

theorem exec_bind_of_ok {p : Buffered α} {a : α} {b b' : Bytes} (h : p.exec b = (.ok a, b'))
    (f : α → Buffered β) : (p >>= f).exec b = (f a).exec b' := by
  change (ExceptT.bindCont f (p.exec b).1 (p.exec b).2).run = _
  rw [h]
  rfl

end Buffered

namespace Codec

variable {codec : Codec} {b rest : Bytes} {frame : Frame} {frames : List Frame}
  {failure : Option FramingError}

/-- What taking a frame off a buffer comes to, where decoding makes `d` of what the buffer holds. -/
def taken (b : Bytes) (d : Except FramingError (Option (Frame × Bytes))) :
    Except FramingError (Option Frame) × Bytes :=
  match d with
  | .error e => (.error e, b)
  | .ok none => (.ok none, b)
  | .ok (some (frame, rest)) => (.ok (some frame), rest)

/-- Taking a frame off a buffer is decoding one and leaving the rest there. -/
theorem exec_take (codec : Codec) (b : Bytes) : codec.take.exec b = taken b (codec.decode b) := by
  rw [take, Buffered.exec_bind_get, decode]
  cases hheader : Header.decode? (b.take headerSize) with
  | none => rfl
  | some h =>
    -- the header is there, so that the payload is complete exactly if all of the frame is
    have hle := (take_headerSize_append hheader []).1
    have htotal : b.length < headerSize + h.length ↔ (b.drop headerSize).length < h.length := by
      rw [List.length_drop]
      omega
    have hpayload : (b.take (headerSize + h.length)).drop headerSize =
        (b.drop headerSize).take h.length := by
      rw [List.drop_take, Nat.add_sub_cancel_left]
    dsimp only
    split
    · rfl
    · simp only [htotal, hpayload]
      split
      · rfl
      · rw [List.drop_drop]
        rfl

/-- Draining a buffer is decoding all that it holds. -/
theorem drain_eq (codec : Codec) (b : Bytes) : codec.drain b = codec.decodeAll b := by
  suffices h : ∀ fuel b, codec.drainUpTo fuel b = codec.decodeUpTo fuel b from h _ _
  intro fuel
  induction fuel with
  | zero => exact fun _ => rfl
  | succ fuel ih =>
    intro b
    rw [drainUpTo, decodeUpTo, exec_take]
    cases codec.decode b with
    | error e => rfl
    | ok found =>
      cases found with
      | none => rfl
      | some v =>
        simp only [taken]
        rw [ih]

theorem exec_put_of_le (h : frame.payload.length ≤ codec.limit) (b : Bytes) :
    (codec.put frame).exec b = (.ok (), b ++ frame.encode) := by
  rw [put, if_neg (Nat.not_lt_of_le h)]
  rfl

theorem exec_put_of_lt (h : codec.limit < frame.payload.length) (b : Bytes) :
    (codec.put frame).exec b = (.error ⟨frame.payload.length, codec.limit⟩, b) := by
  rw [put, if_pos h]
  rfl

theorem exec_putAll (h : codec.Holds frames) (b : Bytes) :
    (codec.putAll frames).exec b = (.ok (), b ++ frames.flatMap Frame.encode) := by
  induction frames generalizing b with
  | nil =>
    rw [List.flatMap_nil, List.append_nil]
    rfl
  | cons frame frames ih =>
    rw [holds_cons] at h
    have hbind : codec.putAll (frame :: frames) = codec.put frame >>= fun _ => codec.putAll frames := rfl
    rw [hbind, Buffered.exec_bind_of_ok (exec_put_of_le h.1 b), ih h.2, List.flatMap_cons,
      List.append_assoc]

/-! ## What is stuck -/

/-- **Bytes that no frame can be taken off**, with the failure that they are, where they are one. -/
inductive Stuck (codec : Codec) : Bytes → Option FramingError → Prop where
  /-- The header has not arrived. -/
  | header {b : Bytes} (h : b.length < 4) : Stuck codec b none
  /-- The header announces a payload within the cap, and not all of it has arrived. -/
  | payload {x y z sequence : UInt8} {behind : Bytes} {announced : Nat}
      (h : x.toNat + 256 * y.toNat + 65536 * z.toNat = announced) (hlimit : announced ≤ codec.limit)
      (hshort : behind.length < announced) : Stuck codec (x :: y :: z :: sequence :: behind) none
  /-- The header announces a payload over the cap, whatever has arrived behind it. -/
  | tooLong {x y z sequence : UInt8} {behind : Bytes} {announced : Nat}
      (h : x.toNat + 256 * y.toNat + 65536 * z.toNat = announced) (hlimit : codec.limit < announced) :
      Stuck codec (x :: y :: z :: sequence :: behind) (some ⟨announced, codec.limit⟩)

/-- **Bytes are stuck or begin with a frame** within the cap. -/
theorem stuck_or_frame (codec : Codec) (b : Bytes) :
    (∃ failure, codec.Stuck b failure) ∨
      ∃ (frame : Frame) (rest : Bytes),
        b = frame.encode ++ rest ∧ frame.payload.length ≤ codec.limit := by
  match b with
  | [] => exact .inl ⟨none, .header (by decide)⟩
  | [_] => exact .inl ⟨none, .header (by simp)⟩
  | [_, _] => exact .inl ⟨none, .header (by simp)⟩
  | [_, _, _] => exact .inl ⟨none, .header (by simp)⟩
  | x :: y :: z :: sequence :: behind =>
    rcases Nat.lt_or_ge codec.limit (x.toNat + 256 * y.toNat + 65536 * z.toNat) with hover | hlimit
    · exact .inl ⟨_, .tooLong rfl hover⟩
    rcases Nat.lt_or_ge behind.length (x.toNat + 256 * y.toNat + 65536 * z.toNat) with hshort | hwhole
    · exact .inl ⟨none, .payload rfl hlimit hshort⟩
    -- the payload is as long as announced, and writing its length gives the header again
    rw [← ofLittleEndian_three] at hlimit hwhole
    have hlength : (behind.take (ofLittleEndian [x, y, z])).length = ofLittleEndian [x, y, z] :=
      List.length_take_of_le hwhole
    have hheader : littleEndian 3 (ofLittleEndian [x, y, z]) = [x, y, z] :=
      littleEndian_ofLittleEndian [x, y, z]
    refine .inr ⟨⟨sequence, behind.take (ofLittleEndian [x, y, z])⟩,
      behind.drop (ofLittleEndian [x, y, z]), ?_, hlength.symm ▸ hlimit⟩
    simp only [Frame.encode, Header.encode, hlength, hheader, List.append_assoc, List.take_append_drop]
    rfl

/-- The answer where there is no frame. -/
def nothing {α : Type} : Option FramingError → Except FramingError (Option α)
  | none => .ok none
  | some e => .error e

theorem decode_of_stuck (h : codec.Stuck b failure) : codec.decode b = nothing failure := by
  cases h with
  | header h =>
    have hheader : Header.decode? (b.take headerSize) = none := by
      refine header_decode?_eq_none_iff.mpr ?_
      rw [List.length_take]
      omega
    rw [decode, hheader]
    rfl
  | payload h hlimit hshort =>
    subst h
    rw [← ofLittleEndian_three] at hlimit hshort
    exact (if_neg (Nat.not_lt_of_le hlimit)).trans (if_pos hshort)
  | tooLong h hlimit =>
    subst h
    rw [← ofLittleEndian_three] at hlimit ⊢
    exact if_pos hlimit

theorem exec_take_of_stuck (h : codec.Stuck b failure) : codec.take.exec b = (nothing failure, b) := by
  rw [exec_take, decode_of_stuck h]
  cases failure <;> rfl

theorem exec_take_encoded (hlimit : codec.limit ≤ maxPayload) (h : frame.payload.length ≤ codec.limit)
    (rest : Bytes) : codec.take.exec (frame.encode ++ rest) = (.ok (some frame), rest) := by
  rw [exec_take, decode_encoded hlimit h]
  rfl

/-! ## Draining -/

/-- **A reading of bytes**: as frames, a rest, and the failure that the rest is. -/
structure Reads (codec : Codec) (b : Bytes) (d : Decoded) : Prop where
  bytes : b = d.frames.flatMap Frame.encode ++ d.rest
  holds : codec.Holds d.frames
  stuck : codec.Stuck d.rest d.failure

theorem drain_of_stuck (h : codec.Stuck b failure) : codec.drain b = ⟨[], b, failure⟩ := by
  rw [drain_eq]
  cases failure with
  | none => exact decodeAll_of_none (decode_of_stuck h)
  | some e => exact decodeAll_of_error (decode_of_stuck h)

/-- Frames within the cap are drained in order, and then what is behind them as if it stood alone. -/
theorem drain_encoded (hlimit : codec.limit ≤ maxPayload) (h : codec.Holds frames) (r : Bytes) :
    codec.drain (frames.flatMap Frame.encode ++ r) =
      { codec.drain r with frames := frames ++ (codec.drain r).frames } := by
  rw [drain_eq, drain_eq, decodeAll_append, decodeAll_encoded hlimit h]
  rfl

/-- A frame within the cap at the front is the first to be drained. -/
theorem drain_frame (hlimit : codec.limit ≤ maxPayload) (h : frame.payload.length ≤ codec.limit)
    (rest : Bytes) : codec.drain (frame.encode ++ rest) =
      { codec.drain rest with frames := frame :: (codec.drain rest).frames } := by
  rw [drain_eq, drain_eq, decodeAll_of_some (decode_encoded hlimit h rest)]

theorem length_encode (frame : Frame) : frame.encode.length = headerSize + frame.payload.length := by
  rw [Frame.encode, Header.encode, List.length_append, List.length_append, length_littleEndian]
  rfl

/-- What draining gives is a reading of the buffer. -/
theorem reads_drain (hlimit : codec.limit ≤ maxPayload) (b : Bytes) : codec.Reads b (codec.drain b) := by
  induction hlen : b.length using Nat.strongRecOn generalizing b with
  | _ n ih =>
    rcases stuck_or_frame codec b with ⟨failure, hstuck⟩ | ⟨frame, rest, rfl, hframe⟩
    · rw [drain_of_stuck hstuck]
      exact ⟨rfl, fun _ h => absurd h List.not_mem_nil, hstuck⟩
    · have hshorter : rest.length < n := by
        rw [List.length_append, length_encode] at hlen
        simp only [headerSize] at hlen
        omega
      obtain ⟨hbytes, hholds, hstuck⟩ := ih _ hshorter rest rfl
      rw [drain_frame hlimit hframe]
      refine ⟨?_, holds_cons.2 ⟨hframe, hholds⟩, hstuck⟩
      rw [List.flatMap_cons, List.append_assoc, ← hbytes]

/-- Draining gives the one reading that there is. -/
theorem drain_eq_iff (hlimit : codec.limit ≤ maxPayload) (b : Bytes) (d : Decoded) :
    codec.drain b = d ↔ codec.Reads b d := by
  constructor
  · rintro rfl
    exact reads_drain hlimit b
  · rintro ⟨hbytes, hholds, hstuck⟩
    rw [hbytes, drain_encoded hlimit hholds, drain_of_stuck hstuck, List.append_nil]

/-! ## The codec as a whole -/

/-- **Putting and taking are exact**: what they do to every buffer, and when. -/
structure Exact (codec : Codec) : Prop where
  /-- Frames within the cap are put behind what the buffer holds, one behind the other. -/
  puts : ∀ (frames : List Frame) (b : Bytes), codec.Holds frames →
    (codec.putAll frames).exec b = (.ok (), b ++ frames.flatMap Frame.encode)
  /-- A frame over the cap is refused, and the buffer left as it is. -/
  refuses : ∀ (frame : Frame) (b : Bytes), codec.limit < frame.payload.length →
    (codec.put frame).exec b = (.error ⟨frame.payload.length, codec.limit⟩, b)
  /-- Draining the frames put into a buffer gives these frames in order, and then what the bytes behind them
  give alone. -/
  returns : ∀ (frames : List Frame) (r : Bytes), codec.Holds frames →
    codec.drain (((codec.putAll frames).exec []).2 ++ r) =
      { codec.drain r with frames := frames ++ (codec.drain r).frames }
  /-- Draining gives the one reading of the buffer. -/
  reads : ∀ (b : Bytes) (d : Decoded), codec.drain b = d ↔ codec.Reads b d
  /-- A frame is taken exactly if it is within the cap and its bytes are at the front, and these are
  consumed. -/
  takes : ∀ (b rest : Bytes) (frame : Frame), codec.take.exec b = (.ok (some frame), rest) ↔
    b = frame.encode ++ rest ∧ frame.payload.length ≤ codec.limit
  /-- More bytes are awaited exactly if the buffer is stuck without a failure, and none is consumed. -/
  waits : ∀ (b rest : Bytes), codec.take.exec b = (.ok none, rest) ↔ codec.Stuck b none ∧ rest = b
  /-- Taking a frame fails exactly if the buffer is stuck with that failure, and none is consumed. -/
  fails : ∀ (b rest : Bytes) (e : FramingError), codec.take.exec b = (.error e, rest) ↔
    codec.Stuck b (some e) ∧ rest = b

theorem exec_take_eq_nothing_iff (hlimit : codec.limit ≤ maxPayload) (b rest : Bytes)
    (failure : Option FramingError) :
    codec.take.exec b = (nothing failure, rest) ↔ codec.Stuck b failure ∧ rest = b := by
  constructor
  · intro htake
    rcases stuck_or_frame codec b with ⟨failure', hstuck⟩ | ⟨frame, after, rfl, hframe⟩
    · rw [exec_take_of_stuck hstuck] at htake
      obtain ⟨houtcome, rfl⟩ := Prod.mk.inj htake
      cases failure' <;> cases failure <;> cases houtcome <;> exact ⟨hstuck, rfl⟩
    · rw [exec_take_encoded hlimit hframe] at htake
      cases failure <;> cases htake
  · rintro ⟨hstuck, rfl⟩
    exact exec_take_of_stuck hstuck

theorem exec_take_eq_some_iff (hlimit : codec.limit ≤ maxPayload) (b rest : Bytes) (frame : Frame) :
    codec.take.exec b = (.ok (some frame), rest) ↔
      b = frame.encode ++ rest ∧ frame.payload.length ≤ codec.limit := by
  constructor
  · intro htake
    rcases stuck_or_frame codec b with ⟨failure, hstuck⟩ | ⟨first, after, rfl, hfirst⟩
    · rw [exec_take_of_stuck hstuck] at htake
      cases failure <;> cases htake
    · rw [exec_take_encoded hlimit hfirst] at htake
      cases htake
      exact ⟨rfl, hfirst⟩
  · rintro ⟨rfl, hframe⟩
    exact exec_take_encoded hlimit hframe rest

/-- **The codec with any cap is exact.** What it takes off a buffer is what has been put there, what it does
not take is stuck, and where it refuses or awaits it leaves the buffer alone. -/
theorem exact_ofLimit (limit : Nat) : (ofLimit limit).Exact where
  puts _ b h := exec_putAll h b
  refuses _ b h := exec_put_of_lt h b
  returns frames r h := by
    rw [exec_putAll h]
    exact drain_encoded (limit_ofLimit_le limit) h r
  reads b d := drain_eq_iff (limit_ofLimit_le limit) b d
  takes b rest frame := exec_take_eq_some_iff (limit_ofLimit_le limit) b rest frame
  waits b rest := exec_take_eq_nothing_iff (limit_ofLimit_le limit) b rest none
  fails b rest e := exec_take_eq_nothing_iff (limit_ofLimit_le limit) b rest (some e)

/-- A header over the cap is an error although nothing follows it. -/
example : (ofLimit 1024).drain [1, 0, 0, 7, 65, 1, 4, 0, 0] =
    ⟨[⟨7, [65]⟩], [1, 4, 0, 0], some ⟨1025, 1024⟩⟩ := by decide

end Codec

end WireSql.Wire
