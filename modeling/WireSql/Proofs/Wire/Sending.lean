import WireSql.Proofs.Wire.Decoding
import WireSql.Wire.Greeting
import WireSql.Wire.Rows

/-!
# `WireSql.Proofs.Wire.Sending`: frames within the cap and frames over it

A codec sends frames all together or not at all: all of them if each is within its cap
(`encodeAll_of_holds`), and else none, with the length of the first that is not
(`encodeAll_of_firstOver`). What one codec has sent another with the same cap takes in again
(`decodeAll_encoded`).

The last section has the lengths of the payloads that grow with what is told in them: a greeting with the
version, a column's definition with twice its name.
-/

namespace WireSql.Wire

namespace Codec

variable {codec : Codec} {frames : List Frame} {frame long : Frame}

/-! ## Sending -/

/-- **Every frame is within the cap.** -/
def Holds (codec : Codec) (frames : List Frame) : Prop :=
  ∀ frame ∈ frames, frame.payload.length ≤ codec.limit

instance (codec : Codec) (frames : List Frame) : Decidable (codec.Holds frames) :=
  inferInstanceAs (Decidable (∀ frame ∈ frames, frame.payload.length ≤ codec.limit))

/-- **The first frame over the cap.** -/
def FirstOver (codec : Codec) (frames : List Frame) (long : Frame) : Prop :=
  ∃ before after, frames = before ++ long :: after ∧ codec.Holds before ∧
    codec.limit < long.payload.length

theorem holds_cons : codec.Holds (frame :: frames) ↔
    frame.payload.length ≤ codec.limit ∧ codec.Holds frames := List.forall_mem_cons

/-- Either every frame is within the cap or one of them is the first over it. -/
theorem holds_or_firstOver (codec : Codec) (frames : List Frame) :
    codec.Holds frames ∨ ∃ long, codec.FirstOver frames long := by
  induction frames with
  | nil => exact .inl fun _ h => absurd h List.not_mem_nil
  | cons frame frames ih =>
    by_cases hframe : frame.payload.length ≤ codec.limit
    · rcases ih with hall | ⟨long, before, after, rfl, hbefore, hover⟩
      · exact .inl (holds_cons.2 ⟨hframe, hall⟩)
      · exact .inr ⟨long, frame :: before, after, rfl, holds_cons.2 ⟨hframe, hbefore⟩, hover⟩
    · exact .inr ⟨frame, [], frames, rfl, fun _ h => absurd h List.not_mem_nil, Nat.lt_of_not_le hframe⟩

theorem encode_of_le (h : frame.payload.length ≤ codec.limit) : codec.encode frame = .ok frame.encode :=
  if_neg (Nat.not_lt_of_le h)

theorem encode_of_lt (h : codec.limit < frame.payload.length) :
    codec.encode frame = .error ⟨frame.payload.length, codec.limit⟩ := if_pos h

theorem encodeAll_cons (h : frame.payload.length ≤ codec.limit) (frames : List Frame) :
    codec.encodeAll (frame :: frames) = (codec.encodeAll frames).map (frame.encode ++ ·) := by
  rw [encodeAll, encodeAll, List.mapM_cons, encode_of_le h]
  cases frames.mapM codec.encode <;> rfl

/-- **Frames within the cap are sent one behind the other.** -/
theorem encodeAll_of_holds (h : codec.Holds frames) :
    codec.encodeAll frames = .ok (frames.flatMap Frame.encode) := by
  induction frames with
  | nil => rfl
  | cons frame frames ih =>
    rw [holds_cons] at h
    rw [encodeAll_cons h.1, ih h.2, List.flatMap_cons]
    rfl

/-- **Nothing is sent of frames with one over the cap.** -/
theorem encodeAll_of_firstOver (h : codec.FirstOver frames long) :
    codec.encodeAll frames = .error ⟨long.payload.length, codec.limit⟩ := by
  obtain ⟨before, after, rfl, hbefore, hover⟩ := h
  induction before with
  | nil =>
    rw [List.nil_append, encodeAll, List.mapM_cons, encode_of_lt hover]
    rfl
  | cons frame before ih =>
    rw [holds_cons] at hbefore
    rw [List.cons_append, encodeAll_cons hbefore.1, ih hbefore.2]
    rfl

/-! ## Taking in what has been sent -/

theorem limit_ofLimit_le (limit : Nat) : (ofLimit limit).limit ≤ maxPayload := Nat.min_le_right ..

/-- A frame that has been sent is the first to be taken in. -/
theorem decode_encoded (hlimit : codec.limit ≤ maxPayload) (h : frame.payload.length ≤ codec.limit)
    (rest : Bytes) : codec.decode (frame.encode ++ rest) = .ok (some (frame, rest)) := by
  -- the header is the length in three bytes, and behind it the sequence number
  have hlength : ofLittleEndian (littleEndian 3 frame.payload.length) = frame.payload.length := by
    rw [ofLittleEndian_littleEndian]
    refine Nat.mod_eq_of_lt ?_
    simp only [maxPayload] at hlimit
    change frame.payload.length < 16777216
    omega
  have hheader : Header.decode? ((frame.encode ++ rest).take headerSize) =
      some ⟨frame.payload.length, frame.sequence⟩ := by
    rw [← hlength]
    rfl
  have hbehind : (frame.encode ++ rest).drop headerSize = frame.payload ++ rest := rfl
  rw [decode, hheader]
  dsimp only
  rw [if_neg (Nat.not_lt_of_le h), hbehind, if_neg (by simp), List.take_left, List.drop_left]

/-- **Frames that have been sent are taken in again.** -/
theorem decodeAll_encoded (hlimit : codec.limit ≤ maxPayload) (h : codec.Holds frames) :
    codec.decodeAll (frames.flatMap Frame.encode) = ⟨frames, [], none⟩ := by
  induction frames with
  | nil => rfl
  | cons frame frames ih =>
    rw [holds_cons] at h
    rw [List.flatMap_cons, decodeAll_of_some (decode_encoded hlimit h.1 _), ih h.2]

end Codec

/-! ## The lengths of payloads -/

theorem length_ofZeroEndedText (s : String) : (ofZeroEndedText s).length = (Text.encode s).length + 1 := by
  rw [ofZeroEndedText, ofZeroEndedBytes, List.length_append, List.length_singleton]

/-- A greeting has 47 bytes beside the version and the name of the plugin. -/
theorem Greeting.length_payload (g : Greeting) :
    g.payload.length = 47 + (Text.encode g.serverVersion).length + (Text.encode g.authPlugin).length := by
  have hchallenge : g.challenge.bytes.length = 20 := g.challenge.length_bytes
  simp only [payload, Field.encodeAll, List.flatMap_cons, List.flatMap_nil, Field.encode, ofU8, ofU16, ofU32,
    zeros, length_ofZeroEndedText, List.length_append, length_littleEndian, List.length_take,
    List.length_drop, List.length_replicate, List.length_nil, hchallenge]
  omega

/-- The definition of a column holds its name twice. -/
theorem two_mul_length_le_columnPayload (name : String) :
    2 * (Text.encode name).length ≤ (columnPayload name).length := by
  simp only [columnPayload, Field.encodeAll, List.flatMap_cons, Field.encode, ofPrefixedText,
    ofPrefixedBytes, List.length_append]
  omega

end WireSql.Wire
