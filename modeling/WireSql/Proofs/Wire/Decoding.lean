import WireSql.Wire.Frame

/-!
# `WireSql.Proofs.Wire.Decoding`: taking frames off bytes that arrive in pieces

`Codec.decodeAll` takes frames off the front of bytes for as long as it can. The fuel it hands to
`decodeUpTo` plays no part (`decodeUpTo_eq`), so it satisfies the equations of the loop it stands for:
`decodeAll_of_none`, `decodeAll_of_some` and `decodeAll_of_error`.

Main statement: `decodeAll_append`. Decoding `x ++ y` is decoding `x`, then what that leaves behind
followed by `y`. It rests on `decode_append_of_some` and `decode_append_of_error`: what the decoder has
made up its mind about does not depend on what comes later.
-/

namespace WireSql.Wire.Codec

variable {codec : Codec} {b : Bytes} {frame : Frame} {rest : Bytes} {e : FramingError}

/-! ## One frame -/

/-- Four bytes are a header, and nothing else is. -/
theorem header_decode?_eq_none_iff {b : Bytes} : Header.decode? b = none ↔ b.length ≠ 4 := by
  match b with
  | [] => simp [Header.decode?]
  | [_] => simp [Header.decode?]
  | [_, _] => simp [Header.decode?]
  | [_, _, _] => simp [Header.decode?]
  | [_, _, _, _] => simp [Header.decode?]
  | _ :: _ :: _ :: _ :: _ :: _ => simp [Header.decode?]

/-- Bytes that have a header have it whatever follows them. -/
theorem take_headerSize_append {h : Header} (hh : Header.decode? (b.take headerSize) = some h)
    (y : Bytes) : headerSize ≤ b.length ∧ (b ++ y).take headerSize = b.take headerSize := by
  have hlen : (b.take headerSize).length = 4 := by
    refine Decidable.byContradiction fun hne => ?_
    rw [header_decode?_eq_none_iff.mpr hne] at hh
    cases hh
  have hle : headerSize ≤ b.length := by
    rw [List.length_take] at hlen
    simp only [headerSize] at hlen ⊢
    omega
  exact ⟨hle, List.take_append_of_le_length hle⟩

/-- A frame that has arrived is decoded whatever follows it. -/
theorem decode_append_of_some (h : codec.decode b = .ok (some (frame, rest))) (y : Bytes) :
    codec.decode (b ++ y) = .ok (some (frame, rest ++ y)) := by
  unfold decode at h ⊢
  split at h
  · cases h
  · next header hh =>
    obtain ⟨hle, htake⟩ := take_headerSize_append hh y
    rw [htake, hh]
    dsimp only
    split at h
    · cases h
    · next hcap =>
      rw [if_neg hcap]
      dsimp only at h
      split at h
      · cases h
      · next hbody =>
        -- header and payload lie within `b`, and cutting them off leaves `y` alone
        have hbody' : header.length ≤ (b.drop headerSize).length := Nat.le_of_not_lt hbody
        obtain ⟨rfl, rfl⟩ := Prod.mk.inj (Option.some.inj (Except.ok.inj h))
        rw [List.drop_append_of_le_length hle, if_neg (by rw [List.length_append]; omega),
          List.take_append_of_le_length hbody', List.drop_append_of_le_length hbody']

/-- A header over the cap is an error whatever follows it. -/
theorem decode_append_of_error (h : codec.decode b = .error e) (y : Bytes) :
    codec.decode (b ++ y) = .error e := by
  unfold decode at h ⊢
  split at h
  · cases h
  · next header hh =>
    rw [(take_headerSize_append hh y).2, hh]
    dsimp only
    split at h
    · next hcap => rw [if_pos hcap]; exact h
    · dsimp only at h
      split at h <;> cases h

/-- A frame takes up at least its header. -/
theorem length_lt_of_decode (h : codec.decode b = .ok (some (frame, rest))) :
    rest.length < b.length := by
  unfold decode at h
  split at h
  · cases h
  · next header hh =>
    have hle := (take_headerSize_append hh []).1
    split at h
    · cases h
    · dsimp only at h
      split at h
      · cases h
      · obtain ⟨-, rfl⟩ := Prod.mk.inj (Option.some.inj (Except.ok.inj h))
        simp only [List.length_drop, headerSize] at hle ⊢
        omega

@[simp] theorem decode_nil : codec.decode [] = .ok none := rfl

/-! ## All frames -/

/-- Enough fuel is as good as any other. -/
theorem decodeUpTo_eq {fuel fuel' : Nat} (h : b.length < fuel) (h' : b.length < fuel') :
    codec.decodeUpTo fuel b = codec.decodeUpTo fuel' b := by
  induction fuel generalizing b fuel' with
  | zero => exact absurd h (Nat.not_lt_zero _)
  | succ fuel ih =>
    cases fuel' with
    | zero => exact absurd h' (Nat.not_lt_zero _)
    | succ fuel' =>
      simp only [decodeUpTo]
      split
      · rfl
      · rfl
      · next frame rest hd =>
        -- a frame takes bytes away, so that both amounts of fuel are enough for the rest
        have hlt := length_lt_of_decode hd
        have hrest : codec.decodeUpTo fuel rest = codec.decodeUpTo fuel' rest :=
          ih (by omega) (by omega)
        rw [hrest]

theorem decodeAll_of_error (h : codec.decode b = .error e) :
    codec.decodeAll b = ⟨[], b, some e⟩ := by
  simp [decodeAll, decodeUpTo, h]

theorem decodeAll_of_none (h : codec.decode b = .ok none) : codec.decodeAll b = ⟨[], b, none⟩ := by
  simp [decodeAll, decodeUpTo, h]

theorem decodeAll_of_some (h : codec.decode b = .ok (some (frame, rest))) :
    codec.decodeAll b =
      { codec.decodeAll rest with frames := frame :: (codec.decodeAll rest).frames } := by
  have hlt := length_lt_of_decode h
  have hfuel : codec.decodeUpTo b.length rest = codec.decodeAll rest :=
    decodeUpTo_eq hlt (Nat.lt_succ_self _)
  rw [← hfuel]
  simp only [decodeAll, decodeUpTo, h]

/-- **Induction along the frames of bytes.** Bytes that hold no more whole frame are the base, a header
over the cap among them; behind a frame the claim may be used for what follows it. -/
theorem decode_induction (codec : Codec) {motive : Bytes → Prop}
    (hnone : ∀ b, codec.decode b = .ok none → motive b)
    (herror : ∀ b e, codec.decode b = .error e → motive b)
    (hsome : ∀ b frame rest, codec.decode b = .ok (some (frame, rest)) → motive rest → motive b)
    (b : Bytes) : motive b := by
  induction hlen : b.length using Nat.strongRecOn generalizing b with
  | _ n ih =>
    cases hd : codec.decode b with
    | error e => exact herror b e hd
    | ok found =>
      cases found with
      | none => exact hnone b hd
      | some v => exact hsome b v.1 v.2 hd (ih _ (hlen ▸ length_lt_of_decode hd) v.2 rfl)

/-- **Decoding does not depend on where bytes are cut**: decoding `x ++ y` is decoding `x`, then what
that leaves behind followed by `y`. A failure in `x` is met again behind its frames. -/
theorem decodeAll_append (codec : Codec) (x y : Bytes) :
    codec.decodeAll (x ++ y) =
      { codec.decodeAll ((codec.decodeAll x).rest ++ y) with
        frames := (codec.decodeAll x).frames ++
          (codec.decodeAll ((codec.decodeAll x).rest ++ y)).frames } := by
  induction x using decode_induction codec with
  | hnone x hd => rw [decodeAll_of_none hd]; rfl
  | herror x e hd => rw [decodeAll_of_error hd]; rfl
  | hsome x frame rest hd ih =>
    -- the first frame of `x` is the first frame of `x ++ y`
    rw [decodeAll_of_some (decode_append_of_some hd y), decodeAll_of_some hd, ih]
    rfl

/-- Where decoding has stopped without a failure there is no whole frame. -/
theorem decode_rest_of_failure_none (codec : Codec) (x : Bytes)
    (h : (codec.decodeAll x).failure = none) : codec.decode (codec.decodeAll x).rest = .ok none := by
  induction x using decode_induction codec with
  | hnone x hd => rw [decodeAll_of_none hd]; exact hd
  | herror x e hd => rw [decodeAll_of_error hd] at h; cases h
  | hsome x frame rest hd ih =>
    rw [decodeAll_of_some hd] at h ⊢
    exact ih h

/-- Where decoding has stopped with a failure the failure is what decoding meets there. -/
theorem decode_rest_of_failure_some (codec : Codec) (x : Bytes)
    (h : (codec.decodeAll x).failure = some e) : codec.decode (codec.decodeAll x).rest = .error e := by
  induction x using decode_induction codec with
  | hnone x hd => rw [decodeAll_of_none hd] at h; cases h
  | herror x e' hd =>
    rw [decodeAll_of_error hd] at h ⊢
    obtain rfl : e' = e := Option.some.inj h
    exact hd
  | hsome x frame rest hd ih =>
    rw [decodeAll_of_some hd] at h ⊢
    exact ih h

end WireSql.Wire.Codec
