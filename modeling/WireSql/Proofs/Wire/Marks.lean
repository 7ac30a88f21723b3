import WireSql.Proofs.Wire.Reading
import WireSql.Wire.Rows

/-!
# `WireSql.Proofs.Wire.Marks`: telling error packets from the rest

A client knows an error packet by its first byte. Nothing else that a server sends in answer to a command
begins with that byte: not a packet that reports success, and no frame of a result, whatever its columns
and cells are. The first byte of a result or of a row is that of a prefixed integer, and those leave the
mark of an error out.
-/

namespace WireSql.Wire

/-- Does a payload begin as an error packet does? -/
def MarksError (payload : Bytes) : Prop := payload.head? = some errMark

instance (payload : Bytes) : Decidable (MarksError payload) :=
  inferInstanceAs (Decidable (_ = _))

/-- An error packet is known as one. -/
theorem marksError_err (p : ErrPacket) : MarksError p.payload := rfl

theorem not_marksError_ok (p : OkPacket) : ¬ MarksError p.payload := by
  intro h
  cases Option.some.inj h

theorem not_marksError_eof (p : EofPacket) : ¬ MarksError p.payload := by
  intro h
  cases Option.some.inj h

theorem not_marksError_column (name : String) : ¬ MarksError (columnPayload name) := by
  intro h
  cases Option.some.inj h

theorem not_marksError_prefixedInt (n : UInt64) (rest : Bytes) :
    ¬ MarksError (ofPrefixedInt n ++ rest) := by
  obtain ⟨mark, more, h, -, hmark, -, -⟩ := (prefixedForm n).exists_cons
  rw [h]
  intro herr
  exact hmark (Option.some.inj herr)

theorem not_marksError_row (cells : List Cell) : ¬ MarksError (rowPayload cells) := by
  cases cells with
  | nil => intro h; cases h
  | cons cell cells =>
    unfold rowPayload
    rw [List.flatMap_cons]
    cases cell with
    | none =>
      intro h
      cases Option.some.inj h
    | some s =>
      unfold ofCell ofPrefixedText ofPrefixedBytes
      rw [List.append_assoc]
      exact not_marksError_prefixedInt _ _

theorem payload_mem_of_mem_frames {first : UInt8} {payloads : List Bytes} {frame : Frame}
    (h : frame ∈ frames first payloads) : frame.payload ∈ payloads := by
  induction payloads generalizing first with
  | nil => cases h
  | cons p r ih =>
    rcases List.mem_cons.mp h with rfl | h
    · exact List.mem_cons_self
    · exact List.mem_cons_of_mem _ (ih h)

/-- **No frame of a result looks like an error packet.** -/
theorem not_marksError_of_mem_resultFrames {r : ResultSet} {capabilities : UInt32} {first : UInt8}
    {frame : Frame} (h : frame ∈ resultFrames r capabilities first) : ¬ MarksError frame.payload := by
  unfold resultFrames at h
  split at h
  · obtain rfl := List.mem_singleton.mp h
    exact not_marksError_ok _
  · have hmem := payload_mem_of_mem_frames h
    unfold resultPayloads at hmem
    simp only [List.cons_append, List.mem_cons, List.mem_append, List.mem_map, List.not_mem_nil,
      or_false] at hmem
    rcases hmem with hcount | ⟨name, -, hcolumn⟩ | hbetween | ⟨row, -, hrow⟩ | hend
    · rw [hcount, ← List.append_nil (ofPrefixedInt _)]
      exact not_marksError_prefixedInt _ _
    · rw [← hcolumn]
      exact not_marksError_column name
    · split at hbetween
      · cases hbetween
      · rw [List.mem_singleton.mp hbetween]
        exact not_marksError_eof _
    · rw [← hrow]
      exact not_marksError_row row
    · rw [hend]
      exact not_marksError_eof _

end WireSql.Wire
