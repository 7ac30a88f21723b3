import WireSql.Proofs.Wire.Reading
import WireSql.Wire.Packet

/-!
# `WireSql.Proofs.Wire.StatusPackets`: packets that report a status are read back

A command ends in a packet that reports success or an error, and the parts of a result end in one of
their own. Each is written as fields one behind the other, and read as such a packet only where it is
expected and its first byte says so.

Main statement: `status_packets_read_back`. Success and an end come back as they are. The state of an error
takes up five bytes on the wire, so that one of another length comes back cut or filled up. It is the bytes
that are cut, maybe in the middle of a character, but they are counted when they are read as well: the
message begins behind the fifth, whatever the five stand for.
-/

namespace WireSql.Wire

open Read

/-! ## Success -/

namespace OkPacket

theorem closes_read (p : OkPacket) : Closes read p.payload p := by
  have hshape : p.payload = ofU8 okMark ++ (ofPrefixedInt p.affectedRows ++ (ofPrefixedInt p.lastInsertId ++
      (ofU16 p.statusFlags ++ (ofU16 p.warnings ++ Text.encode p.info)))) := by
    simp only [payload, Field.encodeAll, List.flatMap_cons, List.flatMap_nil, Field.encode, List.append_nil]
  rw [hshape]
  unfold read
  -- one line for each field, in the order in which they are written
  refine closes_bind (finds_u8 _) ?_
  refine closes_bind (finds_prefixedInt _) ?_
  refine closes_bind (finds_prefixedInt _) ?_
  refine closes_bind (finds_u16 _) ?_
  refine closes_bind (finds_orDefault (finds_u16 _) 0) ?_
  exact closes_map (closes_restText p.info) fun info => { p with info }

theorem parse?_payload (p : OkPacket) : parse? p.payload = some p := onBytes_of_closes p.closes_read

end OkPacket

/-! ## Errors -/

namespace ErrPacket

/-- **A state is sent as its first five bytes**, with blanks behind those of a shorter one. -/
theorem stateField_eq (s : String) : stateField s = (Text.encode s ++ List.replicate 5 0x20).take 5 := by
  have hblanks : min (5 - (Text.encode s).length) 5 = 5 - min 5 (Text.encode s).length := by omega
  unfold stateField
  dsimp only
  rw [List.take_append, List.take_replicate, List.length_take, hblanks]

theorem length_stateField (s : String) : (stateField s).length = 5 := by
  rw [stateField_eq, List.length_take, List.length_append, List.length_replicate]
  omega

theorem stateField_of_length {s : String} (h : (Text.encode s).length = 5) :
    stateField s = Text.encode s := by
  rw [stateField_eq, ← h, List.take_left]

theorem finds_sqlState {b : Bytes} (h : b.length = 5) :
    Finds read.sqlState (0x23 :: b) (Text.decode b) := by
  have hread : Finds (do skip 1; text b.length) ([0x23] ++ b) (Text.decode b) :=
    finds_bind (finds_skip [0x23]) (finds_text b)
  rw [h] at hread
  intro position rest
  unfold read.sqlState
  rw [runFrom_bind]
  -- the mark of a state has been seen but not passed
  exact hread position rest

theorem closes_read (p : ErrPacket) :
    Closes read p.payload { p with sqlState := Text.decode (stateField p.sqlState) } := by
  have hshape : p.payload = ofU8 errMark ++ (ofU16 p.code ++
      (0x23 :: stateField p.sqlState ++ Text.encode p.message)) := by
    simp only [payload, Field.encodeAll, List.flatMap_cons, List.flatMap_nil, Field.encode, List.append_nil]
    rfl
  rw [hshape]
  unfold read
  refine closes_bind (finds_u8 _) ?_
  rw [bne_self_eq_false, if_neg Bool.false_ne_true]
  refine closes_bind (finds_u16 _) ?_
  refine closes_bind (finds_sqlState (length_stateField p.sqlState)) ?_
  exact closes_map (closes_restText p.message) _

theorem parse?_payload (p : ErrPacket) :
    parse? p.payload = some { p with sqlState := Text.decode (stateField p.sqlState) } :=
  onBytes_of_closes p.closes_read

end ErrPacket

/-! ## Ends -/

namespace EofPacket

theorem finds_read (p : EofPacket) : Finds read p.payload p := by
  have hshape : p.payload = ofU8 eofMark ++ (ofU16 p.warnings ++ ofU16 p.statusFlags) := by
    simp only [payload, Field.encodeAll, List.flatMap_cons, List.flatMap_nil, Field.encode, List.append_nil]
  rw [hshape]
  unfold read
  refine finds_bind (finds_u8 _) ?_
  rw [bne_self_eq_false, if_neg Bool.false_ne_true]
  refine finds_bind (finds_u16 _) ?_
  exact finds_map (finds_u16 _) fun statusFlags => { p with statusFlags }

theorem parse?_payload (p : EofPacket) : parse? p.payload = some p := onBytes_of_closes p.finds_read.closes

end EofPacket

/-! ## Packets where they are expected -/

/-- **What is read from the frames of packets that report a status.** -/
structure StatusReadBack (sequence : UInt8) : Prop where
  /-- Success comes back as it is, whatever its counters, its flags and its remark are. -/
  ok : ∀ p : OkPacket, Packet.parse (p.toFrame sequence).payload .response = .ok (.ok p)
  /-- An error comes back with its code and its message, and with what the first five bytes of its state
  stand for, blanks being put behind a shorter one. -/
  err : ∀ p : ErrPacket, Packet.parse (p.toFrame sequence).payload .response =
    .ok (.err { p with sqlState := Text.decode ((Text.encode p.sqlState ++ List.replicate 5 0x20).take 5) })
  /-- An error with a state of five bytes comes back as it is. -/
  state : ∀ p : ErrPacket, (Text.encode p.sqlState).length = 5 →
    Packet.parse (p.toFrame sequence).payload .response = .ok (.err p)
  /-- The end of columns or rows comes back as it is. -/
  eof : ∀ p : EofPacket, Packet.parse (p.toFrame sequence).payload (.terminator false) = .ok (.eof p)

theorem parse_err (p : ErrPacket) (sequence : UInt8) : Packet.parse (p.toFrame sequence).payload .response =
    .ok (.err { p with sqlState := Text.decode (ErrPacket.stateField p.sqlState) }) := by
  show (((ErrPacket.parse? p.payload).map Packet.err).map Except.ok).getD _ = _
  rw [p.parse?_payload]
  rfl

/-- **Packets that report a status are read back from their frames** where they are expected. -/
theorem status_packets_read_back (sequence : UInt8) : StatusReadBack sequence := by
  constructor
  case ok =>
    intro p
    show (((OkPacket.parse? p.payload).map Packet.ok).map Except.ok).getD _ = _
    rw [p.parse?_payload]
    rfl
  case err =>
    intro p
    rw [parse_err, ErrPacket.stateField_eq]
  case state =>
    intro p hlength
    rw [parse_err, ErrPacket.stateField_of_length hlength, Text.decode_encode]
  case eof =>
    intro p
    show (((EofPacket.parse? p.payload).map Packet.eof).map Except.ok).getD
      (.error (Parse.malformed p.payload "Malformed EOF packet")) = _
    rw [p.parse?_payload]
    rfl

/-- A state of five bytes that has three characters, in front of a message that begins with the mark of a
state. -/
theorem status_packets_read_back_five_bytes :
    (Text.encode "éé!").length = 5 ∧
      Packet.parse (ErrPacket.toFrame ⟨0xFFFF, "éé!", "#é"⟩ 255).payload .response =
        .ok (.err ⟨0xFFFF, "éé!", "#é"⟩) :=
  ⟨by decide, (status_packets_read_back 255).state ⟨0xFFFF, "éé!", "#é"⟩ (by decide)⟩

/-- A state that is cut inside a character, in front of a message that begins with the mark of a state. -/
example : Packet.parse (ErrPacket.toFrame ⟨1105, "HY00é", "#é"⟩ 1).payload .response =
    .ok (.err ⟨1105, "HY00\uFFFD", "#é"⟩) := by cbv

end WireSql.Wire
