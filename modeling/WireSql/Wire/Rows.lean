import WireSql.ResultSet
import WireSql.Wire.Packet

/-!
# `WireSql.Wire.Rows`: result sets on the wire

A result with columns travels as the number of columns, a definition for each, an end packet unless
the session does without, the rows, and an end packet. A result without columns is one packet that
reports success. Every frame has the sequence number after that of the frame before it.

Every column is announced as a text of the same width, whatever the type of its values.
-/

namespace WireSql.Wire

/-- The character set of columns. -/
def columnCharset : UInt8 := 33

/-- The width announced for a column. -/
def columnWidth : UInt32 := 256

/-- The type announced for a column: a text of varying length. -/
def columnTypeCode : UInt8 := 0xFD

/-- The length of the fixed fields of a column's definition. -/
def columnTailLength : UInt8 := 0x0C

/-- The definition of a column. Catalog, schema and table are not told. -/
def columnPayload (name : String) : Bytes :=
  Field.encodeAll [
    .prefixedText "def",
    .prefixedText "",
    .prefixedText "",
    .prefixedText "",
    .prefixedText name,
    .prefixedText name,
    .u8 columnTailLength,
    .u16 columnCharset.toUInt16,
    .u32 columnWidth,
    .u8 columnTypeCode,
    .u16 0,
    .u8 0,
    .zeros 2]

/-- Read the definition of a column up to its name. -/
def readColumnName : Read String := do
  let _ ← Read.prefixedBytes
  let _ ← Read.prefixedBytes
  let _ ← Read.prefixedBytes
  let _ ← Read.prefixedBytes
  Read.prefixedText

/-- The name in the definition of a column. -/
def columnName? (payload : Bytes) : Option String :=
  readColumnName.onBytes payload

/-- A row. -/
def rowPayload (cells : List Cell) : Bytes := cells.flatMap ofCell

/-- Read a number of cells. -/
def readCells : Nat → Read (List Cell)
  | 0 => return []
  | n + 1 => do
    let cell ← Read.cell
    return cell :: (← readCells n)

/-- The cells of a row with a number of columns. -/
def rowCells? (payload : Bytes) (columns : Nat) : Option (List Cell) :=
  (readCells columns).onBytes payload

/-- Frames for payloads, with ascending sequence numbers. -/
def frames (first : UInt8) : List Bytes → List Frame
  | [] => []
  | p :: r => ⟨first, p⟩ :: frames (first + 1) r

/-- The payloads of a result with columns. -/
def resultPayloads (r : ResultSet) (deprecateEof : Bool) : List Bytes :=
  let ending := EofPacket.payload {}
  ofPrefixedInt (UInt64.ofNat r.columns.length) :: r.columns.map columnPayload ++
    ((if deprecateEof then [] else [ending]) ++ (r.rows.map rowPayload ++ [ending]))

/-- The frames of a result for a session with the given capabilities. -/
def resultFrames (r : ResultSet) (capabilities : UInt32) (first : UInt8) : List Frame :=
  if r.isCommand then [(OkPacket.affected r.affectedRows).toFrame first]
  else frames first (resultPayloads r (Capability.has capabilities Capability.deprecateEof))

@[simp] theorem length_frames (first : UInt8) (payloads : List Bytes) :
    (frames first payloads).length = payloads.length := by
  induction payloads generalizing first with
  | nil => rfl
  | cons p r ih => simp [frames, ih]

end WireSql.Wire
