import WireSql.Wire.Reader

/-!
# `WireSql.Wire.Field`: writing the fields of a payload

A payload is a sequence of fields, each of which has one form in bytes. The functions here give the
form of every kind of field; `Field` names the kinds, so that a whole payload can be spoken of as a
list.
-/

namespace WireSql.Wire

/-- A number of one byte. -/
def ofU8 (n : UInt8) : Bytes := littleEndian 1 n.toNat

/-- A number of two bytes. -/
def ofU16 (n : UInt16) : Bytes := littleEndian 2 n.toNat

/-- The low three bytes of a number. -/
def ofU24 (n : UInt32) : Bytes := littleEndian 3 n.toNat

/-- A number of four bytes. -/
def ofU32 (n : UInt32) : Bytes := littleEndian 4 n.toNat

/-- A number of eight bytes. -/
def ofU64 (n : UInt64) : Bytes := littleEndian 8 n.toNat

/-- A prefixed integer in its shortest form. -/
def ofPrefixedInt (n : UInt64) : Bytes :=
  if n < 251 then littleEndian 1 n.toNat
  else if n < 0x10000 then 0xFC :: littleEndian 2 n.toNat
  else if n < 0x1000000 then 0xFD :: littleEndian 3 n.toNat
  else 0xFE :: littleEndian 8 n.toNat

/-- Bytes behind their number. -/
def ofPrefixedBytes (b : Bytes) : Bytes := ofPrefixedInt (UInt64.ofNat b.length) ++ b

/-- A text behind its number of bytes. -/
def ofPrefixedText (s : String) : Bytes := ofPrefixedBytes (Text.encode s)

/-- A cell of a row: the mark of NULL, or a text behind its length. -/
def ofCell : Option String → Bytes
  | some s => ofPrefixedText s
  | none => [nullMark]

/-- Bytes with a zero behind them. -/
def ofZeroEndedBytes (b : Bytes) : Bytes := b ++ [0]

/-- A text with a zero behind it. -/
def ofZeroEndedText (s : String) : Bytes := ofZeroEndedBytes (Text.encode s)

/-- A number of zeros. -/
def zeros (n : Nat) : Bytes := List.replicate n 0

/-- A field of a payload. -/
inductive Field where
  | u8 (n : UInt8)
  | u16 (n : UInt16)
  /-- The low three bytes of a number. -/
  | u24 (n : UInt32)
  | u32 (n : UInt32)
  | u64 (n : UInt64)
  | prefixedInt (n : UInt64)
  | prefixedBytes (b : Bytes)
  | prefixedText (s : String)
  | cell (c : Option String)
  | zeroEndedText (s : String)
  | bytes (b : Bytes)
  | zeros (n : Nat)
deriving DecidableEq, Repr

namespace Field

/-- The bytes of a field. -/
def encode : Field → Bytes
  | u8 n => ofU8 n
  | u16 n => ofU16 n
  | u24 n => ofU24 n
  | u32 n => ofU32 n
  | u64 n => ofU64 n
  | prefixedInt n => ofPrefixedInt n
  | prefixedBytes b => ofPrefixedBytes b
  | prefixedText s => ofPrefixedText s
  | cell c => ofCell c
  | zeroEndedText s => ofZeroEndedText s
  | bytes b => b
  | zeros n => Wire.zeros n

/-- The bytes of fields one behind the other. -/
def encodeAll (fields : List Field) : Bytes := fields.flatMap encode

end Field

end WireSql.Wire
