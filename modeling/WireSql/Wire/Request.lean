import WireSql.Wire.Reader

/-!
# `WireSql.Wire.Request`: reads by name

The reads of a payload find values of different types. `Request` names the reads and `Found` has a case for
every type of value, so that any sequence of reads is a list. The number of bytes that a read asks for may
be any: whoever asks may have it from a byte of the payload itself.

A read that finds nothing does not end a sequence: the next one begins wherever it has left the reader.
-/

namespace WireSql.Wire

/-- A read of a payload. -/
inductive Request where
  /-- The next byte, which is not passed. -/
  | peek
  | u8
  | u16
  | u24
  | u32
  | u64
  | prefixedInt
  | prefixedBytes
  | prefixedText
  | cell
  | zeroEndedBytes
  | zeroEndedText
  | bytes (n : Nat)
  | text (n : Nat)
  /-- A number of bytes, which are passed over. -/
  | skip (n : Nat)
  | rest
  | restText
deriving DecidableEq, Repr

/-- What a read finds. -/
inductive Found where
  | u8 (n : UInt8)
  | u16 (n : UInt16)
  /-- A number of up to four bytes. -/
  | u32 (n : UInt32)
  /-- A number of up to eight bytes. -/
  | u64 (n : UInt64)
  | bytes (b : Bytes)
  | text (s : String)
  | cell (c : Option String)
  | passed
deriving DecidableEq, Repr

namespace Request

/-- The read. -/
def read : Request → Read Found
  | peek => do return .u8 (← Read.peek)
  | u8 => do return .u8 (← Read.u8)
  | u16 => do return .u16 (← Read.u16)
  | u24 => do return .u32 (← Read.u24)
  | u32 => do return .u32 (← Read.u32)
  | u64 => do return .u64 (← Read.u64)
  | prefixedInt => do return .u64 (← Read.prefixedInt)
  | prefixedBytes => do return .bytes (← Read.prefixedBytes)
  | prefixedText => do return .text (← Read.prefixedText)
  | cell => do return .cell (← Read.cell)
  | zeroEndedBytes => do return .bytes (← Read.zeroEndedBytes)
  | zeroEndedText => do return .text (← Read.zeroEndedText)
  | bytes n => do return .bytes (← Read.bytes n)
  | text n => do return .text (← Read.text n)
  | skip n => do
    Read.skip n
    return .passed
  | rest => do return .bytes (← Read.rest)
  | restText => do return .text (← Read.restText)

/-- Reads one after the other: what each of them finds, and the reader behind the last. -/
def readAll : List Request → Reader → List (Option Found) × Reader
  | [], r => ([], r)
  | q :: later, r =>
    let first := q.read.runFrom r
    let others := readAll later first.2
    (first.1 :: others.1, others.2)

end Request

end WireSql.Wire
