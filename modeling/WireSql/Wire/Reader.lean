import WireSql.Wire.Word

/-!
# `WireSql.Wire.Reader`: reading the fields of a payload

A reader stands at a position in a payload: it knows how many bytes it has passed and which ones
are left. A read answers a value and a new reader. It answers `none` where the bytes left are too
few or not of the form asked for; the reader may then stand behind the part it did understand,
such as the length in front of a text that is cut short.

Reads are of type `Read`, so that they can be put together with `do`: a failed read ends the whole,
and the reader stays where the failure left it.

A *prefixed* integer takes up one byte below 251; above that a first byte says whether two, three
or eight bytes follow. Two first bytes stand for no number: `FB`, which marks NULL in a row, and
`FF`.
-/

namespace WireSql.Wire

/-- A position in a payload. -/
structure Reader where
  /-- The number of bytes passed. -/
  position : Nat
  rest : Bytes
deriving DecidableEq, Repr

/-- A read: from a reader to a value, where there is one, and the reader behind it. -/
abbrev Read := OptionT (StateM Reader)

/-- The byte that marks NULL in a row. -/
def nullMark : UInt8 := 0xFB

namespace Reader

/-- The reader at the start of a payload. -/
def ofBytes (payload : Bytes) : Reader := ⟨0, payload⟩

/-- How many bytes are left. -/
def remaining (r : Reader) : Nat := r.rest.length

/-- Are no bytes left? -/
def isEmpty (r : Reader) : Bool := r.rest.isEmpty

/-- The next byte, which the reader does not pass. -/
def peek (r : Reader) : Option UInt8 := r.rest.head?

/-- The reader behind `n` more bytes. -/
def advance (r : Reader) (n : Nat) : Reader := ⟨r.position + n, r.rest.drop n⟩

end Reader

namespace Read

/-- Run a read from a reader. -/
def runFrom {α : Type} (read : Read α) (r : Reader) : Option α × Reader := StateT.run read r

/-- The value that a read finds in a payload. -/
def onBytes {α : Type} (read : Read α) (payload : Bytes) : Option α :=
  (runFrom read (Reader.ofBytes payload)).1

/-- A read given by what it does. -/
def ofFunction {α : Type} (f : Reader → Option α × Reader) : Read α := fun r => f r

/-- The next byte, which is not passed. -/
def peek : Read UInt8 := ofFunction fun r => (r.peek, r)

/-- The next byte, which is not passed, or nothing at the end of the payload. -/
def peek? : Read (Option UInt8) := ofFunction fun r => (some r.peek, r)

/-- A number of bytes. -/
def bytes (n : Nat) : Read Bytes := ofFunction fun r =>
  if r.remaining < n then (none, r) else (some (r.rest.take n), r.advance n)

/-- A number of bytes, which are passed over. -/
def skip (n : Nat) : Read Unit := do
  let _ ← bytes n

/-- A number of the given width in bytes. -/
def word (width : Nat) : Read Nat := do
  return ofLittleEndian (← bytes width)

/-- A number of one byte. -/
def u8 : Read UInt8 := do return UInt8.ofNat (← word 1)

/-- A number of two bytes. -/
def u16 : Read UInt16 := do return UInt16.ofNat (← word 2)

/-- A number of three bytes. -/
def u24 : Read UInt32 := do return UInt32.ofNat (← word 3)

/-- A number of four bytes. -/
def u32 : Read UInt32 := do return UInt32.ofNat (← word 4)

/-- A number of eight bytes. -/
def u64 : Read UInt64 := do return UInt64.ofNat (← word 8)

/-- A prefixed integer. A first byte that stands for no number is not passed. -/
def prefixedInt : Read UInt64 := do
  let first ← peek
  if first == 0xFB || first == 0xFF then failure
  skip 1
  if first == 0xFC then return UInt64.ofNat (← word 2)
  else if first == 0xFD then return UInt64.ofNat (← word 3)
  else if first == 0xFE then return UInt64.ofNat (← word 8)
  else return UInt64.ofNat first.toNat

/-- Bytes behind their number as a prefixed integer. -/
def prefixedBytes : Read Bytes := do bytes (← prefixedInt).toNat

/-- A text behind its number of bytes as a prefixed integer. -/
def prefixedText : Read String := do return Text.decode (← prefixedBytes)

/-- A cell of a row: the mark of NULL, or a text behind its length. -/
def cell : Read (Option String) := do
  if (← peek) == nullMark then
    skip 1
    return none
  else return some (← prefixedText)

/-- Bytes up to a zero, which is passed, or to the end of the payload. At the end of the payload
there are none. -/
def zeroEndedBytes : Read Bytes := ofFunction fun r =>
  if r.isEmpty then (none, r)
  else
    let found := r.rest.takeWhile (· != 0)
    (some found, r.advance (min (found.length + 1) r.remaining))

/-- A text up to a zero, or to the end of the payload. -/
def zeroEndedText : Read String := do return Text.decode (← zeroEndedBytes)

/-- A text of a number of bytes. -/
def text (n : Nat) : Read String := do return Text.decode (← bytes n)

/-- All bytes that are left. -/
def rest : Read Bytes := ofFunction fun r => (some r.rest, r.advance r.remaining)

/-- All bytes that are left, as text. -/
def restText : Read String := do return Text.decode (← rest)

/-- What a read finds, or a default where it fails. -/
def orDefault {α : Type} (read : Read α) (default : α) : Read α := ofFunction fun r =>
  let m := runFrom read r
  (some (m.1.getD default), m.2)

end Read

end WireSql.Wire
