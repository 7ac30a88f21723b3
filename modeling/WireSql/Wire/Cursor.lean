import WireSql.Wire.Request

/-!
# `WireSql.Wire.Cursor`: reads that stop at a wrong index

A `Reader` holds the bytes that are left, so that there is no index it could get wrong. A `Cursor` holds the
whole payload and the index at which the next read begins, and the reads here go by indices: they look up
single bytes, cut out stretches and add up lengths, in words of a machine that end at some greatest number.
Each such step is an end of its own where it goes wrong: `Fault.outOfRange` where there is nothing at an
index, and `Fault.overflow` where a sum does not fit a word.

That a read finds nothing is no fault. As for a `Reader`, the cursor then stays where the read has left it.
-/

namespace WireSql.Wire

/-- A payload, and an index into it. -/
structure Cursor where
  data : Bytes
  /-- The index at which the next read begins. -/
  position : Nat
deriving DecidableEq, Repr

/-- Why a read is stopped. -/
inductive Fault where
  | outOfRange
  /-- A sum is greater than the greatest number of a word. -/
  | overflow
deriving DecidableEq, Repr

namespace Cursor

/-- The cursor at the start of a payload. -/
def ofBytes (payload : Bytes) : Cursor := ⟨payload, 0⟩

/-- How many bytes are left: the difference of the length and the position, or zero if that is negative. -/
def remaining (c : Cursor) : Nat := c.data.length - c.position

/-- Are no bytes left? -/
def isEmpty (c : Cursor) : Bool := c.data.length ≤ c.position

/-- The next byte, if there is one. -/
def next? (c : Cursor) : Option UInt8 := c.data[c.position]?

/-- The reader that stands where the cursor stands. -/
def reader (c : Cursor) : Reader := ⟨c.position, c.data.drop c.position⟩

end Cursor

namespace Fault

/-- The sum of two words. -/
def sum (greatest a b : Nat) : Except Fault Nat :=
  if a + b ≤ greatest then .ok (a + b) else .error .overflow

/-- The byte at an index. -/
def entry (b : Bytes) (i : Nat) : Except Fault UInt8 :=
  match b[i]? with
  | some x => .ok x
  | none => .error .outOfRange

/-- The stretch between two indices. -/
def slice (b : Bytes) (start stop : Nat) : Except Fault Bytes :=
  if start ≤ stop ∧ stop ≤ b.length then .ok ((b.take stop).drop start) else .error .outOfRange

end Fault

/-- A read at a cursor: it finds a value or not, and may be stopped. -/
abbrev Walk := OptionT (StateT Cursor (Except Fault))

namespace Walk

/-- Run a read from a cursor. -/
def runFrom {α : Type} (walk : Walk α) (c : Cursor) : Except Fault (Option α × Cursor) := StateT.run walk c

/-- A read given by what it does. -/
def ofFunction {α : Type} (f : Cursor → Except Fault (Option α × Cursor)) : Walk α := fun c => f c

/-- A step that leaves the cursor where it is. -/
def ofStep {α : Type} (x : Except Fault α) : Walk α := ofFunction fun c => do return (some (← x), c)

/-- The next byte, which is not passed. -/
def peek : Walk UInt8 := ofFunction fun c => .ok (c.next?, c)

variable (greatest : Nat)

/-- Move the position on. -/
def advance (n : Nat) : Walk Unit := ofFunction fun c => do
  return (some (), { c with position := ← Fault.sum greatest c.position n })

/-- A number of one byte. -/
def u8 : Walk UInt8 := do
  let b ← peek
  advance greatest 1
  return b

/-- A number of bytes. -/
def bytes (n : Nat) : Walk Bytes := ofFunction fun c =>
  if c.remaining < n then .ok (none, c)
  else do
    let stop ← Fault.sum greatest c.position n
    let found ← Fault.slice c.data c.position stop
    return (some found, { c with position := ← Fault.sum greatest c.position n })

/-- A number of bytes, which are passed over. -/
def skip (n : Nat) : Walk Unit := ofFunction fun c =>
  if c.remaining < n then .ok (none, c)
  else do return (some (), { c with position := ← Fault.sum greatest c.position n })

/-- A number of the given width in bytes, which are looked up one by one. -/
def word (width : Nat) : Walk Nat := do
  let found ← bytes greatest width
  return ofLittleEndian (← ofStep ((List.range width).mapM (Fault.entry found)))

/-- A number of two bytes. -/
def u16 : Walk UInt16 := do return UInt16.ofNat (← word greatest 2)

/-- A number of three bytes. -/
def u24 : Walk UInt32 := do return UInt32.ofNat (← word greatest 3)

/-- A number of four bytes. -/
def u32 : Walk UInt32 := do return UInt32.ofNat (← word greatest 4)

/-- A number of eight bytes. -/
def u64 : Walk UInt64 := do return UInt64.ofNat (← word greatest 8)

/-- A prefixed integer. A first byte that stands for no number is not passed. -/
def prefixedInt : Walk UInt64 := do
  let first ← peek
  if first == 0xFB || first == 0xFF then failure
  advance greatest 1
  if first == 0xFC then return UInt64.ofNat (← word greatest 2)
  else if first == 0xFD then return UInt64.ofNat (← word greatest 3)
  else if first == 0xFE then return UInt64.ofNat (← word greatest 8)
  else return UInt64.ofNat first.toNat

/-- As many bytes as a prefixed integer says. It may say more than a word of the machine can. -/
def counted (n : UInt64) : Walk Bytes :=
  if greatest < n.toNat then failure else bytes greatest n.toNat

/-- Bytes behind their number as a prefixed integer. -/
def prefixedBytes : Walk Bytes := do counted greatest (← prefixedInt greatest)

/-- A text behind its number of bytes as a prefixed integer. -/
def prefixedText : Walk String := do return Text.decode (← prefixedBytes greatest)

/-- A cell of a row: the mark of NULL, or a text behind its length. -/
def cell : Walk (Option String) := do
  if (← peek) == nullMark then
    advance greatest 1
    return none
  else return some (← prefixedText greatest)

/-- The cursor at the next zero or at the end of the payload, at most `fuel` bytes further on. -/
def toZero : Nat → Cursor → Except Fault Cursor
  | 0, c => .ok c
  | fuel + 1, c =>
    if c.position < c.data.length then do
      if (← Fault.entry c.data c.position) == 0 then return c
      else toZero fuel { c with position := ← Fault.sum greatest c.position 1 }
    else .ok c

/-- Bytes up to a zero, which is passed, or to the end of the payload. At the end of the payload
there are none. -/
def zeroEndedBytes : Walk Bytes := ofFunction fun start =>
  if start.isEmpty then .ok (none, start)
  else do
    let stop ← toZero greatest start.remaining start
    let found ← Fault.slice stop.data start.position stop.position
    if stop.position < stop.data.length then
      return (some found, { stop with position := ← Fault.sum greatest stop.position 1 })
    else return (some found, stop)

/-- A text up to a zero, or to the end of the payload. -/
def zeroEndedText : Walk String := do return Text.decode (← zeroEndedBytes greatest)

/-- A text of a number of bytes. -/
def text (n : Nat) : Walk String := do return Text.decode (← bytes greatest n)

/-- All bytes that are left. -/
def rest : Walk Bytes := ofFunction fun c => do
  let found ← Fault.slice c.data (min c.position c.data.length) c.data.length
  return (some found, { c with position := c.data.length })

/-- All bytes that are left, as text. -/
def restText : Walk String := do return Text.decode (← rest)

end Walk

namespace Request

variable (greatest : Nat)

/-- The read by indices. -/
def walk : Request → Walk Found
  | peek => do return .u8 (← Walk.peek)
  | u8 => do return .u8 (← Walk.u8 greatest)
  | u16 => do return .u16 (← Walk.u16 greatest)
  | u24 => do return .u32 (← Walk.u24 greatest)
  | u32 => do return .u32 (← Walk.u32 greatest)
  | u64 => do return .u64 (← Walk.u64 greatest)
  | prefixedInt => do return .u64 (← Walk.prefixedInt greatest)
  | prefixedBytes => do return .bytes (← Walk.prefixedBytes greatest)
  | prefixedText => do return .text (← Walk.prefixedText greatest)
  | cell => do return .cell (← Walk.cell greatest)
  | zeroEndedBytes => do return .bytes (← Walk.zeroEndedBytes greatest)
  | zeroEndedText => do return .text (← Walk.zeroEndedText greatest)
  | bytes n => do return .bytes (← Walk.bytes greatest n)
  | text n => do return .text (← Walk.text greatest n)
  | skip n => do
    Walk.skip greatest n
    return .passed
  | rest => do return .bytes (← Walk.rest)
  | restText => do return .text (← Walk.restText)

/-- Reads by indices one after the other: what each of them finds, and the cursor behind the last. -/
def walkAll : List Request → Cursor → Except Fault (List (Option Found) × Cursor)
  | [], c => .ok ([], c)
  | q :: later, c => do
    let first ← (q.walk greatest).runFrom c
    let others ← walkAll later first.2
    return (first.1 :: others.1, others.2)

end Request

end WireSql.Wire
