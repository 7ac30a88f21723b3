/-!
# `WireSql.Text.Utf8`: text as bytes and bytes as text

Writing text as bytes is plain UTF-8. Reading never fails: every maximal part of the bytes that
cannot begin or continue a character reads as one replacement character (U+FFFD), and reading goes
on with the byte after that part.

The reader is a machine over single bytes. Between two bytes it holds either nothing or a `Partial`
character: how many bytes are still to come, which range the next one must lie in, and the bits
read so far. Only the first continuation byte has a range narrower than `80..BF`; that range keeps
out overlong forms, surrogates and everything above U+10FFFF.
-/

namespace WireSql

/-- A sequence of bytes, as it stands on the wire. -/
abbrev Bytes := List UInt8

namespace Text

/-- The UTF-8 form of a text. -/
def encodeChars (s : List Char) : Bytes := s.flatMap String.utf8EncodeChar

/-- The UTF-8 form of a string. -/
def encode (s : String) : Bytes := encodeChars s.toList

/-- The character that stands for bytes that are not text. -/
def replacement : Char := Char.ofNat 0xFFFD

/-- A character whose first bytes have been read. -/
structure Partial where
  /-- How many bytes are still to come; never zero. -/
  missing : Nat
  /-- The least value the next byte may have. -/
  low : UInt8
  /-- The greatest value the next byte may have. -/
  high : UInt8
  /-- The bits read so far. -/
  bits : Nat
deriving DecidableEq, Repr

/-- The machine's state when a character begins with byte `b`, and what `b` reads as by itself. -/
def firstByte (b : UInt8) : List Char × Option Partial :=
  let n := b.toNat
  if n < 0x80 then ([Char.ofNat n], none)
  else if 0xC2 ≤ n && n ≤ 0xDF then ([], some ⟨1, 0x80, 0xBF, n - 0xC0⟩)
  else if n == 0xE0 then ([], some ⟨2, 0xA0, 0xBF, 0⟩)
  else if n == 0xED then ([], some ⟨2, 0x80, 0x9F, 0xD⟩)
  else if 0xE1 ≤ n && n ≤ 0xEF then ([], some ⟨2, 0x80, 0xBF, n - 0xE0⟩)
  else if n == 0xF0 then ([], some ⟨3, 0x90, 0xBF, 0⟩)
  else if 0xF1 ≤ n && n ≤ 0xF3 then ([], some ⟨3, 0x80, 0xBF, n - 0xF0⟩)
  else if n == 0xF4 then ([], some ⟨3, 0x80, 0x8F, 4⟩)
  else ([replacement], none)

/-- One step of the machine: the characters that byte `b` settles, and the next state. -/
def nextByte (state : Option Partial) (b : UInt8) : List Char × Option Partial :=
  match state with
  | none => firstByte b
  | some p =>
    if p.low ≤ b && b ≤ p.high then
      let bits := p.bits * 64 + b.toNat % 64
      if p.missing ≤ 1 then ([Char.ofNat bits], none)
      else ([], some ⟨p.missing - 1, 0x80, 0xBF, bits⟩)
    else
      let m := firstByte b
      (replacement :: m.1, m.2)

/-- Run the machine from a state to the end of the bytes. -/
def decodeFrom (state : Option Partial) : Bytes → List Char
  | [] => if state.isSome then [replacement] else []
  | b :: r =>
    let m := nextByte state b
    m.1 ++ decodeFrom m.2 r

/-- The characters that the bytes stand for. -/
def decodeChars (b : Bytes) : List Char := decodeFrom none b

/-- The string that the bytes stand for. -/
def decode (b : Bytes) : String := String.ofList (decodeChars b)

@[simp] theorem decodeChars_nil : decodeChars [] = [] := rfl

@[simp] theorem encodeChars_nil : encodeChars [] = [] := rfl

@[simp] theorem encodeChars_append (s t : List Char) :
    encodeChars (s ++ t) = encodeChars s ++ encodeChars t := by
  simp [encodeChars]

end Text

end WireSql
