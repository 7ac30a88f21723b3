import WireSql.Error
import WireSql.Wire.Field

/-!
# `WireSql.Wire.Frame`: frames and their codec

A frame is a payload with a sequence number. On the wire a header stands before the payload: its
length in three bytes and the sequence number in one.

A codec has a cap on the length of payloads. `Codec.decode` takes one frame off the front of the
bytes received so far, if a whole one is there. A header that announces more than the cap is an
error as soon as it is complete, before any of its payload has arrived. `Codec.decodeAll` takes
frames until none is left; what has been received in which pieces makes no difference to it.
-/

namespace WireSql.Wire

/-- The greatest length that a header can announce. -/
def maxPayload : Nat := 0xFFFFFF

/-- The number of bytes of a header. -/
def headerSize : Nat := 4

/-- A payload with its sequence number. -/
structure Frame where
  sequence : UInt8
  payload : Bytes
deriving DecidableEq, Repr, Inhabited

/-- What a header says. -/
structure Header where
  /-- The length of the payload. -/
  length : Nat
  sequence : UInt8
deriving DecidableEq, Repr

/-- The bytes of a header. -/
def Header.encode (h : Header) : Bytes := littleEndian 3 h.length ++ [h.sequence]

/-- The header in four bytes. -/
def Header.decode? : Bytes → Option Header
  | [a, b, c, sequence] => some ⟨ofLittleEndian [a, b, c], sequence⟩
  | _ => none

/-- The bytes of a frame. -/
def Frame.encode (f : Frame) : Bytes := (Header.mk f.payload.length f.sequence).encode ++ f.payload

/-- A cap on the length of payloads. -/
structure Codec where
  /-- The greatest length allowed. -/
  limit : Nat
deriving DecidableEq, Repr

/-- What taking frames off the front of bytes leaves. -/
structure Decoded where
  frames : List Frame
  /-- The bytes behind the last frame. -/
  rest : Bytes
  /-- Why no more frames can be taken, where it is not for lack of bytes. -/
  failure : Option FramingError
deriving DecidableEq, Repr

namespace Codec

/-- The codec with a cap, which is at most what a header can announce. -/
def ofLimit (limit : Nat) : Codec := ⟨min limit maxPayload⟩

/-- Take one frame off the front of bytes; `none` where it has not arrived as a whole. -/
def decode (codec : Codec) (b : Bytes) : Except FramingError (Option (Frame × Bytes)) :=
  match Header.decode? (b.take headerSize) with
  | none => .ok none
  | some h =>
    if codec.limit < h.length then .error ⟨h.length, codec.limit⟩
    else
      let behind := b.drop headerSize
      if behind.length < h.length then .ok none
      else .ok (some (⟨h.sequence, behind.take h.length⟩, behind.drop h.length))

/-- Take frames off the front of bytes, at most `fuel` of them. -/
def decodeUpTo (codec : Codec) : Nat → Bytes → Decoded
  | 0, b => ⟨[], b, none⟩
  | fuel + 1, b =>
    match codec.decode b with
    | .error e => ⟨[], b, some e⟩
    | .ok none => ⟨[], b, none⟩
    | .ok (some (frame, rest)) =>
      let more := codec.decodeUpTo fuel rest
      { more with frames := frame :: more.frames }

/-- Take frames off the front of bytes until no whole one is left. Each takes up at least a
header, so there are fewer of them than bytes. -/
def decodeAll (codec : Codec) (b : Bytes) : Decoded := codec.decodeUpTo (b.length + 1) b

/-- The bytes of a frame that is within the cap. -/
def encode (codec : Codec) (f : Frame) : Except FramingError Bytes :=
  if codec.limit < f.payload.length then .error ⟨f.payload.length, codec.limit⟩
  else .ok f.encode

/-- The bytes of frames that are all within the cap. -/
def encodeAll (codec : Codec) (frames : List Frame) : Except FramingError Bytes := do
  return (← frames.mapM codec.encode).flatten

end Codec

end WireSql.Wire
