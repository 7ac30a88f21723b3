import WireSql.Wire.Frame

/-!
# `WireSql.Wire.Buffer`: the codec at its buffers

What has been received waits in a buffer, and what is to be sent is gathered in one. `Codec.take` takes one
frame off the front of a buffer and `Codec.put` puts the bytes of one behind what a buffer holds. Both
look at the cap first and touch the buffer last. `Codec.drain` takes frames for as long as there are any.
-/

namespace WireSql.Wire

/-- A program that works on a buffer. A failure undoes nothing. -/
abbrev Buffered := ExceptT FramingError (StateM Bytes)

/-- The outcome of a program, and what its buffer holds afterwards. -/
def Buffered.exec {α : Type} (p : Buffered α) (buffer : Bytes) : Except FramingError α × Bytes :=
  ((ExceptT.run p).run buffer).run

namespace Codec

/-- Take one frame off the front of the buffer; `none` where it has not arrived as a whole. -/
def take (codec : Codec) : Buffered (Option Frame) := do
  let buffer ← get
  match Header.decode? (buffer.take headerSize) with
  | none => return none
  | some h =>
    if codec.limit < h.length then throw ⟨h.length, codec.limit⟩
    else
      let total := headerSize + h.length
      if buffer.length < total then return none
      else
        set (buffer.drop total)
        return some ⟨h.sequence, (buffer.take total).drop headerSize⟩

/-- Put a frame that is within the cap behind what the buffer holds. -/
def put (codec : Codec) (frame : Frame) : Buffered Unit :=
  if codec.limit < frame.payload.length then throw ⟨frame.payload.length, codec.limit⟩
  else modify (· ++ frame.encode)

/-- Put frames behind what the buffer holds, one after the other. -/
def putAll (codec : Codec) (frames : List Frame) : Buffered Unit := frames.forM codec.put

/-- Take frames off the buffer, at most `fuel` of them. -/
def drainUpTo (codec : Codec) : Nat → Bytes → Decoded
  | 0, buffer => ⟨[], buffer, none⟩
  | fuel + 1, buffer =>
    match codec.take.exec buffer with
    | (.error e, buffer) => ⟨[], buffer, some e⟩
    | (.ok none, buffer) => ⟨[], buffer, none⟩
    | (.ok (some frame), buffer) =>
      let more := codec.drainUpTo fuel buffer
      { more with frames := frame :: more.frames }

/-- Take frames off the buffer until no whole one is left in it. Each takes up at least a header, so there
are fewer of them than bytes. -/
def drain (codec : Codec) (buffer : Bytes) : Decoded := codec.drainUpTo (buffer.length + 1) buffer

end Codec

end WireSql.Wire
