import WireSql.Text.Utf8

/-!
# `WireSql.Digest.Sha1`: the SHA-1 digest

The message is padded to whole blocks of sixty-four bytes. Every block is worked into five words of
32 bits in eighty rounds, and the words left at the end are the digest.

Main statement: `length_sha1`, a digest has twenty bytes.
-/

namespace WireSql.Digest

/-- The bytes of a word, most significant first. -/
def bytesOfWord (w : UInt32) : Bytes :=
  [(w >>> 24).toUInt8, (w >>> 16).toUInt8, (w >>> 8).toUInt8, w.toUInt8]

/-- The word of four bytes, most significant first. -/
def wordOfBytes (a b c d : UInt8) : UInt32 :=
  (a.toUInt32 <<< 24) ||| (b.toUInt32 <<< 16) ||| (c.toUInt32 <<< 8) ||| d.toUInt32

/-- The words of a block. -/
def wordsOfBytes : Bytes → List UInt32
  | a :: b :: c :: d :: r => wordOfBytes a b c d :: wordsOfBytes r
  | _ => []

/-- The message with a set bit, zeros and its length in bits behind it, so that it fills blocks. -/
def padded (message : Bytes) : Bytes :=
  let bits := message.length * 8
  let length := (List.range 8).map fun i => UInt8.ofNat (bits / Nat.pow 256 (7 - i) % 256)
  message ++ 0x80 :: List.replicate ((119 - message.length % 64) % 64) 0 ++ length

/-- The blocks of a padded message, of sixteen words each. -/
def blocks (message : Bytes) : List (List UInt32) :=
  let words := wordsOfBytes (padded message)
  (List.range (words.length / 16)).map fun i => (words.drop (16 * i)).take 16

/-- A word with its bits moved `n` places to the left, the bits pushed out coming in again. -/
def rotateLeft (w : UInt32) (n : UInt32) : UInt32 := (w <<< n) ||| (w >>> (32 - n))

namespace Sha1

/-- The five words that the rounds work on. -/
structure State where
  a : UInt32
  b : UInt32
  c : UInt32
  d : UInt32
  e : UInt32
deriving DecidableEq, Repr

/-- The words before the first block. -/
def initial : State := ⟨0x67452301, 0xEFCDAB89, 0x98BADCFE, 0x10325476, 0xC3D2E1F0⟩

/-- The next word of a schedule whose last sixteen words are given. -/
def nextWord (window : List UInt32) : UInt32 :=
  let w (i : Nat) := window.getD i 0
  rotateLeft (w 13 ^^^ w 8 ^^^ w 2 ^^^ w 0) 1

/-- The function and the constant of a round. -/
def mix (t : Nat) (s : State) : UInt32 :=
  if t < 20 then ((s.b &&& s.c) ||| (~~~s.b &&& s.d)) + 0x5A827999
  else if t < 40 then (s.b ^^^ s.c ^^^ s.d) + 0x6ED9EBA1
  else if t < 60 then ((s.b &&& s.c) ||| (s.b &&& s.d) ||| (s.c &&& s.d)) + 0x8F1BBCDC
  else (s.b ^^^ s.c ^^^ s.d) + 0xCA62C1D6

/-- One round with a word of the schedule. -/
def round (t : Nat) (s : State) (w : UInt32) : State :=
  ⟨rotateLeft s.a 5 + mix t s + s.e + w, s.a, rotateLeft s.b 30, s.c, s.d⟩

/-- The rounds that are left, with the window of the schedule. -/
def rounds : Nat → List UInt32 → State → State
  | 0, _, s => s
  | left + 1, window, s =>
    rounds left (window.drop 1 ++ [nextWord window]) (round (79 - left) s (window.headD 0))

/-- Work a block into the words. -/
def compress (s : State) (block : List UInt32) : State :=
  let r := rounds 80 block s
  ⟨s.a + r.a, s.b + r.b, s.c + r.c, s.d + r.d, s.e + r.e⟩

/-- The bytes of the words. -/
def State.bytes (s : State) : Bytes :=
  bytesOfWord s.a ++ bytesOfWord s.b ++ bytesOfWord s.c ++ bytesOfWord s.d ++ bytesOfWord s.e

end Sha1

/-- The SHA-1 digest of a message. -/
def sha1 (message : Bytes) : Bytes := ((blocks message).foldl Sha1.compress Sha1.initial).bytes

/-- A digest has twenty bytes. -/
@[simp] theorem length_sha1 (message : Bytes) : (sha1 message).length = 20 := rfl

end WireSql.Digest
