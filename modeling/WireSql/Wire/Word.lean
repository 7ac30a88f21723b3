import WireSql.Text.Utf8

/-!
# `WireSql.Wire.Word`: numbers as bytes

Numbers of a fixed width travel with their least significant byte first. The width is in bytes; a
number that does not fit keeps its low bytes.

Main statements: `length_littleEndian` and `ofLittleEndian_littleEndian`.
-/

namespace WireSql.Wire

/-- The `width` low bytes of a number, least significant first. -/
def littleEndian : Nat → Nat → Bytes
  | 0, _ => []
  | width + 1, n => UInt8.ofNat (n % 256) :: littleEndian width (n / 256)

/-- The number that bytes stand for, least significant first. -/
def ofLittleEndian : Bytes → Nat
  | [] => 0
  | b :: r => b.toNat + 256 * ofLittleEndian r

@[simp] theorem length_littleEndian (width n : Nat) : (littleEndian width n).length = width := by
  induction width generalizing n with
  | zero => rfl
  | succ width ih => simp [littleEndian, ih]

/-- Reading what was written gives the number again, as far as it fits. -/
theorem ofLittleEndian_littleEndian (width n : Nat) :
    ofLittleEndian (littleEndian width n) = n % Nat.pow 256 width := by
  induction width generalizing n with
  | zero => simp [littleEndian, ofLittleEndian, Nat.mod_one]
  | succ width ih =>
    rw [littleEndian, ofLittleEndian, ih, Nat.pow_eq, Nat.pow_eq, Nat.pow_succ, Nat.mul_comm _ 256,
      Nat.mod_mul]
    simp

end WireSql.Wire
