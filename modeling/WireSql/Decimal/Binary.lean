/-!
# `WireSql.Decimal.Binary`: what a 64-bit float stands for

The bits of a float are a sign, eleven bits of exponent and fifty-two bits of fraction. `Parts`
spells them out: a finite float is `mantissa · 2 ^ exponent` with an exact whole mantissa, so that
everything decimal about it can be computed with natural numbers.
-/

namespace WireSql.Decimal

/-- What a float stands for. -/
inductive Parts where
  | nan
  | infinite (negative : Bool)
  /-- The number `± mantissa · 2 ^ exponent`. `narrowBelow` says that the mantissa is the least of
  its binary order, so that the next smaller float is only half as far away as the next larger. -/
  | finite (negative : Bool) (mantissa : Nat) (exponent : Int) (narrowBelow : Bool)
deriving DecidableEq, Repr

/-- Take a float's 64 bits apart. -/
def Parts.ofBits (bits : Nat) : Parts :=
  let negative := (bits >>> 63) % 2 == 1
  let order : Nat := (bits >>> 52) % 2048
  let fraction : Nat := bits % Nat.pow 2 52
  if order == 2047 then (if fraction == 0 then .infinite negative else .nan)
  else if order == 0 then .finite negative fraction (-1074) false
  else .finite negative (Nat.pow 2 52 + fraction) ((order : Int) - 1075) (fraction == 0 && order != 1)

/-- What a float stands for. -/
def Parts.ofFloat (x : Float) : Parts := .ofBits x.toBits.toNat

/-- The whole number nearest to `mantissa · 2 ^ exponent`; a half goes up. -/
def nearestWhole (mantissa : Nat) (exponent : Int) : Nat :=
  match exponent with
  | .ofNat e => mantissa * Nat.pow 2 e
  | .negSucc e => (mantissa + Nat.pow 2 e) / Nat.pow 2 (e + 1)

/-- The 64-bit integer nearest to a float: a half goes away from zero, what lies beyond the range
becomes its nearer end, and what is no number becomes zero. -/
def roundToInt64 (x : Float) : Int64 :=
  match Parts.ofFloat x with
  | .nan => 0
  | .infinite negative => if negative then Int64.minValue else Int64.maxValue
  | .finite negative m e _ =>
    let n := nearestWhole m e
    if negative then (if n ≤ Int64.size / 2 then Int64.ofInt (-(n : Int)) else Int64.minValue)
    else (if n < Int64.size / 2 then Int64.ofInt n else Int64.maxValue)

end WireSql.Decimal
