import WireSql.Decimal.Integer
import WireSql.Decimal.Binary

/-!
# `WireSql.Decimal.Shortest`: the fewest digits that read back

A float is the nearest one for every real number in an interval around it. The text of a float is
the decimal with the fewest digits in that interval, and of several with as few digits the one
nearest to the float; where two are equally near, the caller says which to take.

All arithmetic is on natural numbers. With the float `m · 2 ^ q`, the unit is a quarter of its last
binary place: the float is `4m` units, the interval reaches `2` units up and `2` units down, or `1`
unit down where the next smaller float is nearer. The ends belong to the interval iff `m` is even.
-/

namespace WireSql.Decimal

/-- Which of two equally near decimals to take. -/
inductive Tie where
  /-- The larger one. -/
  | up
  /-- The one whose last digit is even. -/
  | even
deriving DecidableEq, Repr

/-- A decimal `0.d₁d₂… · 10 ^ point` with its digits. -/
structure Significant where
  /-- The digits, the first of which is not zero. -/
  digits : List Char
  /-- How many digits stand before the point; negative for zeros behind it. -/
  point : Int
deriving DecidableEq, Repr

/-- `base ^ e` for a positive exponent, else one. -/
def upward (base : Nat) (e : Int) : Nat := Nat.pow base e.toNat

/-- The numerator of `units · 2 ^ q` over a power of two. -/
def numerator (units : Nat) (q : Int) : Nat := units * upward 2 q

/-- The exponent of the greatest power of ten that is at most `num / den`. -/
def floorLog (num den : Nat) : Int :=
  if den ≤ num then (digits (num / den)).length - 1
  else
    let d := (digits (den / num)).length
    if den ≤ num * Nat.pow 10 (d - 1) then 1 - d else -d

/-- The interval of a float in quarters of its last binary place. -/
structure Interval where
  mantissa : Nat
  exponent : Int
  /-- Whether the next smaller float is nearer than the next larger. -/
  narrowBelow : Bool

/-- Does a point, of `point` units at the scale where the float is `4m · scale`, lie inside? -/
def Interval.holds (i : Interval) (scale point : Nat) : Bool :=
  let low := (4 * i.mantissa - if i.narrowBelow then 1 else 2) * scale
  let high := (4 * i.mantissa + 2) * scale
  if i.mantissa % 2 == 0 then low ≤ point && point ≤ high else low < point && point < high

/-- The multiple of `10 ^ k` to write for the float, if one lies in its interval. -/
def Interval.onGrid? (i : Interval) (tie : Tie) (k : Int) : Option Nat :=
  let q := i.exponent - 2
  let scale := upward 2 q * upward 10 (-k)
  let step := upward 2 (-q) * upward 10 k
  let value := 4 * i.mantissa * scale
  let below := value / step
  let above := below + 1
  let down := below != 0 && i.holds scale (below * step)
  let up := i.holds scale (above * step)
  if down && up then
    let toBelow := value - below * step
    let toAbove := above * step - value
    if toBelow < toAbove then some below
    else if toAbove < toBelow then some above
    else match tie with
      | .up => some above
      | .even => some (if below % 2 == 0 then below else above)
  else if down then some below
  else if up then some above
  else none

/-- Try ever finer grids, at most `fuel` of them, starting with multiples of `10 ^ k`. -/
def Interval.search (i : Interval) (tie : Tie) : Nat → Int → Nat × Int
  | 0, k => (0, k)
  | fuel + 1, k =>
    match i.onGrid? tie k with
    | some n => (n, k)
    | none => i.search tie fuel (k - 1)

/-- The shortest decimal of the float `m · 2 ^ q`, for a mantissa that is not zero. Seventeen
digits always suffice. -/
def shortest (tie : Tie) (m : Nat) (q : Int) (narrowBelow : Bool) : Significant :=
  let e := floorLog (numerator (4 * m) (q - 2)) (upward 2 (2 - q))
  let (n, k) := Interval.search ⟨m, q, narrowBelow⟩ tie 18 e
  let ds := digits n
  ⟨(ds.reverse.dropWhile (· == '0')).reverse, ds.length + k⟩

/-- Digits with the point among them and no exponent; `places` digits at least stand behind the
point, which is left out where none does. -/
def Significant.positional (places : Nat) (d : Significant) : List Char :=
  let zeros (n : Nat) := List.replicate n '0'
  let whole :=
    if d.point ≤ 0 then ['0']
    else d.digits.take d.point.toNat ++ zeros (d.point.toNat - d.digits.length)
  let fraction := zeros (-d.point).toNat ++ d.digits.drop d.point.toNat
  let fraction := fraction ++ zeros (places - fraction.length)
  if fraction.isEmpty then whole else whole ++ '.' :: fraction

/-- The decimal zero. -/
def Significant.zero : Significant := ⟨[], 0⟩

/-- The text of a float in a result: the fewest digits that read back, never an exponent, no point
on a whole number, and of two equally near decimals the larger. -/
def plainText (x : Float) : String :=
  match Parts.ofFloat x with
  | .nan => "NaN"
  | .infinite negative => if negative then "-inf" else "inf"
  | .finite negative m q narrow =>
    let d := if m == 0 then .zero else shortest .up m q narrow
    String.ofList (if negative then '-' :: d.positional 0 else d.positional 0)

end WireSql.Decimal
