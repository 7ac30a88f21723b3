import WireSql.Decimal.Integer

/-!
# `WireSql.Decimal.Real`: reading a float from decimal text

A number is an optional sign, digits with an optional point among, before or behind them, and an
optional exponent. The words `inf`, `infinity` and `nan` are accepted in any letter case. The float
is the one nearest to the number written, a tie going to the even neighbour.
-/

namespace WireSql.Decimal

/-- An unsigned decimal: `coefficient · 10 ^ exponent`. -/
structure Scientific where
  /-- All the digits as one whole number. -/
  coefficient : Nat
  /-- The power of ten they are multiplied by. -/
  exponent : Int
deriving DecidableEq, Repr

/-- The float nearest to a decimal. Beyond 400 powers of ten on either side of the digits the
answer no longer depends on them. -/
def Scientific.toFloat (d : Scientific) : Float :=
  let order := d.exponent + (digits d.coefficient).length
  if d.coefficient == 0 || order < -400 then 0.0
  else if order > 400 then 1.0 / 0.0
  else Float.ofScientific d.coefficient (d.exponent < 0) d.exponent.natAbs

/-- The exponent after a mantissa: nothing, or an `e` with a whole number. -/
def exponent? : List Char → Option Int
  | [] => some 0
  | c :: r => if c == 'e' || c == 'E' then integer? r else none

/-- An unsigned number with point and exponent; a digit must stand before or behind the point. -/
def scientific? (s : List Char) : Option Scientific :=
  let whole := s.takeWhile Char.isDigit
  let rest := s.dropWhile Char.isDigit
  let fraction := match rest with
    | '.' :: r => r.takeWhile Char.isDigit
    | _ => []
  let tail := match rest with
    | '.' :: r => r.dropWhile Char.isDigit
    | r => r
  if whole.isEmpty && fraction.isEmpty then none
  else (exponent? tail).map fun e =>
    ⟨Nat.ofDigitChars 10 (whole ++ fraction) 0, e - fraction.length⟩

/-- An unsigned number, or one of the words for what is not a finite number. -/
def magnitude? (s : List Char) : Option Float :=
  let word := s.map Char.toLower
  if word == "inf".toList || word == "infinity".toList then some (1.0 / 0.0)
  else if word == "nan".toList then some (0.0 / 0.0)
  else (scientific? s).map Scientific.toFloat

/-- A float with an optional sign. -/
def float? : List Char → Option Float
  | '-' :: r => (magnitude? r).map fun x => -x
  | '+' :: r => magnitude? r
  | s => magnitude? s

end WireSql.Decimal
