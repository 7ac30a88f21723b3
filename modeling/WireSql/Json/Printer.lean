import WireSql.Json.Basic
import WireSql.Decimal.Shortest

/-!
# `WireSql.Json.Printer`: the text of a document

A document is written with every item and member on a line of its own, indented by two blanks for
each level. Empty arrays and objects take up no line. In strings the quotation mark, the backslash
and the control characters are escaped, everything else stands for itself.
-/

namespace WireSql.Json

/-- A hexadecimal digit in small letters. -/
def hexDigit (n : Nat) : Char := (Nat.toDigits 16 (n % 16)).headD '0'

/-- A character as it stands in a string. -/
def escapeChar (c : Char) : List Char :=
  if c == '\x22' then ['\\', '\x22']
  else if c == '\\' then ['\\', '\\']
  else if c == '\n' then ['\\', 'n']
  else if c == '\r' then ['\\', 'r']
  else if c == '\t' then ['\\', 't']
  else if c == '\x08' then ['\\', 'b']
  else if c == '\x0c' then ['\\', 'f']
  else if c.toNat < 0x20 then
    ['\\', 'u', '0', '0', hexDigit (c.toNat / 16), hexDigit c.toNat]
  else [c]

/-- A string between quotation marks. -/
def quote (s : List Char) : List Char := '\x22' :: s.flatMap escapeChar ++ ['\x22']

/-- The text of a number. -/
def Number.text (n : Number) : List Char :=
  (if n.negative then ['-'] else []) ++ n.whole ++
    (match n.fraction with
      | some digits => '.' :: digits
      | none => []) ++
    (match n.exponent with
      | some (negative, digits) => 'e' :: (if negative then '-' else '+') :: digits
      | none => [])

/-- A new line at a level of nesting. -/
def newLine (level : Nat) : List Char := '\n' :: List.replicate (2 * level) ' '

mutual

/-- The text of a document at a level of nesting. -/
def renderAt (level : Nat) : Json → List Char
  | null => "null".toList
  | bool b => if b then "true".toList else "false".toList
  | number n => n.text
  | string s => quote (s.getD "").toList
  | array [] => ['[', ']']
  | array (item :: items) =>
    '[' :: newLine (level + 1) ++ renderAt (level + 1) item ++
      (renderItems (level + 1) items ++ (newLine level ++ [']']))
  | object [] => ['\x7b', '\x7d']
  | object ((name, value) :: members) =>
    '\x7b' :: newLine (level + 1) ++
      (quote (name.getD "").toList ++ ':' :: ' ' :: renderAt (level + 1) value) ++
      (renderMembers (level + 1) members ++ (newLine level ++ ['\x7d']))

/-- The text of the items behind the first, each behind a comma. -/
def renderItems (level : Nat) : List Json → List Char
  | [] => []
  | item :: items => ',' :: newLine level ++ renderAt level item ++ renderItems level items

/-- The text of the members behind the first, each behind a comma. -/
def renderMembers (level : Nat) : List (Option String × Json) → List Char
  | [] => []
  | (name, value) :: members =>
    ',' :: newLine level ++
      (quote (name.getD "").toList ++ ':' :: ' ' :: renderAt level value) ++
      renderMembers level members

end

/-- The text of a document. -/
def render (j : Json) : List Char := renderAt 0 j

/-! ## Numbers of the program -/

/-- The number of an integer. -/
def ofInt (i : Int) : Json := number { negative := i < 0, whole := Decimal.digits i.natAbs }

/-- The number of a natural number. -/
def ofNat (n : Nat) : Json := ofInt n

/-- The digits of a decimal with one digit before the point. -/
def scientific (negative : Bool) (d : Decimal.Significant) : Number :=
  let e := d.point - 1
  { negative
    whole := d.digits.take 1
    fraction := if d.digits.length ≤ 1 then none else some (d.digits.drop 1)
    exponent := some (e < 0, Decimal.digits e.natAbs) }

/-- The digits of a decimal with the point among them and at least one digit behind it. -/
def positional (negative : Bool) (d : Decimal.Significant) : Number :=
  let s := d.positional 1
  { negative, whole := s.takeWhile (· != '.'), fraction := some ((s.dropWhile (· != '.')).drop 1) }

/-- The number of a float: the fewest digits that read back, of two equally near decimals the even
one, and an exponent only outside the powers of ten from `-5` to `15`. What is no number, or not
finite, is `null`. -/
def ofFloat (x : Float) : Json :=
  match Decimal.Parts.ofFloat x with
  | .finite negative m q narrow =>
    let d := if m == 0 then .zero else Decimal.shortest .even m q narrow
    let e := d.point - 1
    if m == 0 || (-5 ≤ e && e ≤ 15) then number (positional negative d)
    else number (scientific negative d)
  | _ => null

/-- The document of a string. -/
def ofString (s : String) : Json := string (some s)

end WireSql.Json
