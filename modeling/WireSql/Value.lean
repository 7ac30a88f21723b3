import WireSql.Decimal.Real
import WireSql.Decimal.Shortest

/-!
# `WireSql.Value`: the values a cell can hold

A value is NULL, a truth value, a 64-bit integer, a float or a text. Results carry values as text
(`Value.toText`), where NULL is the absence of a text and so differs from the empty one.

`Value.equals` is the `=` of a condition: NULL equals nothing, integers and texts equal only what
is identical, and a mixed pair is compared as numbers where both sides are numbers and as text
where one is not.
-/

namespace WireSql

/-- A value of a cell or a literal. -/
inductive Value where
  | null
  | bool (b : Bool)
  | int (i : Int64)
  | double (x : Float)
  | text (s : String)
deriving DecidableEq, Inhabited

namespace Value

/-- Is this NULL? -/
def isNull : Value → Bool
  | null => true
  | _ => false

/-- The name of the value's type. -/
def typeName : Value → String
  | null => "NULL"
  | bool _ => "BOOLEAN"
  | int _ => "BIGINT"
  | double _ => "DOUBLE"
  | text _ => "TEXT"

/-- The integer that an integer or a truth value stands for. -/
def asInt64? : Value → Option Int64
  | int i => some i
  | bool b => some (if b then 1 else 0)
  | _ => none

/-- The float nearest to an integer. -/
def floatOfInt64 (i : Int64) : Float := Float.ofInt i.toInt

/-- The float that a float, an integer or the text of a number stands for. -/
def asFloat? : Value → Option Float
  | double x => some x
  | int i => some (floatOfInt64 i)
  | text s => Decimal.float? s.toList
  | _ => none

/-- The text of a text value. -/
def asText? : Value → Option String
  | text s => some s
  | _ => none

/-- The text that stands for the value in a result; NULL has none. -/
def toText : Value → Option String
  | null => none
  | bool b => some (if b then "1" else "0")
  | int i => some i.toInt.repr
  | double x => some (Decimal.plainText x)
  | text s => some s

/-- The text that stands for the value in a message. -/
def display (v : Value) : String := v.toText.getD "NULL"

/-- Two numbers closer than this are equal: the gap between one and the next float. -/
def tolerance : Float := 2.220446049250313e-16

/-- Are two floats equal within the tolerance? An infinity equals nothing. -/
def closeTo (x y : Float) : Bool := (x - y).abs < tolerance

/-- The `=` of a condition. -/
def equals : Value → Value → Bool
  | null, _ => false
  | _, null => false
  | text s, text t => s == t
  | int i, int j => i == j
  | v, w =>
    match v.asFloat?, w.asFloat? with
    | some x, some y => closeTo x y
    | _, _ => v.toText == w.toText

/-- Do two values hold the same contents? Unlike equality of values this takes floats by their
numbers: zeros of either sign are the same, and what is no number is not the same as itself. -/
def same : Value → Value → Bool
  | null, null => true
  | bool a, bool b => a == b
  | int i, int j => i == j
  | double x, double y => x == y
  | text s, text t => s == t
  | _, _ => false

/-- The value of an optional text. -/
def ofText? : Option String → Value
  | some s => text s
  | none => null

@[simp] theorem equals_null_left (v : Value) : equals null v = false := by cases v <;> rfl

@[simp] theorem equals_null_right (v : Value) : equals v null = false := by cases v <;> rfl

@[simp] theorem equals_text (s t : String) : equals (text s) (text t) = (s == t) := rfl

@[simp] theorem equals_int (i j : Int64) : equals (int i) (int j) = (i == j) := rfl

end Value

end WireSql
