import WireSql.Decimal.Binary
import WireSql.StatementError

/-!
# `WireSql.Table.Coercion`: fitting a value to a column

A column stores one kind of value, whatever kind the literal was. `ColumnType.coerce` turns a
literal into that kind or says why it cannot. NULL fits every column and stays NULL.
-/

namespace WireSql.ColumnType

/-- The truth value that a value stands for. -/
def truth? : Value → Option Bool
  | .bool b => some b
  | .int i => some (i != 0)
  | .text s =>
    if Text.sameIgnoringCase s "true" then some true
    else if Text.sameIgnoringCase s "false" then some false
    else none
  | _ => none

/-- The integer that a value stands for; a float is rounded, a text is trimmed and read. -/
def whole? : Value → Option Int64
  | .double x => some (Decimal.roundToInt64 x)
  | .text s => Decimal.int64? (Text.trim s.toList)
  | v => v.asInt64?

/-- The float that a value stands for, with one for true and zero for false. -/
def real? (v : Value) : Option Float :=
  v.asFloat?.or (v.asInt64?.map Value.floatOfInt64)

/-- The value that a column of this type, with this name, stores for a literal. -/
def coerce (type : ColumnType) (column : String) (v : Value) : Except StatementError Value :=
  if v.isNull then .ok .null
  else
    let orBad (w : Option Value) := (w.map Except.ok).getD (.error (.badValue type v column))
    let text := v.toText.getD ""
    match type with
    | int | bigInt => orBad ((whole? v).map .int)
    | float | double => orBad ((real? v).map .double)
    | boolean => orBad ((truth? v).map .bool)
    | varChar limit =>
      if limit.toNat < text.length then .error (.tooLong column) else .ok (.text text)
    | ColumnType.text | date | dateTime => .ok (.text text)

@[simp] theorem coerce_null (type : ColumnType) (column : String) :
    type.coerce column .null = .ok .null := rfl

end WireSql.ColumnType
