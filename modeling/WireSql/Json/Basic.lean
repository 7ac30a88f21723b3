/-!
# `WireSql.Json`: documents as trees

Documents are JSON texts. A tree keeps what the text said: a number is kept digit by digit, since
an integer and a float of the same value are different things to a reader, and the members of an
object keep their order and may repeat a name.

A string may hold an escaped half of a surrogate pair, which is no character. Such a string is
`none` in the tree: it is an error where the string is wanted and does no harm elsewhere.
-/

namespace WireSql

namespace Json

/-- A number as it is written. -/
structure Number where
  negative : Bool := false
  /-- The digits before the point; never empty, and no zero in front of another digit. -/
  whole : List Char
  /-- The digits behind the point, where there is one. -/
  fraction : Option (List Char) := none
  /-- Whether the exponent is negative, and its digits, where there is one. -/
  exponent : Option (Bool × List Char) := none
deriving DecidableEq, Repr

end Json

/-- A document. -/
inductive Json where
  | null
  | bool (b : Bool)
  | number (n : Json.Number)
  /-- A string; `none` for one that holds half of a surrogate pair. -/
  | string (s : Option String)
  | array (items : List Json)
  | object (members : List (Option String × Json))
deriving Inhabited

end WireSql
