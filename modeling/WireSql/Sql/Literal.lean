import WireSql.StatementError

/-!
# `WireSql.Sql.Literal`: literal values

A literal is a quoted text, a number, a truth value or `NULL`. What stands between the quotes is
read with backslash escapes undone and doubled quotes halved. A number without point and exponent
that fits 64 bits is an integer, any other number a float.
-/

namespace WireSql.Sql

/-- The character that a backslash and `c` stand for together. -/
def escapedChar (c : Char) : Char :=
  if c == 'n' then '\n' else if c == 't' then '\t' else if c == '0' then '\x00' else c

/-- Undo the escapes of a text between two `mark`s: a backslash with the character behind it, and
a doubled mark. A backslash at the very end stands for itself. -/
def unescape (mark : Char) : List Char → List Char
  | [] => []
  | [c] => [c]
  | c :: d :: r =>
    if c == Text.backslash then escapedChar d :: unescape mark r
    else if c == mark && d == mark then mark :: unescape mark r
    else c :: unescape mark (d :: r)

/-- What stands between two `mark`s at the ends of a text, if they are there. -/
def between? (mark : Char) : List Char → Option (List Char)
  | c :: r => if c == mark && r.getLast? == some mark then some r.dropLast else none
  | [] => none

/-- Read a literal. -/
def literal (text : List Char) : Except StatementError Value :=
  let s := Text.trim text
  let word := s.map Char.toUpper
  if word == "NULL".toList then .ok .null
  else if word == "TRUE".toList then .ok (.bool true)
  else if word == "FALSE".toList then .ok (.bool false)
  else match between? Text.apostrophe s, between? Text.quotationMark s with
    | some body, _ => .ok (.text (String.ofList (unescape Text.apostrophe body)))
    | none, some body => .ok (.text (String.ofList (unescape Text.quotationMark body)))
    | none, none =>
      match Decimal.int64? s, Decimal.float? s with
      | some i, _ => .ok (.int i)
      | none, some x => .ok (.double x)
      | none, none => .error (.badLiteral (String.ofList s))

end WireSql.Sql
