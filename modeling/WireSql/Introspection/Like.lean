import WireSql.Text.Keyword

/-!
# `WireSql.Introspection.Like`: patterns of names

In a pattern `%` stands for any run of characters and `_` for any single one. Every other character
stands for itself, whatever its letter case.

`Like.covers` decides whether a pattern covers a name. It goes through the pattern once and keeps
the ends of the name that may still be left, longest first, so that the work is bounded by the
product of the two lengths however many `%` there are.

`Like.toRegex` writes the same pattern as a regular expression.
-/

namespace WireSql.Introspection.Like

/-- A text and all its ends, longest first. -/
def ends : List Char → List (List Char)
  | [] => [[]]
  | c :: r => (c :: r) :: ends r

/-- What is left of an end of the name behind one pattern character that is not `%`. -/
def step (p : Char) : List Char → Option (List Char)
  | [] => none
  | c :: r => if p == '_' || Text.fold p == Text.fold c then some r else none

/-- The ends of the name that may be left behind one pattern character. -/
def advance (left : List (List Char)) (p : Char) : List (List Char) :=
  if p == '%' then
    match left with
    | [] => []
    | longest :: _ => ends longest
  else left.filterMap (step p)

/-- Does the pattern cover the name? -/
def coversChars (pattern name : List Char) : Bool :=
  (pattern.foldl advance [name]).contains []

/-- Does the pattern cover the name? -/
def covers (pattern name : String) : Bool := coversChars pattern.toList name.toList

/-- The characters that a regular expression gives a meaning. -/
def regexMarks : List Char :=
  ['\\', '.', '+', '*', '?', '(', ')', '|', '[', ']', '\x7b', '\x7d', '^', '$', '#', '&', '-', '~']

/-- One pattern character in a regular expression. -/
def regexPart (c : Char) : List Char :=
  if c == '%' then ['.', '*']
  else if c == '_' then ['.']
  else if regexMarks.contains c then ['\\', c]
  else [c]

/-- The pattern as a regular expression, bound to both ends of a name and blind to letter case. -/
def toRegex (pattern : String) : String :=
  String.ofList ("(?i)^".toList ++ pattern.toList.flatMap regexPart ++ ['$'])

end WireSql.Introspection.Like
