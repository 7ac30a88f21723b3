/-!
# `WireSql.Text.Blank`: blanks and trimming

A *blank* is a character with the property `White_Space`. Statements, names and literals are
trimmed of blanks on both sides, and blanks separate the words of a statement.

Every function works on `List Char`; the text of a `String` is its `toList`.
-/

namespace WireSql.Text

/-- Is `c` a character with the property `White_Space`? -/
def isBlank (c : Char) : Bool :=
  let n := c.toNat
  (0x9 ≤ n && n ≤ 0xD) || n == 0x20 || n == 0x85 || n == 0xA0 || n == 0x1680 ||
    (0x2000 ≤ n && n ≤ 0x200A) || n == 0x2028 || n == 0x2029 || n == 0x202F || n == 0x205F ||
    n == 0x3000

/-- The text without its leading blanks. -/
def skipBlanks (s : List Char) : List Char := s.dropWhile isBlank

/-- The text after a run of at least one blank. -/
def afterBlanks? : List Char → Option (List Char)
  | [] => none
  | c :: r => if isBlank c then some (skipBlanks r) else none

/-- The text without the characters at its end that satisfy `p`. -/
def dropEndWhile (p : Char → Bool) (s : List Char) : List Char := (s.reverse.dropWhile p).reverse

/-- The text without the characters at either end that satisfy `p`. -/
def dropAroundWhile (p : Char → Bool) (s : List Char) : List Char :=
  dropEndWhile p (s.dropWhile p)

/-- The text without blanks at its end. -/
def trimEnd (s : List Char) : List Char := dropEndWhile isBlank s

/-- The text without blanks at either end. -/
def trim (s : List Char) : List Char := dropAroundWhile isBlank s

@[simp] theorem skipBlanks_nil : skipBlanks [] = [] := rfl

theorem skipBlanks_cons_of_not_blank {c : Char} {r : List Char} (h : isBlank c = false) :
    skipBlanks (c :: r) = c :: r := by
  simp [skipBlanks, h]

@[simp] theorem trim_nil : trim [] = [] := rfl

end WireSql.Text
