import WireSql.Text.Blank

/-!
# `WireSql.Text.Keyword`: keywords at the front of a text

Keywords match whatever the letter case, under simple case folding. Two characters outside ASCII
fold to an ASCII letter: the long s (U+017F) to `s` and the kelvin sign (U+212A) to `k`.
-/

namespace WireSql.Text

/-- Simple case folding, on the characters whose folding class holds an ASCII letter; every other
character folds to itself. -/
def fold (c : Char) : Char :=
  if c.toNat == 0x17F then 's' else if c.toNat == 0x212A then 'k' else c.toLower

/-- Is `c` a letter `A` to `Z` in either case, or one that folds to such a letter? -/
def isLatinLetter (c : Char) : Bool := (fold c).isLower

/-- What follows the keyword `word` at the front of `s`. -/
def afterKeyword? (word : String) (s : List Char) : Option (List Char) :=
  go word.toList s
where
  /-- Compare character by character. -/
  go : List Char → List Char → Option (List Char)
    | [], s => some s
    | _ :: _, [] => none
    | w :: ws, c :: s => if fold w == fold c then go ws s else none

/-- What follows keywords that stand at the front of `s` with blanks between them. -/
def afterWords? : List String → List Char → Option (List Char)
  | [], s => some s
  | [w], s => afterKeyword? w s
  | w :: ws, s => do afterWords? ws (← afterBlanks? (← afterKeyword? w s))

/-- What follows keywords and the blanks after the last of them. -/
def afterPhrase? (words : List String) (s : List Char) : Option (List Char) := do
  afterBlanks? (← afterWords? words s)

end WireSql.Text
