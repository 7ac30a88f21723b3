/-!
# `WireSql.Introspection.Regex`: regular expressions, as far as patterns are written in them

`Regex.read?` reads a regular expression made of single characters, escaped where they have a meaning, of
`.`, of the two anchors, and of stars behind what may be repeated, with a flag in front that makes it blind
to letter case. It reads nothing else.

`Regex.Finds` says that such an expression is found in a text. This is a search: only an anchor binds a match
to an end of the text.
-/

namespace WireSql.Introspection

namespace Regex

/-- What one character of a text is compared with. -/
inductive Atom where
  /-- Any character but the end of a line. -/
  | any
  | char (c : Char)
deriving DecidableEq, Repr

/-- A part of a regular expression. -/
inductive Token where
  | atom (a : Atom)
  /-- Any number of what stands in front. -/
  | star
  | start
  | stop
deriving DecidableEq, Repr

/-- The characters that have a meaning, and stand for themselves only behind a backslash. -/
def marks : List Char :=
  ['\\', '.', '+', '*', '?', '(', ')', '|', '[', ']', '\x7b', '\x7d', '^', '$', '#', '&', '-', '~']

/-- What a mark means, as far as it is read here. -/
def ofMark? (c : Char) : Option Token :=
  if c == '.' then some (.atom .any)
  else if c == '*' then some .star
  else if c == '^' then some .start
  else if c == '$' then some .stop
  else none

/-- The parts of a regular expression. -/
def tokens? : List Char → Option (List Token)
  | [] => some []
  | '\\' :: c :: r => if marks.contains c then (tokens? r).map (.atom (.char c) :: ·) else none
  | c :: r =>
    match if marks.contains c then ofMark? c else some (.atom (.char c)) with
    | some token => (tokens? r).map (token :: ·)
    | none => none

end Regex

/-- A regular expression. -/
structure Regex where
  /-- Are two characters the same if they fold to the same one? -/
  ignoresCase : Bool
  tokens : List Regex.Token
deriving DecidableEq, Repr

namespace Regex

/-- Read a regular expression. -/
def read? : List Char → Option Regex
  | '(' :: '?' :: 'i' :: ')' :: r => (tokens? r).map (⟨true, ·⟩)
  | s => (tokens? s).map (⟨false, ·⟩)

/-- An atom accepts a character of the text. -/
def Atom.Accepts (fold : Char → Char) : Atom → Char → Prop
  | .any, d => d ≠ '\n'
  | .char c, d => fold c = fold d

/-- **The parts match at a place of a text**: in front of it stands what has been passed, and behind it what
is left. -/
def Matches (fold : Char → Char) : List Token → List Char → List Char → Prop
  | [], _, _ => True
  | .start :: r, passed, left => passed = [] ∧ Matches fold r passed left
  | .stop :: r, passed, left => left = [] ∧ Matches fold r passed left
  | .atom a :: .star :: r, passed, left =>
    ∃ run rest, left = run ++ rest ∧ (∀ c ∈ run, a.Accepts fold c) ∧ Matches fold r (passed ++ run) rest
  | .atom a :: r, passed, left =>
    ∃ c rest, left = c :: rest ∧ a.Accepts fold c ∧ Matches fold r (passed ++ [c]) rest
  | .star :: _, _, _ => False

/-- **The expression is found in a text**, at any place of it. -/
def Finds (fold : Char → Char) (regex : Regex) (s : List Char) : Prop :=
  ∃ passed left, s = passed ++ left ∧
    Matches (if regex.ignoresCase then fold else id) regex.tokens passed left

end Regex

end WireSql.Introspection
