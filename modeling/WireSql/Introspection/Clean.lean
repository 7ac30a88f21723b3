import WireSql.Text.Blank

/-!
# `WireSql.Introspection.Clean`: statements without comments

Before a statement is looked at, its comments become blanks and its blanks single spaces. There are
two kinds of comment: from `/*` to the next `*/`, and from `--` or `#` to the end of the line. The
first kind goes first, so that a line comment inside a block is gone with the block. Quotes do not
protect anything.
-/

namespace WireSql.Introspection

open Text

/-- How many characters the text has up to the end of the next `*/`. -/
def blockEnd? : List Char → Option Nat
  | [] => none
  | '*' :: '/' :: _ => some 2
  | _ :: r => (blockEnd? r).map (· + 1)

/-- How many characters a comment from `/*` to `*/` takes up at the front of the text. A `/*` that
is never closed is no comment. -/
def blockComment? : List Char → Option Nat
  | '/' :: '*' :: r => (blockEnd? r).map (· + 2)
  | _ => none

/-- The text with one space in place of every comment from `/*` to `*/`, with `skip` characters
still belonging to a comment found before. -/
def dropBlockCommentsFrom : Nat → List Char → List Char
  | _, [] => []
  | skip + 1, _ :: r => dropBlockCommentsFrom skip r
  | 0, c :: r =>
    match blockComment? (c :: r) with
    | some length => ' ' :: dropBlockCommentsFrom (length - 1) r
    | none => c :: dropBlockCommentsFrom 0 r

/-- The text with one space in place of every comment from `/*` to `*/`. -/
def dropBlockComments (s : List Char) : List Char := dropBlockCommentsFrom 0 s

/-- The text with one space in place of every comment up to the end of its line; `skipping` says
that the text begins inside such a comment. -/
def dropLineCommentsFrom : Bool → List Char → List Char
  | _, [] => []
  | true, c :: r =>
    if c == '\n' then c :: dropLineCommentsFrom false r else dropLineCommentsFrom true r
  | false, c :: r =>
    if c == '#' || (c == '-' && r.head? == some '-') then ' ' :: dropLineCommentsFrom true r
    else c :: dropLineCommentsFrom false r

/-- The text with one space in place of every comment up to the end of its line. -/
def dropLineComments (s : List Char) : List Char := dropLineCommentsFrom false s

/-- The text with every run of blanks as one space; `inBlanks` says that a blank stands in front. -/
def squeezeFrom : Bool → List Char → List Char
  | _, [] => []
  | inBlanks, c :: r =>
    if isBlank c then (if inBlanks then squeezeFrom true r else ' ' :: squeezeFrom true r)
    else c :: squeezeFrom false r

/-- The text with every run of blanks as one space. -/
def squeezeBlanks (s : List Char) : List Char := squeezeFrom false s

/-- A statement without comments, with single spaces, and without semicolons at its end. -/
def cleanChars (s : List Char) : List Char :=
  trimEnd (dropEndWhile (· == ';') (trim (squeezeBlanks (dropLineComments (dropBlockComments s)))))

/-- A statement without comments, with single spaces, and without semicolons at its end. -/
def clean (sql : String) : String := String.ofList (cleanChars sql.toList)

end WireSql.Introspection
