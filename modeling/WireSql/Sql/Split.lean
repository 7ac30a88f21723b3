import WireSql.Text.Ascii

/-!
# `WireSql.Sql.Split`: cutting a list at its top level

The lists inside a statement are cut at commas, its conditions at the word `AND`, but only outside
quotes and parentheses. A backslash inside `'` or `"` takes the next character as it is; a doubled
quote closes and opens again, which leaves the scan inside the quote as it should.

`cut` keeps the separators it finds, so that nothing of the text is lost: `join_cut` puts parts and
separators together again.
-/

namespace WireSql.Sql

/-- What separates the items of a list. -/
inductive Separator where
  | comma
  /-- The word `AND`, in any letter case, with one blank character on either side. -/
  | conjunction
deriving DecidableEq, Repr

/-- The blank characters that may stand around `AND`. -/
def isPlainBlank (c : Char) : Bool :=
  c == ' ' || c == '\t' || c == '\n' || c == '\r' || c == '\x0c'

/-- How many characters the separator takes up. -/
def Separator.width : Separator → Nat
  | comma => 1
  | conjunction => 5

/-- Does the separator stand at the front of the text? -/
def Separator.heads : Separator → List Char → Bool
  | comma, c :: _ => c == ','
  | conjunction, c₁ :: a :: n :: d :: c₂ :: _ =>
    isPlainBlank c₁ && a.toUpper == 'A' && n.toUpper == 'N' && d.toUpper == 'D' && isPlainBlank c₂
  | _, _ => false

/-- Where a scan stands between two characters. -/
structure Scan where
  /-- The mark that closes the quote the scan is in. -/
  quote : Option Char := none
  /-- Whether a backslash takes the next character of a quote as it is. -/
  escaped : Bool := false
  /-- How many parentheses are open. -/
  depth : Nat := 0
deriving DecidableEq, Repr

/-- Is the scan outside quotes and parentheses? -/
def Scan.isTop (s : Scan) : Bool := s.quote.isNone && s.depth == 0

/-- Is `c` a mark that opens a quote? -/
def isQuote (c : Char) : Bool :=
  c == Text.apostrophe || c == Text.quotationMark || c == Text.backtick

/-- The scan after one more character. -/
def Scan.next (s : Scan) (c : Char) : Scan :=
  match s.quote with
  | some q =>
    if s.escaped then { s with escaped := false }
    else if c == Text.backslash && q != Text.backtick then { s with escaped := true }
    else if c == q then { s with quote := none }
    else s
  | none =>
    if isQuote c then { s with quote := some c }
    else if c == '(' then { s with depth := s.depth + 1 }
    else if c == ')' then { s with depth := s.depth - 1 }
    else s

/-- A text cut into parts: every part but the last with the separator behind it, and the last. -/
structure Cuts where
  /-- The parts before a separator, each with that separator. -/
  before : List (List Char × List Char)
  /-- The part after the last separator. -/
  last : List Char
deriving DecidableEq, Repr

/-- One more character in front of the first part. -/
def Cuts.cons (c : Char) : Cuts → Cuts
  | ⟨[], last⟩ => ⟨[], c :: last⟩
  | ⟨(part, separator) :: rest, last⟩ => ⟨(c :: part, separator) :: rest, last⟩

/-- The parts alone. -/
def Cuts.parts (c : Cuts) : List (List Char) := c.before.map Prod.fst ++ [c.last]

/-- The text that was cut. -/
def Cuts.join (c : Cuts) : List Char := c.before.flatMap (fun p => p.1 ++ p.2) ++ c.last

/-- Cut a text, with `skip` characters still belonging to a separator found before. -/
def cutFrom (separator : Separator) : Nat → Scan → List Char → Cuts
  | _, _, [] => ⟨[], []⟩
  | skip + 1, scan, _ :: r => cutFrom separator skip scan r
  | 0, scan, c :: r =>
    if scan.isTop && separator.heads (c :: r) then
      let rest := cutFrom separator (separator.width - 1) scan r
      { rest with before := ([], (c :: r).take separator.width) :: rest.before }
    else (cutFrom separator 0 (scan.next c) r).cons c

/-- Cut a text at its top level. -/
def cut (separator : Separator) (s : List Char) : Cuts := cutFrom separator 0 {} s

/-- The parts of a text between separators at its top level; there is always at least one. -/
def splitTopLevel (separator : Separator) (s : List Char) : List (List Char) :=
  (cut separator s).parts

@[simp] theorem Cuts.join_cons (c : Char) (p : Cuts) : (p.cons c).join = c :: p.join := by
  rcases p with ⟨_ | ⟨⟨part, separator⟩, rest⟩, last⟩ <;> simp [Cuts.cons, Cuts.join]

/-- Cutting drops the rest of a separator and loses nothing else. -/
theorem join_cutFrom (separator : Separator) (skip : Nat) (scan : Scan) (s : List Char) :
    (cutFrom separator skip scan s).join = s.drop skip := by
  induction s generalizing skip scan with
  | nil => simp [cutFrom, Cuts.join]
  | cons c r ih =>
    cases skip with
    | succ skip => simpa [cutFrom] using ih skip scan
    | zero =>
      rw [cutFrom]
      split
      · have h := ih (separator.width - 1) scan
        rw [Cuts.join] at h
        cases separator <;> simp_all [Cuts.join, Separator.width]
      · simp [ih]

/-- The parts and their separators make up the text. -/
theorem join_cut (separator : Separator) (s : List Char) : (cut separator s).join = s := by
  simp [cut, join_cutFrom]

end WireSql.Sql
