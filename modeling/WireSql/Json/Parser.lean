import WireSql.Json.Basic

/-!
# `WireSql.Json.Parser`: reading a document

The grammar is the strict one: no blanks but space, tab and line ends, no control characters in
strings, no zero in front of a number, no comma before a closing bracket, and nothing behind the
document. `parse?` answers `none` for any other text.

Nesting is bounded by the length of the text: every bracket takes up a character, so a counter
that starts above the length never runs out.
-/

namespace WireSql.Json

/-- May the character stand between the parts of a document? -/
def isGap (c : Char) : Bool := c == ' ' || c == '\n' || c == '\t' || c == '\r'

/-- The text without the gap in front of it. -/
def skipGap (s : List Char) : List Char := s.dropWhile isGap

/-- What follows a character, behind a gap. -/
def after? (c : Char) (s : List Char) : Option (List Char) :=
  match skipGap s with
  | d :: r => if c == d then some r else none
  | [] => none

/-- What follows a word at the front of the text. -/
def afterWord? : List Char → List Char → Option (List Char)
  | [], s => some s
  | w :: ws, c :: s => if w == c then afterWord? ws s else none
  | _ :: _, [] => none

/-! ## Strings -/

/-- The value of a hexadecimal digit. -/
def hexValue? (c : Char) : Option Nat :=
  if c.isDigit then some (c.toNat - '0'.toNat)
  else if 'a' ≤ c && c ≤ 'f' then some (c.toNat - 'a'.toNat + 10)
  else if 'A' ≤ c && c ≤ 'F' then some (c.toNat - 'A'.toNat + 10)
  else none

/-- The value of four hexadecimal digits. -/
def hexValue4? (a b c d : Char) : Option Nat := do
  return (((← hexValue? a) * 16 + (← hexValue? b)) * 16 + (← hexValue? c)) * 16 + (← hexValue? d)

/-- The character that a backslash and `c` stand for, other than a code. -/
def unescapeChar? (c : Char) : Option Char :=
  if c == '\x22' || c == '\\' || c == '/' then some c
  else if c == 'b' then some '\x08'
  else if c == 'f' then some '\x0c'
  else if c == 'n' then some '\n'
  else if c == 'r' then some '\r'
  else if c == 't' then some '\t'
  else none

/-- One unit of a string: a character, or an escaped code unit of 16 bits. -/
inductive Piece where
  /-- A character that stands for itself or is escaped by a letter. -/
  | char (c : Char)
  /-- A code unit escaped by its number. -/
  | unit (n : Nat)
deriving DecidableEq, Repr

/-- Read the pieces of a string up to its closing mark, and what follows it. -/
def pieces? : List Char → Option (List Piece × List Char)
  | [] => none
  | '\x22' :: r => some ([], r)
  | '\\' :: 'u' :: a :: b :: c :: d :: r => do
    let n ← hexValue4? a b c d
    let (rest, r) ← pieces? r
    some (.unit n :: rest, r)
  | '\\' :: c :: r => do
    let c ← unescapeChar? c
    let (rest, r) ← pieces? r
    some (.char c :: rest, r)
  | c :: r =>
    if c.toNat < 0x20 || c == '\\' then none
    else (pieces? r).map fun m => (.char c :: m.1, m.2)

/-- The characters of a string; a high and a low half of a surrogate pair make one character, and
a half by itself makes none. -/
def chars? : List Piece → Option (List Char)
  | [] => some []
  | .char c :: r => (chars? r).map (c :: ·)
  | [.unit n] => if 0xD800 ≤ n && n ≤ 0xDFFF then none else some [Char.ofNat n]
  | .unit n :: p :: r =>
    if 0xD800 ≤ n && n ≤ 0xDBFF then
      match p with
      | .unit m =>
        if 0xDC00 ≤ m && m ≤ 0xDFFF then
          (chars? r).map (Char.ofNat (0x10000 + (n - 0xD800) * 0x400 + (m - 0xDC00)) :: ·)
        else none
      | .char _ => none
    else if 0xDC00 ≤ n && n ≤ 0xDFFF then none
    else (chars? (p :: r)).map (Char.ofNat n :: ·)

/-- Read a string behind its opening mark. -/
def stringBody? (s : List Char) : Option (Option String × List Char) :=
  (pieces? s).map fun m => ((chars? m.1).map String.ofList, m.2)

/-! ## Numbers -/

/-- Read at least one digit. -/
def digitRun? (s : List Char) : Option (List Char × List Char) :=
  match s.span Char.isDigit with
  | ([], _) => none
  | m => some m

/-- Read the exponent of a number, if one stands here. -/
def exponent? (s : List Char) : Option (Option (Bool × List Char) × List Char) :=
  match s with
  | [] => some (none, [])
  | e :: r =>
    if e == 'e' || e == 'E' then
      match r with
      | '-' :: r => (digitRun? r).map fun m => (some (true, m.1), m.2)
      | '+' :: r => (digitRun? r).map fun m => (some (false, m.1), m.2)
      | r => (digitRun? r).map fun m => (some (false, m.1), m.2)
    else some (none, s)

/-- Read the digits behind a point, if one stands here. -/
def fraction? : List Char → Option (Option (List Char) × List Char)
  | '.' :: r => (digitRun? r).map fun m => (some m.1, m.2)
  | s => some (none, s)

/-- Read a number without its sign. -/
def unsigned? (negative : Bool) (s : List Char) : Option (Number × List Char) := do
  let (whole, s) ← digitRun? s
  if whole.length > 1 && whole.head? == some '0' then none
  else
    let (fraction, s) ← fraction? s
    let (exponent, s) ← exponent? s
    some ({ negative, whole, fraction, exponent }, s)

/-- Read a number. -/
def number? : List Char → Option (Number × List Char)
  | '-' :: r => unsigned? true r
  | s => unsigned? false s

/-! ## Documents -/

/-- Read a member's name and the colon behind it. -/
def name? (s : List Char) : Option (Option String × List Char) := do
  let (name, r) ← stringBody? (← after? '\x22' s)
  some (name, ← after? ':' r)

mutual

/-- Read a document. -/
def value? : Nat → List Char → Option (Json × List Char)
  | 0, _ => none
  | fuel + 1, s =>
    match skipGap s with
    | '\x22' :: r => (stringBody? r).map fun m => (.string m.1, m.2)
    | '[' :: r =>
      match after? ']' r with
      | some r => some (.array [], r)
      | none => do
        let (first, r) ← value? fuel r
        let (items, r) ← items? fuel r
        some (.array (first :: items), r)
    | '\x7b' :: r =>
      match after? '\x7d' r with
      | some r => some (.object [], r)
      | none => do
        let (name, r) ← name? r
        let (value, r) ← value? fuel r
        let (members, r) ← members? fuel r
        some (.object ((name, value) :: members), r)
    | 'n' :: r => (afterWord? "ull".toList r).map (.null, ·)
    | 't' :: r => (afterWord? "rue".toList r).map (.bool true, ·)
    | 'f' :: r => (afterWord? "alse".toList r).map (.bool false, ·)
    | r => (number? r).map fun m => (.number m.1, m.2)

/-- Read the items of an array behind the first, up to its end. -/
def items? : Nat → List Char → Option (List Json × List Char)
  | 0, _ => none
  | fuel + 1, s =>
    match skipGap s with
    | ']' :: r => some ([], r)
    | ',' :: r => do
      let (item, r) ← value? fuel r
      let (items, r) ← items? fuel r
      some (item :: items, r)
    | _ => none

/-- Read the members of an object behind the first, up to its end. -/
def members? : Nat → List Char → Option (List (Option String × Json) × List Char)
  | 0, _ => none
  | fuel + 1, s =>
    match skipGap s with
    | '\x7d' :: r => some ([], r)
    | ',' :: r => do
      let (name, r) ← name? r
      let (value, r) ← value? fuel r
      let (members, r) ← members? fuel r
      some ((name, value) :: members, r)
    | _ => none

end

/-- Read a text as one document. -/
def parse? (text : List Char) : Option Json := do
  let (j, r) ← value? (text.length + 1) text
  if (skipGap r).isEmpty then some j else none

end WireSql.Json
