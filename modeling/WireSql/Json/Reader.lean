import WireSql.Json.Basic
import WireSql.Decimal.Integer
import WireSql.NameMap

/-!
# `WireSql.Json.Reader`: what a document holds

Readers of the kinds of contents that documents have: numbers in their ranges, texts, lists, maps,
records and choices. `none` means that the document does not hold such a thing.

A record is an object with known members in any order, or an array of its members in the order of
their declaration. Unknown members are passed over; a known member may stand only once. A choice is
a name by itself, or an object with that name as its only member and the choice's contents under it.
-/

namespace WireSql.Json

/-! ## Numbers -/

/-- The value of a number without point and exponent. A zero with a minus sign has none: it is a
float. -/
def Number.integer? (n : Number) : Option Int :=
  match n.fraction, n.exponent with
  | none, none =>
    let v := Nat.ofDigitChars 10 n.whole 0
    if n.negative then (if v == 0 then none else some (-(v : Int))) else some v
  | _, _ => none

/-- The digits of a significand while it stays below `2 ^ 64`, and how many were taken. -/
def takeDigits : Nat → Nat → List Char → Nat × Nat
  | significand, taken, [] => (significand, taken)
  | significand, taken, c :: r =>
    let next := significand * 10 + (c.toNat - '0'.toNat)
    if next < UInt64.size then takeDigits next (taken + 1) r else (significand, taken)

/-- A float times a power of ten, by single multiplications and divisions; `none` where the answer
would be infinite. Three divisions by the greatest power make any significand zero. -/
def scaled? : Nat → Float → Int → Option Float
  | 0, x, _ => some x
  | fuel + 1, x, e =>
    if e.natAbs ≤ 308 then
      let power := Float.ofScientific 1 false e.natAbs
      if 0 ≤ e then
        let y := x * power
        if y.isInf then none else some y
      else some (x / power)
    else if x == 0.0 then some x
    else if 0 ≤ e then none
    else scaled? fuel (x / 1e308) (e + 308)

/-- The float of a number. At most 64 bits of its digits count; digits before the point that are
left out still count as powers of ten. -/
def Number.float? (n : Number) : Option Float :=
  let (s, taken) := takeDigits 0 0 n.whole
  let dropped : Int := n.whole.length - taken
  let (s, behind) := takeDigits s 0 (n.fraction.getD [])
  let start := dropped - behind
  let sign (x : Float) := if n.negative then -x else x
  match n.exponent with
  | none => (scaled? 4 (Float.ofNat s) start).map sign
  | some (negative, digits) =>
    let e := Nat.ofDigitChars 10 digits 0
    if e < Int32.size / 2 then
      (scaled? 4 (Float.ofNat s) (if negative then start - e else start + e)).map sign
    else if s != 0 && !negative then none
    else some (sign 0.0)

/-- A natural number below `2 ^ width`. -/
def asNat? (width : Nat) : Json → Option Nat
  | number n =>
    match n.integer? with
    | some (.ofNat v) => if v < Nat.pow 2 width then some v else none
    | _ => none
  | _ => none

/-- A 64-bit integer. -/
def asInt64? : Json → Option Int64
  | number n => n.integer?.bind Decimal.toInt64?
  | _ => none

/-- A float; an integer is one too. -/
def asFloat? : Json → Option Float
  | number n => n.float?
  | _ => none

/-! ## Texts, lists and maps -/

/-- One of the words `true` and `false`. -/
def asBool? : Json → Option Bool
  | bool b => some b
  | _ => none

/-- A text. -/
def asString? : Json → Option String
  | string s => s
  | _ => none

/-- `null`, or what `read` reads. -/
def asOption? {α : Type} (read : Json → Option α) : Json → Option (Option α)
  | null => some none
  | j => (read j).map some

/-- A list of what `read` reads. -/
def asList? {α : Type} (read : Json → Option α) : Json → Option (List α)
  | array items => items.mapM read
  | _ => none

/-- A map to what `read` reads; of members with one name the last counts. -/
def asMap? {α : Type} (read : Json → Option α) : Json → Option (NameMap α)
  | object members => do
    let entries ← members.mapM fun m => do return (← m.1, ← read m.2)
    return .ofEntries entries
  | _ => none

/-! ## Records and choices -/

/-- The value of a member that may stand only once; `none` where it stands twice. -/
def onlyMember? (members : List (Option String × Json)) (name : String) :
    Option (Option Json) :=
  match members.filter fun m => m.1 == some name with
  | [] => some none
  | [m] => some (some m.2)
  | _ => none

/-- The members of a record, in the order of their declaration, with `none` for a missing one. -/
def asRecord? (names : List String) : Json → Option (List (Option Json))
  | object members =>
    if members.all (·.1.isSome) then names.mapM (onlyMember? members) else none
  | array items =>
    if items.length ≤ names.length then
      some (items.map some ++ List.replicate (names.length - items.length) none)
    else none
  | _ => none

/-- A member of a record that has to be there. -/
def required? {α : Type} (read : Json → Option α) (m : Option Json) : Option α := m.bind read

/-- A member of a record that has a default. -/
def withDefault? {α : Type} (default : α) (read : Json → Option α) : Option Json → Option α
  | none => some default
  | some j => read j

/-- A choice: its name, and its contents where it has any. -/
def asChoice? : Json → Option (String × Option Json)
  | string s => s.map (·, none)
  | object [(name, contents)] => name.map (·, some contents)
  | _ => none

/-- Are these the contents of a choice that has none? -/
def isBare : Option Json → Bool
  | none => true
  | some null => true
  | _ => false

end WireSql.Json
