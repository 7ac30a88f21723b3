/-!
# `WireSql.Decimal.Integer`: whole numbers as decimal text

A whole number is read from an optional sign and at least one ASCII digit, with nothing around
them. Leading zeros are accepted, and how large the number may be is the reader's caller's concern:
`unsigned?` and `int64?` give the limits of the two kinds of field that occur.
-/

namespace WireSql.Decimal

/-- The decimal digits of `n`. -/
def digits (n : Nat) : List Char := Nat.toDigits 10 n

/-- The number written by a run of ASCII digits. -/
def digits? (s : List Char) : Option Nat :=
  if !s.isEmpty && s.all Char.isDigit then some (Nat.ofDigitChars 10 s 0) else none

/-- A number with an optional plus sign. -/
def natural? : List Char → Option Nat
  | '+' :: r => digits? r
  | s => digits? s

/-- A number with an optional sign. -/
def integer? : List Char → Option Int
  | '-' :: r => (digits? r).map fun n => -(n : Int)
  | s => (natural? s).map Int.ofNat

/-- A number with an optional plus sign that is below `2 ^ width`. -/
def unsigned? (width : Nat) (s : List Char) : Option Nat :=
  (natural? s).filter (· < Nat.pow 2 width)

/-- The 64-bit integer equal to `i`, if there is one. -/
def toInt64? (i : Int) : Option Int64 :=
  if Int64.minValue.toInt ≤ i && i ≤ Int64.maxValue.toInt then some (Int64.ofInt i) else none

/-- A 64-bit integer with an optional sign. -/
def int64? (s : List Char) : Option Int64 := (integer? s).bind toInt64?

theorem digits_ne_nil (n : Nat) : digits n ≠ [] := Nat.toDigits_ne_nil

theorem isDigit_of_mem_digits {n : Nat} {c : Char} (h : c ∈ digits n) : c.isDigit = true :=
  Nat.isDigit_of_mem_toDigits (by decide) (by decide) h

/-- Reading the digits of a number gives the number. -/
@[simp] theorem digits?_digits (n : Nat) : digits? (digits n) = some n := by
  have hall : (digits n).all Char.isDigit = true :=
    List.all_eq_true.2 fun c hc => isDigit_of_mem_digits hc
  have hne : (digits n).isEmpty = false := by simp [digits_ne_nil]
  simp only [digits?, hne, hall, Bool.not_false, Bool.and_self, if_true, Option.some.injEq]
  exact Nat.ofDigitChars_toDigits (by decide) (by decide)

theorem natural?_digits (n : Nat) : natural? (digits n) = some n := by
  obtain ⟨c, r, hcr⟩ := List.exists_cons_of_ne_nil (digits_ne_nil n)
  have hc : c.isDigit = true := isDigit_of_mem_digits (hcr ▸ List.mem_cons_self)
  rw [hcr, natural?]
  · rw [← hcr, digits?_digits]
  · rintro r' h
    cases h
    exact absurd hc (by decide)

theorem unsigned?_digits {width n : Nat} (h : n < Nat.pow 2 width) :
    unsigned? width (digits n) = some n := by
  rw [unsigned?, natural?_digits, Option.filter_some, if_pos (decide_eq_true h)]

theorem toList_repr_ofNat (n : Nat) : (Int.ofNat n).repr.toList = digits n := Nat.toList_repr

theorem toList_repr_negSucc (n : Nat) : (Int.negSucc n).repr.toList = '-' :: digits (n + 1) := by
  show ("-" ++ (n + 1).repr).toList = _
  rw [String.toList_append, Nat.toList_repr]
  rfl

/-- Reading the text of an integer gives the integer. -/
theorem integer?_repr (i : Int) : integer? i.repr.toList = some i := by
  cases i with
  | ofNat n =>
    obtain ⟨c, r, hcr⟩ := List.exists_cons_of_ne_nil (digits_ne_nil n)
    have hc : c.isDigit = true := isDigit_of_mem_digits (hcr ▸ List.mem_cons_self)
    rw [toList_repr_ofNat, hcr, integer?]
    · rw [← hcr, natural?_digits, Option.map_some]
    · rintro r' h
      cases h
      exact absurd hc (by decide)
  | negSucc n =>
    rw [toList_repr_negSucc, integer?, digits?_digits]
    rfl

theorem toInt64?_toInt (i : Int64) : toInt64? i.toInt = some i := by
  have hl : Int64.minValue.toInt ≤ i.toInt := Int64.le_iff_toInt_le.1 (Int64.minValue_le i)
  have hh : i.toInt ≤ Int64.maxValue.toInt := Int64.le_iff_toInt_le.1 (Int64.le_maxValue i)
  simp only [toInt64?, hl, hh, decide_true, Bool.and_self, if_true, Int64.ofInt_toInt]

theorem int64?_repr (i : Int64) : int64? i.toInt.repr.toList = some i := by
  rw [int64?, integer?_repr, Option.bind_some, toInt64?_toInt]

end WireSql.Decimal
