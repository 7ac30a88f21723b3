/-!
# `WireSql.Text.Ascii`: comparison that ignores ASCII letter case

Names of columns, types and variables are compared with the letters `A` to `Z` equal to `a` to
`z`; every other character is equal to itself alone. `Char.toUpper` and `Char.toLower` change ASCII
letters only, which is the rule wanted here.
-/

namespace WireSql.Text

/-- The apostrophe, one of the two marks around a text literal. -/
def apostrophe : Char := '\x27'

/-- The double quotation mark, the other mark around a text literal. -/
def quotationMark : Char := '\x22'

/-- The mark around a quoted identifier. -/
def backtick : Char := '\x60'

/-- The mark that takes the next character of a text literal as it is. -/
def backslash : Char := '\x5c'

/-- Are two texts equal, ignoring ASCII letter case? -/
def sameIgnoringCase (a b : String) : Bool :=
  a.toList.map Char.toUpper == b.toList.map Char.toUpper

/-- What follows `lead` at the front of `s`, ignoring ASCII letter case. -/
def afterIgnoringCase? (lead : String) (s : List Char) : Option (List Char) :=
  go lead.toList s
where
  /-- Compare character by character. -/
  go : List Char → List Char → Option (List Char)
    | [], s => some s
    | _ :: _, [] => none
    | l :: ls, c :: s => if l.toUpper == c.toUpper then go ls s else none

/-- Does `s` begin with `lead`, ignoring ASCII letter case? -/
def startsIgnoringCase (lead : String) (s : List Char) : Bool :=
  (afterIgnoringCase? lead s).isSome

theorem sameIgnoringCase_refl (a : String) : sameIgnoringCase a a = true := by
  simp [sameIgnoringCase]

theorem sameIgnoringCase_comm (a b : String) : sameIgnoringCase a b = sameIgnoringCase b a := by
  rw [Bool.eq_iff_iff]
  simp only [sameIgnoringCase, beq_iff_eq]
  exact eq_comm

theorem sameIgnoringCase_trans {a b c : String} (h : sameIgnoringCase a b = true)
    (h' : sameIgnoringCase b c = true) : sameIgnoringCase a c = true := by
  simp only [sameIgnoringCase, beq_iff_eq] at *
  exact h.trans h'

end WireSql.Text
