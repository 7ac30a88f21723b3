import WireSql.Json.Parser
import WireSql.Json.Printer
import WireSql.Proofs.Decimal.Shortest

/-!
# `WireSql.Proofs.Json.Numbers`: numbers read back digit by digit

A number that is formed as the grammar wants it (`Number.WellFormed`) is read from its text just as it
was, whatever follows that a number cannot go on with (`number?_text`). The numbers that the program
writes are formed so: those of integers (`wellFormed_ofInt`), and those of floats (`ofFloat_cases`), with or
without an exponent.
-/

namespace WireSql.Json

/-! ## Well-formed numbers -/

/-- At least one digit, and nothing else. -/
structure DigitRun (s : List Char) : Prop where
  ne_nil : s ≠ []
  isDigit : ∀ c ∈ s, c.isDigit = true

/-- **A number as the grammar wants it.** -/
structure Number.WellFormed (n : Number) : Prop where
  whole : DigitRun n.whole
  /-- No zero stands in front of another digit. -/
  leading : 1 < n.whole.length → n.whole.head? ≠ some '0'
  fraction : ∀ digits ∈ n.fraction, DigitRun digits
  exponent : ∀ e ∈ n.exponent, DigitRun e.2

/-- May a number end in front of the text? -/
def EndsNumber (rest : List Char) : Prop :=
  ∀ c ∈ rest.head?, c.isDigit = false ∧ c ≠ '.' ∧ c ≠ 'e' ∧ c ≠ 'E'

theorem endsNumber_nil : EndsNumber [] := by
  intro c hc
  cases hc

theorem endsNumber_cons {c : Char} (r : List Char) (hdigit : c.isDigit = false)
    (hmark : c ≠ '.' ∧ c ≠ 'e' ∧ c ≠ 'E') : EndsNumber (c :: r) := by
  intro d hd
  obtain rfl : c = d := by simpa using hd
  exact ⟨hdigit, hmark⟩

/-! ## Reading -/

/-- Digits are read up to what is no digit. -/
theorem digitRun?_append {ds rest : List Char} (hds : DigitRun ds)
    (hrest : ∀ c ∈ rest.head?, c.isDigit = false) : digitRun? (ds ++ rest) = some (ds, rest) := by
  have hspan : (ds ++ rest).span Char.isDigit = (ds, rest) := by
    rw [List.span_eq_takeWhile_dropWhile, List.takeWhile_append_of_pos hds.isDigit,
      List.dropWhile_append_of_pos hds.isDigit]
    cases rest with
    | nil => simp
    | cons c r =>
      have hc : c.isDigit = false := hrest c rfl
      simp [hc]
  obtain ⟨c, r, rfl⟩ := List.exists_cons_of_ne_nil hds.ne_nil
  unfold digitRun?
  rw [hspan]

/-- The text of the digits behind a point. -/
def fractionText : Option (List Char) → List Char
  | some digits => '.' :: digits
  | none => []

/-- The text of an exponent. -/
def exponentText : Option (Bool × List Char) → List Char
  | some (negative, digits) => 'e' :: (if negative then '-' else '+') :: digits
  | none => []

theorem text_eq (n : Number) :
    n.text = (if n.negative then ['-'] else []) ++ n.whole ++ fractionText n.fraction ++
      exponentText n.exponent := rfl

theorem exponent?_exponentText {e : Option (Bool × List Char)} (he : ∀ m ∈ e, DigitRun m.2)
    {rest : List Char} (hrest : EndsNumber rest) :
    exponent? (exponentText e ++ rest) = some (e, rest) := by
  cases e with
  | none =>
    cases rest with
    | nil => rfl
    | cons c r =>
      obtain ⟨-, -, hsmall, hlarge⟩ := hrest c rfl
      simp [exponentText, exponent?, hsmall, hlarge]
  | some m =>
    obtain ⟨negative, digits⟩ := m
    have hdigits : digitRun? (digits ++ rest) = some (digits, rest) :=
      digitRun?_append (he _ rfl) fun c hc => (hrest c hc).1
    cases negative with
    | true => simp [exponentText, exponent?, hdigits]
    | false => simp [exponentText, exponent?, hdigits]

/-- What follows the digits behind a point begins with no digit and no point. -/
theorem head?_exponentText {e : Option (Bool × List Char)} {rest : List Char}
    (hrest : EndsNumber rest) :
    ∀ c ∈ (exponentText e ++ rest).head?, c.isDigit = false ∧ c ≠ '.' := by
  intro c hc
  cases e with
  | none => exact ⟨(hrest c hc).1, (hrest c hc).2.1⟩
  | some m =>
    obtain rfl : 'e' = c := by simpa [exponentText] using hc
    decide

theorem fraction?_fractionText {f : Option (List Char)} (hf : ∀ digits ∈ f, DigitRun digits)
    {rest : List Char} (hrest : ∀ c ∈ rest.head?, c.isDigit = false ∧ c ≠ '.') :
    fraction? (fractionText f ++ rest) = some (f, rest) := by
  cases f with
  | none =>
    unfold fraction?
    split
    · next r heq =>
      have hr : rest = '.' :: r := heq
      exact absurd rfl (hrest '.' (by rw [hr]; rfl)).2
    · rfl
  | some digits =>
    have hdigits : digitRun? (digits ++ rest) = some (digits, rest) :=
      digitRun?_append (hf _ rfl) fun c hc => (hrest c hc).1
    simp [fractionText, fraction?, hdigits]

theorem head?_fractionText {f : Option (List Char)} {rest : List Char}
    (hrest : ∀ c ∈ rest.head?, c.isDigit = false ∧ c ≠ '.') :
    ∀ c ∈ (fractionText f ++ rest).head?, c.isDigit = false := by
  intro c hc
  cases f with
  | none => exact (hrest c hc).1
  | some digits =>
    obtain rfl : '.' = c := by simpa [fractionText] using hc
    decide

theorem unsigned?_text {n : Number} (hn : n.WellFormed) {rest : List Char} (hrest : EndsNumber rest) :
    unsigned? n.negative (n.whole ++ (fractionText n.fraction ++ (exponentText n.exponent ++ rest))) =
      some (n, rest) := by
  have hexponent := exponent?_exponentText hn.exponent hrest
  have hfraction := fraction?_fractionText hn.fraction (head?_exponentText hrest (e := n.exponent))
  have hwhole := digitRun?_append hn.whole
    (head?_fractionText (head?_exponentText hrest (e := n.exponent)) (f := n.fraction))
  have hleading : ¬(n.whole.length > 1 && n.whole.head? == some '0') = true := by
    simpa using hn.leading
  unfold unsigned?
  simp only [hwhole, hfraction, hexponent, Option.bind_eq_bind, Option.bind_some, if_neg hleading]

/-- **A number is read from its text as it was**, whatever follows that cannot be part of it. -/
theorem number?_text {n : Number} (hn : n.WellFormed) {rest : List Char} (hrest : EndsNumber rest) :
    number? (n.text ++ rest) = some (n, rest) := by
  have hunsigned := unsigned?_text hn hrest
  rw [text_eq]
  simp only [List.append_assoc]
  cases hnegative : n.negative with
  | true =>
    rw [hnegative] at hunsigned
    exact hunsigned
  | false =>
    rw [hnegative] at hunsigned
    -- without a sign, the number begins with a digit
    obtain ⟨c, r, hc⟩ := List.exists_cons_of_ne_nil hn.whole.ne_nil
    have hdigit : c.isDigit = true := hn.whole.isDigit c (hc ▸ List.mem_cons_self)
    rw [hc] at hunsigned ⊢
    show number? (c :: _) = _
    unfold number?
    split
    · next heq =>
      obtain rfl := (List.cons.inj heq).1
      exact absurd hdigit (by decide)
    · exact hunsigned

/-! ## Numbers of the program -/

theorem digitRun_digits (n : Nat) : DigitRun (Decimal.digits n) :=
  ⟨Decimal.digits_ne_nil n, fun _ hc => Decimal.isDigit_of_mem_digits hc⟩

/-- **The number of an integer is well formed.** -/
theorem wellFormed_ofInt (i : Int) :
    Number.WellFormed { negative := i < 0, whole := Decimal.digits i.natAbs } where
  whole := digitRun_digits _
  leading := by
    intro hlength
    refine Decimal.head?_digits_ne_zero fun hzero => ?_
    have hone : (Decimal.digits 0).length = 1 := by decide
    rw [hzero, hone] at hlength
    omega
  fraction := by simp
  exponent := by simp

theorem isDigit_of_mem_zeros {n : Nat} {c : Char} (hc : c ∈ List.replicate n '0') :
    c.isDigit = true := by
  rw [List.eq_of_mem_replicate hc]
  decide

/-- The digits before the point, where a point is written among the digits of a decimal. -/
def wholeDigits (d : Decimal.Significant) : List Char :=
  if d.point ≤ 0 then ['0']
  else d.digits.take d.point.toNat ++ List.replicate (d.point.toNat - d.digits.length) '0'

/-- The digits behind the point, of which there is at least one. -/
def fractionDigits (d : Decimal.Significant) : List Char :=
  let fraction := List.replicate (-d.point).toNat '0' ++ d.digits.drop d.point.toNat
  fraction ++ List.replicate (1 - fraction.length) '0'

variable {d : Decimal.Significant}

theorem digitRun_fractionDigits (hd : ∀ c ∈ d.digits, c.isDigit = true) :
    DigitRun (fractionDigits d) where
  ne_nil := by
    unfold fractionDigits
    dsimp only
    generalize List.replicate _ '0' ++ List.drop _ _ = fraction
    cases fraction <;> simp
  isDigit := by
    intro c hc
    rcases List.mem_append.1 hc with hc | hc
    · rcases List.mem_append.1 hc with hc | hc
      · exact isDigit_of_mem_zeros hc
      · exact hd c (List.mem_of_mem_drop hc)
    · exact isDigit_of_mem_zeros hc

theorem digitRun_wholeDigits (hd : ∀ c ∈ d.digits, c.isDigit = true) : DigitRun (wholeDigits d) := by
  unfold wholeDigits
  split
  · exact ⟨List.cons_ne_nil _ _, fun _ hc => isDigit_of_mem_zeros (n := 1) hc⟩
  · next hpoint =>
    refine ⟨?_, fun c hc => ?_⟩
    · intro hnil
      have hlength := congrArg List.length hnil
      simp only [List.length_append, List.length_take, List.length_replicate, List.length_nil]
        at hlength
      omega
    · rcases List.mem_append.1 hc with hc | hc
      · exact hd c (List.mem_of_mem_take hc)
      · exact isDigit_of_mem_zeros hc

/-- Where the point is behind the first digit, the digits before it begin with that one. -/
theorem head?_wholeDigits (hd : d.WellFormed) (hlength : 1 < (wholeDigits d).length) :
    (wholeDigits d).head? ≠ some '0' := by
  unfold wholeDigits at hlength ⊢
  split
  · next hpoint => simp [hpoint] at hlength
  · next hpoint =>
    obtain ⟨c, r, hc⟩ := List.exists_cons_of_ne_nil hd.ne_nil
    have hhead := hd.head_ne_zero
    obtain ⟨n, hn⟩ : ∃ n, d.point.toNat = n + 1 := ⟨d.point.toNat - 1, by omega⟩
    rw [hc] at hhead ⊢
    rw [hn, List.take_succ_cons]
    exact hhead

theorem positional_text (hd : ∀ c ∈ d.digits, c.isDigit = true) :
    d.positional 1 = wholeDigits d ++ '.' :: fractionDigits d := by
  have hne : (fractionDigits d).isEmpty = false := by
    simpa using (digitRun_fractionDigits hd).ne_nil
  show (if (fractionDigits d).isEmpty then wholeDigits d else _) = _
  rw [hne]
  rfl

theorem positional_eq (negative : Bool) (hd : ∀ c ∈ d.digits, c.isDigit = true) :
    positional negative d =
      { negative, whole := wholeDigits d, fraction := some (fractionDigits d) } := by
  have hpoint : ∀ c ∈ wholeDigits d, (c != '.') = true := by
    intro c hc
    refine bne_iff_ne.2 ?_
    rintro rfl
    exact absurd ((digitRun_wholeDigits hd).isDigit _ hc) (by decide)
  unfold positional
  dsimp only
  rw [positional_text hd, List.takeWhile_append_of_pos hpoint, List.dropWhile_append_of_pos hpoint]
  simp

theorem wellFormed_positional (negative : Bool) (hd : d.WellFormed ∨ d = .zero) :
    (positional negative d).WellFormed := by
  have hdigits : ∀ c ∈ d.digits, c.isDigit = true := by
    rcases hd with hd | rfl
    · exact hd.isDigit
    · simp [Decimal.Significant.zero]
  rw [positional_eq negative hdigits]
  refine ⟨digitRun_wholeDigits hdigits, fun hlength => ?_, ?_, by simp⟩
  · rcases hd with hd | rfl
    · exact head?_wholeDigits hd hlength
    · have hone : (wholeDigits .zero).length = 1 := by decide
      exact absurd hlength (by rw [hone]; decide)
  · intro digits h
    obtain rfl := Option.some.inj h
    exact digitRun_fractionDigits hdigits

theorem wellFormed_scientific (negative : Bool) (hd : d.WellFormed) :
    (scientific negative d).WellFormed := by
  obtain ⟨c, r, hc⟩ := List.exists_cons_of_ne_nil hd.ne_nil
  have hdigits := hd.isDigit
  unfold scientific
  rw [hc] at hdigits ⊢
  refine ⟨⟨by simp, fun c hc => hdigits c (List.mem_of_mem_take hc)⟩, by simp, ?_, ?_⟩
  · intro digits h
    cases r with
    | nil => simp at h
    | cons b r =>
      obtain rfl : b :: r = digits := by simpa using h
      exact ⟨List.cons_ne_nil _ _, fun c hc => hdigits c (List.mem_cons_of_mem _ hc)⟩
  · intro e he
    obtain rfl := Option.some.inj he
    exact digitRun_digits _

/-- **The document of a float is `null` or a well-formed number.** -/
theorem ofFloat_cases (x : Float) :
    ofFloat x = null ∨ ∃ n : Number, n.WellFormed ∧ ofFloat x = number n := by
  unfold ofFloat
  split
  · next negative m q narrow hparts =>
    refine .inr ?_
    dsimp only
    by_cases hm : m = 0
    · subst hm
      exact ⟨_, wellFormed_positional negative (.inr rfl), rfl⟩
    · have hd : (Decimal.shortest .even m q narrow).WellFormed :=
        Decimal.wellFormed_shortest .even (Nat.pos_of_ne_zero hm)
          (Decimal.mantissa_lt_of_ofFloat hparts) q narrow
      have hzero : (m == 0) = false := beq_false_of_ne hm
      simp only [hzero, Bool.false_or, Bool.false_eq_true, if_false]
      split
      · exact ⟨_, wellFormed_positional negative (.inl hd), rfl⟩
      · exact ⟨_, wellFormed_scientific negative hd, rfl⟩
  · exact .inl rfl

end WireSql.Json
