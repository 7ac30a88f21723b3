import WireSql.Decimal.Real
import WireSql.Proofs.Json.Numbers

/-!
# `WireSql.Proofs.Decimal.PlainText`: the text of a float is that of a number

A result shows a float as digits with a point among them, or as the word for what is no finite number. The
reader of numbers takes all of these (`float?_plainText`), so a text that it refuses is not the text of any
float.
-/

namespace WireSql.Decimal

/-- What may stand behind the digits before the point: nothing, or the point and digits. -/
inductive FractionTail : List Char → Prop where
  /-- The number is whole. -/
  | nil : FractionTail []
  /-- Digits stand behind the point, if any. -/
  | point {digits : List Char} (h : ∀ c ∈ digits, c.isDigit = true) : FractionTail ('.' :: digits)

/-- Digits with a point behind them or without one make a number. -/
theorem scientific?_isSome {whole tail : List Char} (hwhole : Json.DigitRun whole)
    (htail : FractionTail tail) : (scientific? (whole ++ tail)).isSome := by
  have hne : whole.isEmpty = false := by simpa using hwhole.ne_nil
  -- a tail begins with no digit
  have htake : (whole ++ tail).takeWhile Char.isDigit = whole := by
    rw [List.takeWhile_append_of_pos hwhole.isDigit]
    cases htail <;> simp
  have hdrop : (whole ++ tail).dropWhile Char.isDigit = tail := by
    rw [List.dropWhile_append_of_pos hwhole.isDigit]
    cases htail <;> simp
  unfold scientific?
  simp only [htake, hdrop, hne, Bool.false_and, Bool.false_eq_true, if_false]
  cases htail with
  | nil => rfl
  | point h =>
    have hnone := List.dropWhile_eq_nil_iff.mpr h
    simp only [hnone]
    rfl

theorem magnitude?_isSome {s : List Char} (h : (scientific? s).isSome) : (magnitude? s).isSome := by
  unfold magnitude?
  dsimp only
  split
  · rfl
  · split
    · rfl
    · rwa [Option.isSome_map]

/-- A number may have a sign in front. -/
theorem float?_isSome (negative : Bool) {whole tail : List Char} (hwhole : Json.DigitRun whole)
    (htail : FractionTail tail) :
    (float? (if negative then '-' :: (whole ++ tail) else whole ++ tail)).isSome := by
  have hmagnitude := magnitude?_isSome (scientific?_isSome hwhole htail)
  cases negative with
  | true =>
    show ((magnitude? (whole ++ tail)).map fun x => -x).isSome
    rwa [Option.isSome_map]
  | false =>
    show (float? (whole ++ tail)).isSome
    obtain ⟨c, r, rfl⟩ := List.exists_cons_of_ne_nil hwhole.ne_nil
    have hdigit : c.isDigit = true := hwhole.isDigit c List.mem_cons_self
    rw [List.cons_append] at hmagnitude ⊢
    unfold float?
    split
    · next heq =>
      obtain rfl := (List.cons.inj heq).1
      exact absurd hdigit (by decide)
    · next heq =>
      obtain rfl := (List.cons.inj heq).1
      exact absurd hdigit (by decide)
    · exact hmagnitude

/-- A decimal is written as digits with a fraction behind them or without one. -/
theorem exists_positional_eq {d : Significant} (hd : ∀ c ∈ d.digits, c.isDigit = true) :
    ∃ tail, FractionTail tail ∧ d.positional 0 = Json.wholeDigits d ++ tail := by
  let fraction := List.replicate (-d.point).toNat '0' ++ d.digits.drop d.point.toNat
  have hfraction : ∀ c ∈ fraction, c.isDigit = true := by
    intro c hc
    rcases List.mem_append.mp hc with hc | hc
    · exact Json.isDigit_of_mem_zeros hc
    · exact hd c (List.mem_of_mem_drop hc)
  have hpositional : d.positional 0 =
      if fraction.isEmpty then Json.wholeDigits d else Json.wholeDigits d ++ '.' :: fraction := by
    show (if (fraction ++ List.replicate (0 - fraction.length) '0').isEmpty then _ else
      Json.wholeDigits d ++ '.' :: (fraction ++ List.replicate (0 - fraction.length) '0')) = _
    rw [Nat.zero_sub, List.replicate_zero, List.append_nil]
    rfl
  rw [hpositional]
  split
  · exact ⟨[], .nil, (List.append_nil _).symm⟩
  · exact ⟨_, .point hfraction, rfl⟩

/-- **The text of a float is read as a number.** -/
theorem float?_plainText (x : Float) : (float? (plainText x).toList).isSome := by
  unfold plainText
  split
  · decide +kernel
  · next negative _ => cases negative <;> decide +kernel
  · next negative m q narrow hparts =>
    dsimp only
    have hdigits : ∀ c ∈ (if m == 0 then Significant.zero else shortest .up m q narrow).digits,
        c.isDigit = true := by
      split
      · simp [Significant.zero]
      · next hm =>
        have hpos : 0 < m := Nat.pos_of_ne_zero fun h => hm (beq_iff_eq.mpr h)
        exact (wellFormed_shortest .up hpos (mantissa_lt_of_ofFloat hparts) q narrow).isDigit
    obtain ⟨tail, htail, heq⟩ := exists_positional_eq hdigits
    rw [String.toList_ofList, heq]
    exact float?_isSome negative (Json.digitRun_wholeDigits hdigits) htail

end WireSql.Decimal
