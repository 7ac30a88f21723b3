import Mathlib.Algebra.Order.Field.Power
import Mathlib.Data.List.DropRight
import Mathlib.Tactic.Positivity
import WireSql.Decimal.Shortest

/-!
# `WireSql.Proofs.Decimal.Shortest`: seventeen digits always suffice

The search for the shortest decimal of a float tries eighteen grids and would answer zero if it found no
multiple of any of them in the interval of the float. It always finds one (`search_ne_zero`): a step of
the last grid is no more than a quarter of the float's last binary place (`step_le_scale`), so that a
multiple of it lies right below the float.

The digits of a float that is not zero are therefore those of a whole number that is not zero, which
begin with another digit than zero (`wellFormed_shortest`).
-/

namespace WireSql.Decimal

/-! ## Digits of whole numbers -/

/-- **A number that is not zero is written without a zero in front.** -/
theorem head?_digits_ne_zero {n : Nat} (hn : n ≠ 0) : (digits n).head? ≠ some '0' := by
  induction n using Nat.strongRecOn with
  | ind n ih =>
    unfold digits at ih ⊢
    rw [Nat.toDigits_eq_if (by decide)]
    split
    · next hlt =>
      have hdigit : ∀ d : Fin 10, d.val ≠ 0 → d.val.digitChar ≠ '0' := by decide
      simpa using hdigit ⟨n, hlt⟩ hn
    · next hge =>
      have hhead := ih (n / 10) (Nat.div_lt_self (by omega) (by decide)) (by omega)
      rwa [List.head?_append_of_ne_nil _ Nat.toDigits_ne_nil]

theorem lt_pow_length_digits (n : Nat) : n < 10 ^ (digits n).length :=
  (Nat.length_toDigits_le_iff (by decide) (List.length_pos_iff.2 (digits_ne_nil n))).1 le_rfl

theorem pow_length_digits_le {n : Nat} (hn : n ≠ 0) : 10 ^ ((digits n).length - 1) ≤ n := by
  by_contra hlt
  rcases Nat.eq_zero_or_pos ((digits n).length - 1) with hzero | hpos
  · rw [hzero] at hlt
    omega
  · have hlen : (digits n).length ≤ (digits n).length - 1 :=
      (Nat.length_toDigits_le_iff (by decide) hpos).2 (Nat.lt_of_not_le hlt)
    omega

/-! ## Powers as fractions -/

theorem upward_pos {base : Nat} (hb : 0 < base) (e : Int) : 0 < upward base e := Nat.pow_pos hb

/-- A power is what it contributes upward over what it contributes downward. -/
theorem upward_div_upward_neg (base : Nat) (e : Int) :
    (upward base e : ℚ) / upward base (-e) = (base : ℚ) ^ e := by
  unfold upward
  rcases Int.le_total 0 e with he | he
  · lift e to ℕ using he
    simp
  · obtain ⟨n, rfl⟩ := Int.exists_eq_neg_ofNat he
    simp

/-- The power of ten that `floorLog` finds is not above the fraction. -/
theorem zpow_floorLog_le {num den : Nat} (hn : 0 < num) (hd : 0 < den) :
    (10 : ℚ) ^ floorLog num den ≤ num / den := by
  have hden : (0 : ℚ) < den := by exact_mod_cast hd
  rw [le_div_iff₀ hden]
  unfold floorLog
  split
  · next hle =>
    have hlen := List.length_pos_iff.2 (digits_ne_nil (num / den))
    have hpow : 10 ^ ((digits (num / den)).length - 1) * den ≤ num :=
      (Nat.le_div_iff_mul_le hd).1 (pow_length_digits_le (Nat.div_pos hle hd).ne')
    have hexp : ((digits (num / den)).length : Int) - 1 = ((digits (num / den)).length - 1 : Nat) := by
      omega
    rw [hexp, zpow_natCast]
    exact_mod_cast hpow
  · next hlt =>
    have hlen := List.length_pos_iff.2 (digits_ne_nil (den / num))
    dsimp only
    split
    · next hle =>
      have hexp : 1 - ((digits (den / num)).length : Int) =
          -((digits (den / num)).length - 1 : Nat) := by omega
      rw [hexp, zpow_neg, zpow_natCast, inv_mul_le_iff₀ (by positivity), mul_comm]
      exact_mod_cast hle
    · have hlt : den < num * 10 ^ (digits (den / num)).length := by
        rw [Nat.mul_comm]
        exact (Nat.div_lt_iff_lt_mul hn).1 (lt_pow_length_digits (den / num))
      rw [zpow_neg, zpow_natCast, inv_mul_le_iff₀ (by positivity), mul_comm]
      exact_mod_cast hlt.le

/-! ## The search -/

/-- The exponent at which the search for the decimal of `m · 2 ^ q` begins. -/
def firstGrid (m : Nat) (q : Int) : Int :=
  floorLog (numerator (4 * m) (q - 2)) (upward 2 (2 - q))

/-- **A step of the last grid is at most a quarter of the float's last binary place.** -/
theorem step_le_scale {m : Nat} (hm : 0 < m) (hlt : m < 2 ^ 53) (q : Int) :
    upward 2 (-(q - 2)) * upward 10 (firstGrid m q - 17) ≤
      upward 2 (q - 2) * upward 10 (-(firstGrid m q - 17)) := by
  have hstart : (10 : ℚ) ^ firstGrid m q ≤ 4 * m * 2 ^ (q - 2) := by
    have hnum : 0 < numerator (4 * m) (q - 2) :=
      Nat.mul_pos (by omega) (upward_pos (by decide) _)
    have hden : 0 < upward 2 (2 - q) := upward_pos (by decide) _
    have hle := zpow_floorLog_le hnum hden
    have hvalue : (numerator (4 * m) (q - 2) : ℚ) / upward 2 (2 - q) = 4 * m * 2 ^ (q - 2) := by
      have hpow := upward_div_upward_neg 2 (q - 2)
      rw [Int.neg_sub] at hpow
      unfold numerator
      push_cast at hpow ⊢
      rw [mul_div_assoc, hpow]
    exact hle.trans_eq hvalue
  have hsmall : (4 * m : ℚ) ≤ 10 ^ (17 : ℤ) := by
    have : 4 * m ≤ 10 ^ 17 := by omega
    exact_mod_cast this
  have hgrid : (10 : ℚ) ^ (firstGrid m q - 17) ≤ 2 ^ (q - 2) := by
    rw [zpow_sub₀ (by norm_num), div_le_iff₀ (by positivity)]
    calc (10 : ℚ) ^ firstGrid m q ≤ 4 * m * 2 ^ (q - 2) := hstart
      _ ≤ 10 ^ (17 : ℤ) * 2 ^ (q - 2) := by gcongr
      _ = 2 ^ (q - 2) * 10 ^ (17 : ℤ) := mul_comm _ _
  have hten := upward_div_upward_neg 10 (firstGrid m q - 17)
  have htwo := upward_div_upward_neg 2 (q - 2)
  push_cast at hten htwo
  have hdown (base : Nat) (hb : 0 < base) (e : Int) : (0 : ℚ) < upward base (-e) := by
    exact_mod_cast upward_pos hb _
  rw [← hten, ← htwo, div_le_div_iff₀ (hdown 10 (by decide) _) (hdown 2 (by decide) _)] at hgrid
  rw [Nat.mul_comm]
  exact_mod_cast hgrid

namespace Interval

variable {i : Interval} {tie : Tie} {k : Int}

/-- The multiple that is written is not zero. -/
theorem onGrid?_ne_zero {n : Nat} (h : i.onGrid? tie k = some n) : n ≠ 0 := by
  unfold onGrid? at h
  dsimp only at h
  generalize hbelow : 4 * i.mantissa * _ / _ = below at h
  split at h
  · next hboth =>
    have hne : below ≠ 0 := by
      rintro rfl
      simp at hboth
    split at h
    · exact Option.some.inj h ▸ hne
    · split at h
      · exact Option.some.inj h ▸ Nat.succ_ne_zero below
      · cases tie with
        | up => exact Option.some.inj h ▸ Nat.succ_ne_zero below
        | even =>
          have hn := Option.some.inj h
          split at hn
          · exact hn ▸ hne
          · exact hn ▸ Nat.succ_ne_zero below
  · split at h
    · next hdown =>
      have hne : below ≠ 0 := by
        rintro rfl
        simp at hdown
      exact Option.some.inj h ▸ hne
    · split at h
      · exact Option.some.inj h ▸ Nat.succ_ne_zero below
      · cases h

/-- A point less than a unit below the float, and not above it, lies in the interval. -/
theorem holds_of_near {scale point : Nat} (hm : 0 < i.mantissa)
    (hle : point ≤ 4 * i.mantissa * scale) (hlt : 4 * i.mantissa * scale < point + scale) :
    i.holds scale point = true := by
  have hvalue : scale ≤ 4 * i.mantissa * scale := Nat.le_mul_of_pos_left _ (by omega)
  have hlow : (4 * i.mantissa - if i.narrowBelow then 1 else 2) * scale < point :=
    calc (4 * i.mantissa - if i.narrowBelow then 1 else 2) * scale
      _ ≤ (4 * i.mantissa - 1) * scale := Nat.mul_le_mul_right _ (by split <;> omega)
      _ = 4 * i.mantissa * scale - scale := by rw [Nat.sub_mul, Nat.one_mul]
      _ < point := by omega
  have hhigh : point < (4 * i.mantissa + 2) * scale := by
    rw [Nat.add_mul]
    omega
  unfold holds
  dsimp only
  split
  · simp [hlow.le, hhigh.le]
  · simp [hlow, hhigh]

/-- Where a step of the grid is at most a quarter of the last binary place, a multiple lies in the
interval. -/
theorem onGrid?_isSome (hm : 0 < i.mantissa)
    (hstep : upward 2 (-(i.exponent - 2)) * upward 10 k ≤ upward 2 (i.exponent - 2) * upward 10 (-k)) :
    (i.onGrid? tie k).isSome := by
  unfold onGrid?
  dsimp only
  generalize hs : upward 2 (i.exponent - 2) * upward 10 (-k) = scale at hstep ⊢
  generalize ht : upward 2 (-(i.exponent - 2)) * upward 10 k = step at hstep ⊢
  have hpos : 0 < step := ht ▸ Nat.mul_pos (upward_pos (by decide) _) (upward_pos (by decide) _)
  have hvalue : scale ≤ 4 * i.mantissa * scale := Nat.le_mul_of_pos_left _ (by omega)
  have hbelow : 0 < 4 * i.mantissa * scale / step := Nat.div_pos (hstep.trans hvalue) hpos
  have hdown : i.holds scale (4 * i.mantissa * scale / step * step) = true := by
    have hrest := Nat.lt_div_mul_add hpos (a := 4 * i.mantissa * scale)
    exact holds_of_near hm (Nat.div_mul_le_self _ _) (by omega)
  have hne : (4 * i.mantissa * scale / step != 0) = true := bne_iff_ne.2 hbelow.ne'
  rw [hne, hdown]
  split
  · split
    · rfl
    · split
      · rfl
      · cases tie <;> rfl
  · rfl

/-- A search that reaches a grid on which something is found finds something that is not zero. -/
theorem search_ne_zero {fuel : Nat} {n : Nat} (hn : n < fuel)
    (hfound : (i.onGrid? tie (k - n)).isSome) : (i.search tie fuel k).1 ≠ 0 := by
  induction fuel generalizing k n with
  | zero => omega
  | succ fuel ih =>
    unfold search
    split
    · next found h => exact onGrid?_ne_zero h
    · next h =>
      obtain _ | n := n
      · simp [h] at hfound
      · refine ih (n := n) (by omega) ?_
        rwa [show k - 1 - (n : Int) = k - (n + 1 : Nat) by omega]

end Interval

/-! ## The digits of a float -/

/-- The digits of a number that is not zero: there is a first one, and it is not zero. -/
structure Significant.WellFormed (d : Significant) : Prop where
  ne_nil : d.digits ≠ []
  head_ne_zero : d.digits.head? ≠ some '0'
  isDigit : ∀ c ∈ d.digits, c.isDigit = true

/-- The digits of a whole number that is not zero, without the zeros at their end. -/
theorem wellFormed_trimmed {n : Nat} (hn : n ≠ 0) (point : Int) :
    Significant.WellFormed ⟨(digits n).rdropWhile (· == '0'), point⟩ := by
  have hfront := List.rdropWhile_prefix (· == '0') (l := digits n)
  have hne : (digits n).rdropWhile (· == '0') ≠ [] := by
    intro hnil
    have hall := List.rdropWhile_eq_nil_iff.1 hnil
    obtain ⟨c, r, hc⟩ := List.exists_cons_of_ne_nil (digits_ne_nil n)
    have hzero : c = '0' := by simpa using hall c (hc ▸ List.mem_cons_self)
    exact head?_digits_ne_zero hn (by rw [hc, hzero, List.head?_cons])
  refine ⟨hne, ?_, fun c hc => isDigit_of_mem_digits (hfront.subset hc)⟩
  obtain ⟨rest, hrest⟩ := hfront
  have hhead := head?_digits_ne_zero hn
  rwa [← hrest, List.head?_append_of_ne_nil _ hne] at hhead

/-- **The shortest decimal of a float that is not zero has a first digit, which is not zero.** -/
theorem wellFormed_shortest (tie : Tie) {m : Nat} (hm : 0 < m) (hlt : m < 2 ^ 53) (q : Int)
    (narrowBelow : Bool) : (shortest tie m q narrowBelow).WellFormed := by
  let i : Interval := ⟨m, q, narrowBelow⟩
  have hfound : (i.onGrid? tie (firstGrid m q - (17 : Nat))).isSome :=
    Interval.onGrid?_isSome hm (step_le_scale hm hlt q)
  have hne : (i.search tie 18 (firstGrid m q)).1 ≠ 0 := Interval.search_ne_zero (by decide) hfound
  exact wellFormed_trimmed hne _

/-- The mantissa of a finite float has at most 53 bits. -/
theorem mantissa_lt_of_ofFloat {x : Float} {negative : Bool} {m : Nat} {q : Int} {narrowBelow : Bool}
    (h : Parts.ofFloat x = .finite negative m q narrowBelow) : m < 2 ^ 53 := by
  have hfraction : x.toBits.toNat % Nat.pow 2 52 < 2 ^ 52 := Nat.mod_lt _ (Nat.two_pow_pos 52)
  unfold Parts.ofFloat Parts.ofBits at h
  dsimp only at h
  split at h
  · split at h
    · cases h
    · cases h
  · split at h
    · obtain ⟨-, rfl, -, -⟩ := Parts.finite.inj h
      omega
    · obtain ⟨-, rfl, -, -⟩ := Parts.finite.inj h
      show 2 ^ 52 + _ < 2 ^ 53
      omega

end WireSql.Decimal
