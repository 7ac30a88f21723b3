import WireSql.Value

/-!
# `WireSql.Proofs.Value.Equality`: how far the `=` of a condition is an equality

`Value.equals` compares floats by the distance between them, which is a float as well and may have been
rounded. It is an equality all the same as far as keys need one: it is symmetric (`equals_comm`), and
every value but NULL and a float equals itself (`equals_self`). A float need not: the distance of an
infinity to itself is not a number.

Symmetry rests on `abs_sub_comm`: the two differences of two floats are rounded alike and differ in
their sign at most. That is proved where a difference is computed, on floats taken apart into sign,
mantissa and exponent, and carried through the bits in which it is stored.
-/

namespace WireSql.Value

/-! ## Distances of floats -/

section Distance

open Float.Model Float.Model.UnpackedFloat

variable {spec : Format}

/-- The magnitude of a mantissa that may be zero. -/
theorem abs_zero_or_finite (s s' : Sign) (mantissa : Nat) (exponent : Int) :
    (if h : mantissa = 0 then UnpackedFloat.zero s
      else .finite s mantissa exponent (Nat.pos_of_ne_zero h)).abs =
    (if h : mantissa = 0 then UnpackedFloat.zero s'
      else .finite s' mantissa exponent (Nat.pos_of_ne_zero h)).abs := by
  by_cases h : mantissa = 0
  · rw [dif_pos h, dif_pos h]
    rfl
  · rw [dif_neg h, dif_neg h]
    rfl

/-- The sign takes no part in rounding. -/
theorem abs_round (s s' : Sign) (mantissa : Nat) (exponent : Int) :
    (UnpackedFloat.round spec s mantissa exponent).abs =
      (UnpackedFloat.round spec s' mantissa exponent).abs := by
  unfold UnpackedFloat.round roundWithAccuracy
  exact abs_zero_or_finite s s' _ _

theorem abs_normalize_neg (mantissa exponent : Int) (zeroSign : Sign) :
    (UnpackedFloat.normalize spec (-mantissa) exponent zeroSign).abs =
      (UnpackedFloat.normalize spec mantissa exponent zeroSign).abs := by
  unfold UnpackedFloat.normalize
  rcases Int.lt_trichotomy mantissa 0 with h | h | h
  · rw [Int.compare_eq_lt.mpr h, Int.compare_eq_gt.mpr (by omega)]
    exact abs_round _ _ _ _
  · subst h
    rfl
  · rw [Int.compare_eq_gt.mpr h, Int.compare_eq_lt.mpr (by omega), Int.neg_neg]
    exact abs_round _ _ _ _

/-- **The two differences of two floats have the same magnitude.** -/
theorem abs_sub (a b : UnpackedFloat) :
    (UnpackedFloat.sub spec a b).abs = (UnpackedFloat.sub spec b a).abs := by
  cases a with
  | notANumber => cases b <;> rfl
  | infinity s =>
    cases b with
    | infinity s' => cases s <;> cases s' <;> rfl
    | _ => rfl
  | zero s =>
    cases b with
    | zero s' => cases s <;> cases s' <;> rfl
    | _ => rfl
  | finite s m e hm =>
    cases b with
    | finite s' m' e' hm' =>
      unfold UnpackedFloat.sub
      dsimp only
      -- both are aligned to the smaller exponent, and the mantissas are subtracted as integers
      rw [Int.min_comm e' e, ← abs_normalize_neg, Int.neg_sub]
    | _ => rfl

/-- The magnitude that the bits of exponent and mantissa stand for. -/
def magnitude (spec : Format) (exponent : BitVec spec.exponentBits)
    (mantissa : BitVec spec.mantissaBitsWithoutImplicit) : UnpackedFloat :=
  let e : Int := exponent.toNat - (spec.exponentBias + spec.mantissaBitsWithoutImplicit)
  if exponent = -1#_ then if mantissa = 0#_ then .infinity .positive else .notANumber
  else if exponent = 0#_ then
    if h : mantissa = 0#_ then .zero .positive
    else .finite .positive mantissa.toNat (e + 1) (by
      simpa [BitVec.toNat_pos, BitVec.pos_iff_ne_zero])
  else .finite .positive (1#1 ++ mantissa).toNat e (by simp)

/-- A magnitude is read off the bits without the one for the sign. -/
theorem abs_unpack (b : BitVec spec.numBits) :
    (UnpackedFloat.unpack spec b).abs = magnitude spec (unpackExponent b) (unpackMantissa b) := by
  unfold UnpackedFloat.unpack magnitude
  by_cases hones : unpackExponent b = -1#_
  · rw [if_pos hones, if_pos hones]
    by_cases hzero : unpackMantissa b = 0#_
    · rw [if_pos hzero, if_pos hzero]
      rfl
    · rw [if_neg hzero, if_neg hzero]
      rfl
  · rw [if_neg hones, if_neg hones]
    by_cases hzeros : unpackExponent b = 0#_
    · rw [if_pos hzeros, if_pos hzeros]
      by_cases hzero : unpackMantissa b = 0#_
      · rw [dif_pos hzero, dif_pos hzero]
        rfl
      · rw [dif_neg hzero, dif_neg hzero]
        rfl
    · rw [if_neg hzeros, if_neg hzeros]
      rfl

/-- Storing floats of the same magnitude and reading them again gives floats of the same magnitude. -/
theorem abs_unpack_pack {a b : UnpackedFloat} (h : a.abs = b.abs) :
    (UnpackedFloat.unpack spec (UnpackedFloat.pack spec a)).abs =
      (UnpackedFloat.unpack spec (UnpackedFloat.pack spec b)).abs := by
  have hcomponents : ∀ (s s' : Sign) exponent mantissa,
      (UnpackedFloat.unpack spec (packComponents spec s exponent mantissa)).abs =
        (UnpackedFloat.unpack spec (packComponents spec s' exponent mantissa)).abs := by
    intro s s' exponent mantissa
    rw [abs_unpack, abs_unpack, unpackMantissa_packComponents, unpackMantissa_packComponents,
      unpackExponent_packComponents, unpackExponent_packComponents]
  cases a with
  | notANumber =>
    cases b with
    | notANumber => rfl
    | _ => cases h
  | infinity s =>
    cases b with
    | infinity s' => exact hcomponents s s' _ _
    | _ => cases h
  | zero s =>
    cases b with
    | zero s' => exact hcomponents s s' _ _
    | _ => cases h
  | finite s m e hm =>
    cases b with
    | finite s' m' e' hm' =>
      cases h
      unfold UnpackedFloat.pack
      dsimp only
      split
      · exact hcomponents s s' _ _
      · split
        · exact hcomponents s s' _ _
        · exact hcomponents s s' _ _
    | _ => cases h

/-- **The distance of two floats does not depend on their order.** -/
theorem abs_sub_comm (x y : Float) : (x - y).abs = (y - x).abs := by
  have hmagnitude : (x.toModel - y.toModel).unpack.abs = (y.toModel - x.toModel).unpack.abs :=
    abs_unpack_pack (abs_sub x.toModel.unpack y.toModel.unpack)
  exact congrArg (fun u => Float.ofModel (Float.Model.pack u)) hmagnitude

end Distance

/-! ## Equality of values -/

theorem closeTo_comm (x y : Float) : closeTo x y = closeTo y x := by
  unfold closeTo
  rw [abs_sub_comm]

/-- Are two values equal as numbers, or as texts where one of them is no number? -/
def equalsMixed (v w : Value) : Bool :=
  match v.asFloat?, w.asFloat? with
  | some x, some y => closeTo x y
  | _, _ => v.toText == w.toText

theorem equalsMixed_of_numbers {v w : Value} {x y : Float} (hv : v.asFloat? = some x)
    (hw : w.asFloat? = some y) : v.equalsMixed w = closeTo x y := by
  unfold equalsMixed
  rw [hv, hw]

theorem equalsMixed_of_no_number {v w : Value} (h : v.asFloat? = none ∨ w.asFloat? = none) :
    v.equalsMixed w = (v.toText == w.toText) := by
  unfold equalsMixed
  rcases h with h | h
  · rw [h]
  · rw [h]
    cases v.asFloat? <;> rfl

theorem equalsMixed_comm (v w : Value) : v.equalsMixed w = w.equalsMixed v := by
  unfold equalsMixed
  cases v.asFloat? with
  | none => cases w.asFloat? <;> exact Bool.beq_comm
  | some x =>
    cases w.asFloat? with
    | none => exact Bool.beq_comm
    | some y => exact closeTo_comm x y

/-- **The `=` of a condition is symmetric.** -/
theorem equals_comm (v w : Value) : v.equals w = w.equals v := by
  cases v with
  | null => rw [equals_null_left, equals_null_right]
  | bool a =>
    cases w with
    | null => rfl
    | bool b => exact equalsMixed_comm (.bool a) (.bool b)
    | int j => exact equalsMixed_comm (.bool a) (.int j)
    | double y => exact equalsMixed_comm (.bool a) (.double y)
    | text t => exact equalsMixed_comm (.bool a) (.text t)
  | int i =>
    cases w with
    | null => rfl
    | bool b => exact equalsMixed_comm (.int i) (.bool b)
    | int j => exact Bool.beq_comm
    | double y => exact equalsMixed_comm (.int i) (.double y)
    | text t => exact equalsMixed_comm (.int i) (.text t)
  | double x =>
    cases w with
    | null => rfl
    | bool b => exact equalsMixed_comm (.double x) (.bool b)
    | int j => exact equalsMixed_comm (.double x) (.int j)
    | double y => exact equalsMixed_comm (.double x) (.double y)
    | text t => exact equalsMixed_comm (.double x) (.text t)
  | text s =>
    cases w with
    | null => rfl
    | bool b => exact equalsMixed_comm (.text s) (.bool b)
    | int j => exact equalsMixed_comm (.text s) (.int j)
    | double y => exact equalsMixed_comm (.text s) (.double y)
    | text t => exact Bool.beq_comm

/-- Every value but NULL and a float equals itself. -/
theorem equals_self {v : Value} (hnull : v ≠ .null) (hdouble : ∀ x, v ≠ .double x) :
    v.equals v = true := by
  cases v with
  | null => exact absurd rfl hnull
  | bool b => cases b <;> rfl
  | int i => rw [equals_int, beq_self_eq_true]
  | double x => exact absurd rfl (hdouble x)
  | text s => rw [equals_text, beq_self_eq_true]

end WireSql.Value
