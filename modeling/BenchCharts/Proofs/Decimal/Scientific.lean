import BenchCharts.Proofs.Decimal.Bits

/-!
Decimals that are read as doubles. Digits with a power of ten become the double that attracts their
exact value, whether the power is one of the few that are doubles themselves or not.
-/
namespace BenchCharts.Decimal

open Float.Model (Format UnpackedFloat totalExponent)
open Float.Model.UnpackedFloat

/-- The double is the power of ten without any loss. -/
def holdsPower (k : Nat) : UnpackedFloat → Bool
  | .finite .positive p q _ => 2 ^ 52 ≤ p && p * 2 ^ q.toNat == 10 ^ k * 2 ^ (-q).toNat
  | _ => false

theorem holdsPower_powers : ∀ k : Fin Float.exactlyRepresentablePowersOfTen.size,
    holdsPower k Float.exactlyRepresentablePowersOfTen[k].toModel.unpack = true := by
  decide +kernel

theorem exists_of_holdsPower {k : Nat} {u : UnpackedFloat} (h : holdsPower k u = true) :
    ∃ p q hp, u = .finite .positive p q hp ∧ 2 ^ 52 ≤ p ∧ (p : ℚ) * 2 ^ q = 10 ^ k := by
  unfold holdsPower at h
  split at h
  · next p q hp =>
    simp only [Bool.and_eq_true, decide_eq_true_eq, beq_iff_eq] at h
    obtain ⟨hfull, hvalue⟩ := h
    refine ⟨p, q, hp, rfl, hfull, ?_⟩
    rw [zpow_eq_div two_ne_zero, ← mul_div_assoc, div_eq_iff (by positivity)]
    exact_mod_cast hvalue
  · simp at h

/-- Few digits are a double themselves. -/
theorem exists_unpack_toFloat {digits : Nat} (hdigits : digits ≠ 0) (hsmall : digits < 2 ^ 53) :
    ∃ p q hp, (digits.toUInt64.toFloat).toModel.unpack = .finite .positive p q hp ∧ 2 ^ 52 ≤ p ∧
      (p : ℚ) * 2 ^ q = digits := by
  refine ⟨_, _, _, unpack_toFloat hdigits hsmall, (isNormal_moved hdigits hsmall).1, ?_⟩
  rw [zpow_neg, zpow_natCast]
  push_cast
  field_simp

section
variable {m : Nat} {e : Int} (h : IsDouble m e) {digits : Nat} (hdigits : digits ≠ 0)
include h hdigits

/-- Large digits and powers are multiplied or divided as they are. -/
theorem unpacked_of_attracts {exponent : Int} (hlow : -2048 ≤ digits.log2 + exponent)
    (hhigh : exponent ≤ 2048) (hv : Attracts m e (digits * 10 ^ exponent)) :
    UnpackedFloat.ofScientific Format.binary64 digits exponent = .finite .positive m e h.pos := by
  have hguards : ¬ exponent > 2 ^ 11 ∧ ¬ exponent < -(2 ^ 11 + (digits.log2 : Int)) := by omega
  have hbits : Format.mantissaBits Format.binary64 = 53 := rfl
  unfold UnpackedFloat.ofScientific
  rw [dif_neg hdigits, if_neg hguards.1, if_neg hguards.2]
  split
  · next hsign =>
    refine mul_of_attracts h ?_ ?_
    · have hone : 1 ≤ 10 ^ exponent.toNat := Nat.one_le_pow _ _ (by decide)
      rw [hbits, Nat.shiftLeft_eq]
      calc 2 ^ 52 ≤ 1 * 2 ^ 53 * 1 := by decide
        _ ≤ digits * 2 ^ 53 * 10 ^ exponent.toNat :=
          Nat.mul_le_mul (Nat.mul_le_mul_right _ (Nat.pos_of_ne_zero hdigits)) hone
    · have hpower : (10 : ℚ) ^ exponent = 10 ^ exponent.toNat := by
        rw [← zpow_natCast, Int.toNat_of_nonneg hsign]
      have hvalue : ((digits <<< 53 : Nat) : ℚ) * 2 ^ (-(53 : Nat) : Int) *
          (((10 ^ exponent.toNat : Nat) : ℚ) * 2 ^ (0 : Int)) = digits * 10 ^ exponent := by
        rw [hpower, Nat.shiftLeft_eq, zpow_neg, zpow_natCast]
        push_cast
        field_simp
        norm_num
      rw [hbits, hvalue]
      exact hv
  · next hsign =>
    refine div_of_attracts h ?_
    have hpower : (10 : ℚ) ^ exponent = (10 ^ (-exponent).toNat)⁻¹ := by
      rw [← zpow_natCast, ← zpow_neg, Int.toNat_of_nonneg (by omega), neg_neg]
    have hvalue : (digits : ℚ) * 2 ^ (0 : Int) /
        (((10 ^ (-exponent).toNat : Nat) : ℚ) * 2 ^ (0 : Int)) = digits * 10 ^ exponent := by
      rw [hpower, zpow_zero, mul_one, mul_one]
      push_cast
      rw [div_eq_mul_inv]
    rw [hvalue]
    exact hv

theorem ofScientific_of_attracts {places : Nat} (negative : Bool)
    (hlow : places ≤ 2048 + digits.log2) (hhigh : negative = false → places ≤ 2048)
    (hv : Attracts m e (digits * 10 ^ (if negative then -places else places : Int))) :
    Float.ofScientific digits negative places =
      .ofModel (.pack (.finite .positive m e h.pos)) := by
  unfold Float.ofScientific
  split
  · next hfew =>
    obtain ⟨p, q, hp, hdouble, hfull, hvalue⟩ := exists_unpack_toFloat hdigits hfew.1
    have hindex : places < Float.exactlyRepresentablePowersOfTen.size :=
      Nat.lt_succ_of_le hfew.2
    obtain ⟨p', q', hp', hpower, hfull', hvalue'⟩ :=
      exists_of_holdsPower (holdsPower_powers ⟨places, hindex⟩)
    change Float.exactlyRepresentablePowersOfTen[places].toModel.unpack = _ at hpower
    cases negative with
    | true =>
      change Float.ofModel (.pack (div Format.binary64 (digits.toUInt64.toFloat).toModel.unpack
        Float.exactlyRepresentablePowersOfTen[places].toModel.unpack)) = _
      rw [hdouble, hpower]
      have hattracts : Attracts m e (p * 2 ^ q / (p' * 2 ^ q')) := by
        rw [hvalue, hvalue', div_eq_mul_inv, ← zpow_natCast, ← zpow_neg]
        exact hv
      rw [div_of_attracts h hattracts]
      rfl
    | false =>
      change Float.ofModel (.pack (mul Format.binary64 (digits.toUInt64.toFloat).toModel.unpack
        Float.exactlyRepresentablePowersOfTen[places].toModel.unpack)) = _
      rw [hdouble, hpower]
      have hattracts : Attracts m e (p * 2 ^ q * (p' * 2 ^ q')) := by
        rw [hvalue, hvalue', ← zpow_natCast]
        exact hv
      have hbits : 2 ^ 52 ≤ p * p' := Nat.le_trans hfull (Nat.le_mul_of_pos_right p hp')
      rw [mul_of_attracts h hbits hattracts]
      rfl
  · cases negative with
    | true =>
      rw [if_pos rfl] at hv
      have hneg : Int.negOfNat places = -(places : Int) := Int.negOfNat_eq
      change Float.ofModel (.pack (UnpackedFloat.ofScientific Format.binary64 digits
        (Int.negOfNat places))) = _
      rw [hneg, unpacked_of_attracts h hdigits (by omega) (by omega) hv]
    | false =>
      rw [if_neg Bool.false_ne_true] at hv
      change Float.ofModel (.pack (UnpackedFloat.ofScientific Format.binary64 digits
        (places : Int))) = _
      have hle := hhigh rfl
      rw [unpacked_of_attracts h hdigits (by omega) (by omega) hv]

end

/-! ## Numerals -/

/-- The values that round to doubles lie within the range of doubles. -/
theorem Attracts.bounds {m : Nat} {e : Int} {v : ℚ} (h : IsDouble m e) (hv : Attracts m e v) :
    2 ^ (-1075 : Int) ≤ v ∧ v < 2 ^ (1024 : Int) := by
  obtain ⟨hlow, hhigh⟩ := Near.bounds hv
  have hreach := reachBelow_le m e
  have hone : (1 : ℚ) ≤ m := by exact_mod_cast h.pos
  have hlt : (m : ℚ) + 1 ≤ 2 ^ 53 := by exact_mod_cast h.lt
  have hunit : (0 : ℚ) < 2 ^ e := zpow_pos (by norm_num) _
  constructor
  · calc (2 : ℚ) ^ (-1075 : Int) ≤ 2 ^ (-1 + e) :=
          zpow_le_zpow_right₀ (by norm_num) (by have := h.least; omega)
      _ = 1 / 2 * 2 ^ e := by
          rw [zpow_add₀ (by norm_num)]
          norm_num
      _ ≤ v := by
          rw [← le_div_iff₀ hunit]
          linarith
  · calc v < 2 ^ 53 * 2 ^ e := by
          rw [← div_lt_iff₀ hunit]
          linarith
      _ = 2 ^ ((53 : Int) + e) := by
          rw [zpow_add₀ (by norm_num)]
          rfl
      _ ≤ 2 ^ (1024 : Int) := zpow_le_zpow_right₀ (by norm_num) (by have := h.greatest; omega)

theorem digits_bounds {digits : Nat} (hdigits : digits ≠ 0) :
    10 ^ ((Nat.toDigits 10 digits).length - 1) ≤ digits ∧
      digits < 10 ^ (Nat.toDigits 10 digits).length := by
  have hpos : 0 < (Nat.toDigits 10 digits).length := Nat.length_toDigits_pos
  constructor
  · by_cases hone : (Nat.toDigits 10 digits).length - 1 = 0
    · rw [hone]
      exact Nat.pos_of_ne_zero hdigits
    · by_contra hlt
      have hle := (Nat.length_toDigits_le_iff (b := 10) (by decide) (Nat.pos_of_ne_zero hone)).mpr
        (Nat.not_le.mp hlt)
      omega
  · exact (Nat.length_toDigits_le_iff (by decide) hpos).mp (Nat.le_refl _)

theorem order_bounds {digits : Nat} {exponent : Int} (hdigits : digits ≠ 0)
    (h : 2 ^ (-1075 : Int) ≤ (digits * 10 ^ exponent : ℚ) ∧
      (digits * 10 ^ exponent : ℚ) < 2 ^ (1024 : Int)) :
    -400 ≤ (Nat.toDigits 10 digits).length + exponent ∧
      (Nat.toDigits 10 digits).length + exponent ≤ 400 := by
  have hpos : 0 < (Nat.toDigits 10 digits).length := Nat.length_toDigits_pos
  obtain ⟨hlow, hhigh⟩ := digits_bounds hdigits
  obtain ⟨hsmall, hlarge⟩ := h
  generalize (Nat.toDigits 10 digits).length = length at *
  have hscale : (0 : ℚ) < 10 ^ exponent := zpow_pos (by norm_num) _
  constructor
  · have hlt : (10 : ℚ) ^ (-400 : Int) < 10 ^ ((length : Int) + exponent) :=
      calc (10 : ℚ) ^ (-400 : Int) ≤ 2 ^ (-1075 : Int) := by
            rw [zpow_neg, zpow_neg, inv_le_inv₀ (by positivity) (by positivity)]
            exact_mod_cast (by decide +kernel : 2 ^ 1075 ≤ 10 ^ 400)
        _ ≤ digits * 10 ^ exponent := hsmall
        _ < 10 ^ (length : Int) * 10 ^ exponent :=
            mul_lt_mul_of_pos_right (by exact_mod_cast hhigh) hscale
        _ = 10 ^ ((length : Int) + exponent) := (zpow_add₀ (by norm_num) _ _).symm
    rw [zpow_lt_zpow_iff_right₀ (by norm_num)] at hlt
    omega
  · have hlt : (10 : ℚ) ^ (((length - 1 : Nat) : Int) + exponent) < 10 ^ (399 : Int) :=
      calc (10 : ℚ) ^ (((length - 1 : Nat) : Int) + exponent)
          = 10 ^ ((length - 1 : Nat) : Int) * 10 ^ exponent := zpow_add₀ (by norm_num) _ _
        _ ≤ digits * 10 ^ exponent :=
            mul_le_mul_of_nonneg_right (by exact_mod_cast hlow) hscale.le
        _ < 2 ^ (1024 : Int) := hlarge
        _ ≤ 10 ^ (399 : Int) := by exact_mod_cast (by decide +kernel : 2 ^ 1024 ≤ 10 ^ 399)
    rw [zpow_lt_zpow_iff_right₀ (by norm_num)] at hlt
    omega

/-- A numeral is read as the double that attracts it. -/
theorem toFloat_of_attracts {m : Nat} {e : Int} (h : IsDouble m e) {n : Numeral}
    (hdigits : n.digits ≠ 0) (hv : Attracts m e (n.digits * 10 ^ n.exponent)) :
    n.toFloat = .ofModel (.pack (.finite (signOf n.negative) m e h.pos)) := by
  obtain ⟨hsmall, hlarge⟩ := order_bounds hdigits (Attracts.bounds h hv)
  have hlength : (Nat.toDigits 10 n.digits).length ≤ n.digits.log2 + 1 := by
    rw [Nat.length_toDigits_le_iff (by decide) (by omega)]
    exact lt_of_lt_of_le Nat.lt_log2_self (Nat.pow_le_pow_left (by decide) _)
  have hmagnitude : (if n.exponent < 0 then Float.ofScientific n.digits true n.exponent.natAbs
      else Float.ofScientific n.digits false n.exponent.natAbs) =
        .ofModel (.pack (.finite .positive m e h.pos)) := by
    split
    · next hsign =>
      refine ofScientific_of_attracts h hdigits true (by omega) (by simp) ?_
      rw [if_pos rfl, show -(n.exponent.natAbs : Int) = n.exponent by omega]
      exact hv
    · next hsign =>
      refine ofScientific_of_attracts h hdigits false (by omega) (by omega) ?_
      rw [if_neg Bool.false_ne_true, show (n.exponent.natAbs : Int) = n.exponent by omega]
      exact hv
  unfold Numeral.toFloat
  simp only [hdigits, false_or, not_lt.mpr hsmall, not_lt.mpr hlarge, if_false, hmagnitude]
  cases n.negative with
  | true => exact neg_double h
  | false => rfl

theorem toFloat_of_zero {n : Numeral} (hdigits : n.digits = 0) :
    n.toFloat = .ofModel (.pack (.zero (signOf n.negative))) := by
  obtain ⟨negative, digits, exponent⟩ := n
  obtain rfl : digits = 0 := hdigits
  unfold Numeral.toFloat
  simp only [true_or, if_true]
  cases negative <;> rfl

end BenchCharts.Decimal
