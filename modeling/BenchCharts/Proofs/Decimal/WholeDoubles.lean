import Mathlib
import BenchCharts.Decimal.Numeral
import BenchCharts.Quantity

/-!
Whole numbers as doubles. Up to 53 bits a whole number becomes the double whose mantissa is that
number, moved until its leading bit is in place. Nothing is rounded then, so the double gives the
number back, and doubles compare as the numbers do.
-/
namespace BenchCharts.Decimal

open Float.Model (Format UnpackedFloat totalExponent)
open Float.Model.UnpackedFloat

/-- A mantissa whose leading bit is in place. -/
def IsNormal (m : Nat) : Prop := 2 ^ 52 ≤ m ∧ m < 2 ^ 53

theorem IsNormal.pos {m : Nat} (h : IsNormal m) : 0 < m := Nat.lt_of_lt_of_le (by decide) h.1

theorem IsNormal.log2_scaled {m : Nat} (h : IsNormal m) (k : Nat) : (m * 2 ^ k).log2 = 52 + k := by
  have hne : m * 2 ^ k ≠ 0 := Nat.ne_of_gt (Nat.mul_pos h.pos (Nat.two_pow_pos k))
  refine (Nat.log2_eq_iff hne).mpr ⟨?_, ?_⟩
  · rw [Nat.pow_add]
    exact Nat.mul_le_mul_right _ h.1
  · have hlt := Nat.mul_lt_mul_of_pos_right h.2 (Nat.two_pow_pos k)
    have hpow : 2 ^ (52 + k + 1) = 2 ^ 53 * 2 ^ k := by
      rw [← Nat.pow_add]
      congr 1
      omega
    omega

/-- By how many places a number is moved. -/
def places (n : Nat) : Nat := 52 - n.log2

theorem places_le (n : Nat) : places n ≤ 52 := Nat.sub_le 52 n.log2

theorem isNormal_moved {n : Nat} (hne : n ≠ 0) (h : n < 2 ^ 53) : IsNormal (n * 2 ^ places n) := by
  have hlog : n.log2 < 53 := (Nat.log2_lt hne).mpr h
  obtain ⟨hlow, hhigh⟩ := (Nat.log2_eq_iff hne).mp rfl
  have hsum : n.log2 + places n = 52 := by
    unfold places
    omega
  constructor
  · have hle := Nat.mul_le_mul_right (2 ^ places n) hlow
    rwa [← Nat.pow_add, hsum] at hle
  · have hlt := Nat.mul_lt_mul_of_pos_right hhigh (Nat.two_pow_pos (places n))
    have hnext : n.log2 + 1 + places n = 53 := by omega
    rwa [← Nat.pow_add, hnext] at hlt

section Rounding

theorem targetExponent_scaled {m : Nat} (hm : IsNormal m) (k : Nat) {e : Int} (he : -1074 ≤ e) :
    Format.binary64.targetExponent (totalExponent (m * 2 ^ k) (e - k)) = e := by
  simp only [Format.targetExponent, totalExponent, hm.log2_scaled, Format.mantissaBits,
    Format.minExponent]
  omega

/-- Places that hold no bits are dropped one by one. -/
theorem shiftRight_scaled (m k : Nat) :
    (⟨m * 2 ^ k, false, false⟩ : ExtendedMantissa) >>> k = ⟨m, false, false⟩ := by
  induction k generalizing m with
  | zero => simp [HShiftRight.hShiftRight, Nat.repeat]
  | succ k ih =>
    have hnext := ih (m * 2)
    have hpow : m * 2 * 2 ^ k = m * 2 ^ (k + 1) := by rw [Nat.mul_assoc, ← Nat.pow_succ']
    rw [hpow] at hnext
    change ExtendedMantissa.shiftRightOne
      ((⟨m * 2 ^ (k + 1), false, false⟩ : ExtendedMantissa) >>> k) = _
    rw [hnext]
    simp [ExtendedMantissa.shiftRightOne]

theorem shiftToTargetExponent_scaled {m : Nat} (hm : IsNormal m) (k : Nat) {e : Int}
    (he : -1074 ≤ e) :
    shiftToTargetExponent Format.binary64 (m * 2 ^ k) (e - k) .exact = (⟨m, false, false⟩, e) := by
  have hshift : (e - (e - k)).toNat = k := by omega
  simp only [shiftToTargetExponent, targetExponent_scaled hm k he, shiftToExponent, hshift,
    ExtendedMantissa.ofMantissaAndAccuracy, shiftRight_scaled]
  congr 1
  omega

theorem roundWithAccuracy_scaled {m : Nat} (hm : IsNormal m) (k : Nat)
    {e : Int} (he : -1074 ≤ e) :
    roundWithAccuracy Format.binary64 .positive (m * 2 ^ k) (e - k) .exact =
      .finite .positive m e hm.pos := by
  have hagain := shiftToTargetExponent_scaled hm 0 he
  simp only [Nat.pow_zero, Nat.mul_one, Int.ofNat_zero, Int.sub_zero] at hagain
  simp [roundWithAccuracy, shiftToTargetExponent_scaled hm k he, ExtendedMantissa.roundedMantissa,
    ExtendedMantissa.accuracy, Accuracy.roundToNearestEven, hagain, Nat.ne_of_gt hm.pos]

end Rounding

section Fields

variable {m : Nat} (hm : IsNormal m) {e : Int} (he : -1074 ≤ e) (he' : e ≤ 971)

/-- The field of an exponent. -/
def exponentField (e : Int) : BitVec 11 := BitVec.ofNat 11 (e + 1023 + 52).toNat

include hm in
/-- The leading bit has no place in the field of a mantissa. -/
theorem toNat_leadingBit : (1#1 ++ BitVec.ofNat 52 m).toNat = m := by
  have hlt : m % 2 ^ 52 < 2 ^ 52 := Nat.mod_lt _ (by decide)
  have hsum := Nat.two_pow_add_eq_or_of_lt hlt 1
  have hone : 1 % 2 ^ 1 * 2 ^ 52 = 2 ^ 52 := by decide
  obtain ⟨hlow, hhigh⟩ := hm
  rw [Nat.mul_one] at hsum
  rw [BitVec.toNat_append, BitVec.toNat_ofNat, BitVec.toNat_ofNat, Nat.shiftLeft_eq, hone, ← hsum]
  omega

include he' in
theorem toNat_exponentField : (exponentField e).toNat = (e + 1023 + 52).toNat := by
  rw [exponentField, BitVec.toNat_ofNat]
  exact Nat.mod_eq_of_lt (by omega)

include he he'

theorem pack_normal (sign : Sign) :
    pack Format.binary64 (.finite sign m e hm.pos) =
      packComponents Format.binary64 sign (exponentField e) (BitVec.ofNat 52 m) := by
  have hfield : (e + 1023 + 52).toNat + 1 < 2048 := by omega
  have hsmall : ¬ 2 ^ Format.binary64.exponentBits ≤ (e + Format.binary64.exponentBias +
      Format.binary64.mantissaBitsWithoutImplicit).toNat + 1 := Nat.not_le.mpr hfield
  have hlog : m.log2 = 52 := by simpa using hm.log2_scaled 0
  have hbits : m.log2 + 1 = Format.binary64.mantissaBits := by rw [hlog]; rfl
  simp only [pack, if_neg hsmall, if_pos hbits]
  rfl

/-- A mantissa in its place fills the fields of a double, which give it back. -/
theorem unpack_pack (sign : Sign) :
    (Float.Model.pack (.finite sign m e hm.pos)).unpack = .finite sign m e hm.pos := by
  have hexponent := toNat_exponentField he'
  have hlast : exponentField e ≠ -1#11 := by
    intro heq
    have hvalue := congrArg BitVec.toNat heq
    rw [hexponent] at hvalue
    simp at hvalue
    omega
  have hfirst : exponentField e ≠ 0#11 := by
    intro heq
    have hvalue := congrArg BitVec.toNat heq
    rw [hexponent] at hvalue
    simp at hvalue
    omega
  have hback : ((e + 1023 + 52).toNat : Int) - (1023 + 52) = e := by omega
  have hbias : ((exponentField e).toNat : Int) -
      (Format.binary64.exponentBias + Format.binary64.mantissaBitsWithoutImplicit) = e := by
    rw [hexponent]
    exact hback
  change unpack Format.binary64 (pack Format.binary64 (.finite sign m e hm.pos)) = _
  rw [pack_normal hm he he' sign]
  simp only [unpack, unpackMantissa_packComponents, unpackExponent_packComponents,
    unpackSign_packComponents, Sign.ofBitVec_toBitVec]
  rw [if_neg hlast, if_neg hfirst]
  simp only [hbias, toNat_leadingBit hm]

end Fields

section Whole

variable {n : Nat} (hne : n ≠ 0) (h : n < 2 ^ 53)
include hne h

theorem round_whole :
    UnpackedFloat.round Format.binary64 .positive n 0 =
      .finite .positive (n * 2 ^ places n) (-places n) (isNormal_moved hne h).pos := by
  have hlog : n.log2 < 53 := (Nat.log2_lt hne).mpr h
  have htarget : Format.binary64.targetExponent (totalExponent n 0) = -places n := by
    simp only [Format.targetExponent, totalExponent, Format.mantissaBits, Format.minExponent,
      places]
    omega
  have hshift : (0 - -(places n : Int)).toNat = places n := by omega
  have hrounded := roundWithAccuracy_scaled (isNormal_moved hne h) 0
    (e := -(places n : Int)) (by have := places_le n; omega)
  simp only [Nat.pow_zero, Nat.mul_one, Int.ofNat_zero, Int.sub_zero] at hrounded
  simp only [UnpackedFloat.round, htarget, decreaseExponent, hshift, Nat.shiftLeft_eq]
  rw [Int.zero_sub, hrounded]

/-- A word becomes the double that holds its bits. -/
theorem unpack_toFloat :
    (n.toUInt64.toFloat).toModel.unpack =
      .finite .positive (n * 2 ^ places n) (-places n) (isNormal_moved hne h).pos := by
  have hplaces := places_le n
  have hnormal := isNormal_moved hne h
  have hword : n.toUInt64.toNat = n := by
    simp only [Nat.toUInt64_eq, UInt64.toNat_ofNat']
    exact Nat.mod_eq_of_lt (by omega)
  have hpositive : compare (n : Int) 0 = .gt := Int.compare_eq_gt.mpr (by omega)
  have hinteger : (n.toUInt64.toFloat).toModel =
      Float.Model.pack (.finite .positive (n * 2 ^ places n) (-places n) hnormal.pos) := by
    change Float.Model.pack
      (UnpackedFloat.normalize Format.binary64 (n.toUInt64.toNat : Int) 0 .positive) = _
    rw [hword, UnpackedFloat.normalize, hpositive]
    simp only [Int.toNat_natCast, round_whole hne h]
  rw [hinteger, unpack_pack hnormal (by omega) (by omega) .positive]

/-- The double of a whole number holds its bits. -/
theorem unpack_ofNat :
    (Float.ofNat n).toModel.unpack =
      .finite .positive (n * 2 ^ places n) (-places n) (isNormal_moved hne h).pos := by
  have hplaces := places_le n
  have hnormal := isNormal_moved hne h
  have hone : (Float.ofBits 0x3FF0000000000000).toModel.unpack =
      .finite .positive (2 ^ 52) (-52) (by decide) := by rfl
  have hproduct : Float.ofNat n = n.toUInt64.toFloat * Float.ofBits 0x3FF0000000000000 := by
    change Float.ofScientific n false 0 = _
    rw [Float.ofScientific, dif_pos ⟨h, by decide⟩]
    rfl
  have hrounded := roundWithAccuracy_scaled hnormal 52 (e := -(places n : Int)) (by omega)
  rw [hproduct]
  change (Float.Model.pack (mul Format.binary64 (n.toUInt64.toFloat).toModel.unpack
    (Float.ofBits 0x3FF0000000000000).toModel.unpack)).unpack = _
  rw [unpack_toFloat hne h, hone]
  change (Float.Model.pack (roundWithAccuracy Format.binary64 .positive (n * 2 ^ places n * 2 ^ 52)
    (-places n - (52 : Nat)) .exact)).unpack = _
  rw [hrounded, unpack_pack hnormal (by omega) (by omega) .positive]

end Whole

theorem unpack_zero : (Float.ofNat 0).toModel.unpack = .zero .positive := by rfl

section Comparison

theorem le_iff (x y : Float) : x ≤ y ↔ x.toModel.unpack.le y.toModel.unpack = true := by
  change decide (x.toModel.unpack.le y.toModel.unpack = true) = true ↔ _
  rw [decide_eq_true_iff]

theorem lt_iff (x y : Float) : x < y ↔ x.toModel.unpack.lt y.toModel.unpack = true := by
  change decide (x.toModel.unpack.lt y.toModel.unpack = true) = true ↔ _
  rw [decide_eq_true_iff]

theorem places_anti {a b : Nat} (hb : b ≠ 0) (h : b ≤ a) : places a ≤ places b := by
  have hlog : b.log2 ≤ a.log2 := by
    have hpow : 2 ^ b.log2 ≤ a := Nat.le_trans ((Nat.le_log2 hb).mp (Nat.le_refl _)) h
    exact (Nat.le_log2 (by omega)).mpr hpow
  unfold places
  omega

/-- A larger number gives a larger double. -/
theorem not_ofNat_le {a b : Nat} (hlt : b < a) (ha : a < 2 ^ 53) :
    ¬ Float.ofNat a ≤ Float.ofNat b := by
  have hne : a ≠ 0 := by omega
  rw [le_iff, unpack_ofNat hne ha]
  by_cases hb : b = 0
  · rw [hb, unpack_zero]
    simp [UnpackedFloat.le, UnpackedFloat.compare]
  · rw [unpack_ofNat hb (by omega)]
    have hplaces := places_anti hb (Nat.le_of_lt hlt)
    have hcompare : ((compare (-places a : Int) (-places b)).then
        (compare (a * 2 ^ places a) (b * 2 ^ places b))) = .gt := by
      by_cases heq : places a = places b
      · have hmul : b * 2 ^ places b < a * 2 ^ places b :=
          Nat.mul_lt_mul_of_pos_right hlt (Nat.two_pow_pos _)
        rw [heq, Int.compare_eq_eq.mpr rfl, Nat.compare_eq_gt.mpr hmul]
        rfl
      · rw [Int.compare_eq_gt.mpr (by omega)]
        rfl
    simp only [UnpackedFloat.le, UnpackedFloat.compare, hcompare]
    decide

theorem not_ofNat_lt_zero {n : Nat} (h : n < 2 ^ 53) : ¬ Float.ofNat n < 0 := by
  rw [lt_iff]
  change ¬ (Float.ofNat n).toModel.unpack.lt (Float.ofNat 0).toModel.unpack = true
  rw [unpack_zero]
  by_cases hn : n = 0
  · rw [hn, unpack_zero]
    decide
  · rw [unpack_ofNat hn h]
    simp [UnpackedFloat.lt, UnpackedFloat.compare]

theorem not_maxWord_le {n : Nat} (h : n < 2 ^ 53) : ¬ Float.ofNat maxWord ≤ Float.ofNat n := by
  have hword : (Float.ofNat maxWord).toModel.unpack =
      .finite .positive (2 ^ 52) 12 (by decide) := by rfl
  rw [le_iff, hword]
  by_cases hn : n = 0
  · rw [hn, unpack_zero]
    decide
  · rw [unpack_ofNat hn h]
    have hcompare : compare (12 : Int) (-places n) = .gt := Int.compare_eq_gt.mpr (by omega)
    simp [UnpackedFloat.le, UnpackedFloat.compare, hcompare]

end Comparison

theorem isFinite_ofNat {n : Nat} (h : n < 2 ^ 53) : (Float.ofNat n).isFinite = true := by
  change (Float.ofNat n).toModel.unpack.isFinite = true
  by_cases hn : n = 0
  · rw [hn, unpack_zero]
    rfl
  · rw [unpack_ofNat hn h]
    rfl

theorem isNaN_ofNat {n : Nat} (h : n < 2 ^ 53) : (Float.ofNat n).isNaN = false := by
  change (Float.ofNat n).toModel.unpack.isNaN = false
  by_cases hn : n = 0
  · rw [hn, unpack_zero]
    rfl
  · rw [unpack_ofNat hn h]
    rfl

theorem toUInt64_ofNat {n : Nat} (h : n < 2 ^ 53) : (Float.ofNat n).toUInt64.toNat = n := by
  change (UnpackedFloat.toUInt64 (Float.ofNat n).toModel.unpack).toNat = n
  by_cases hn : n = 0
  · rw [hn, unpack_zero]
    rfl
  · have hmoved : roundToInt .positive (n * 2 ^ places n) (-places n) = n := by
      have hnone : (-(places n : Int) - 0).toNat = 0 := by omega
      have hshift : (0 - (-(places n : Int) - (0 : Nat))).toNat = places n := by omega
      simp only [roundToInt, decreaseExponent, hnone, Nat.shiftLeft_zero, shiftToExponent, hshift,
        ExtendedMantissa.ofMantissaAndAccuracy, shiftRight_scaled]
      rfl
    rw [unpack_ofNat hn h]
    simp only [UnpackedFloat.toUInt64, UnpackedFloat.toInt, hmoved, Int.toNat_natCast]
    have hword : n < UInt64.size := Nat.lt_trans h (by decide)
    rw [UInt64.toNat_ofNatClamp_of_lt hword]

/-- A numeral of digits alone is the double of their number. -/
theorem toFloat_whole {n : Nat} (h : n ≤ 2 ^ 53) :
    Numeral.toFloat ⟨false, n, 0⟩ = Float.ofNat n := by
  have hlength : (Nat.toDigits 10 n).length ≤ 16 :=
    (Nat.length_toDigits_le_iff (by decide) (by decide)).mpr (by omega)
  have hlow : ¬ ((Nat.toDigits 10 n).length : Int) + 0 < -400 := by omega
  have hhigh : ¬ 400 < ((Nat.toDigits 10 n).length : Int) + 0 := by omega
  unfold Numeral.toFloat
  by_cases hn : n = 0
  · subst hn
    rfl
  · simp only [hn, hlow, hhigh, or_self, if_false, Bool.false_eq_true]
    rfl

/-- A whole number of up to 53 bits comes back from its double. -/
theorem saturate_ofNat {n bound : Nat} (h : n ≤ bound) (hn : n ≤ 2 ^ 53)
    (hbound : bound < 2 ^ 53 ∨ bound = maxWord) : saturate 0 bound (Float.ofNat n) = n := by
  by_cases hlarge : n = 2 ^ 53
  · have hword : bound = maxWord := by
      rcases hbound with hsmall | hword
      · omega
      · exact hword
    rw [hword, hlarge]
    decide +kernel
  · have hsmall : n < 2 ^ 53 := by omega
    have hupper : Float.ofNat bound ≤ Float.ofNat n → bound = n := by
      intro hle
      rcases hbound with hbound | rfl
      · by_cases hlt : n < bound
        · exact absurd hle (not_ofNat_le hlt hbound)
        · omega
      · exact absurd hle (not_maxWord_le hsmall)
    have hlower : Float.ofNat n ≤ Float.ofNat 0 → n = 0 := by
      intro hle
      by_cases hlt : 0 < n
      · exact absurd hle (not_ofNat_le hlt hsmall)
      · omega
    have hinteger (k : Nat) : Float.ofInt k = Float.ofNat k := rfl
    have hzero : Float.ofInt 0 = Float.ofNat 0 := rfl
    rw [saturate, isNaN_ofNat hsmall, hinteger, hzero]
    simp only [Bool.false_eq_true, if_false, not_ofNat_lt_zero hsmall, toUInt64_ofNat hsmall]
    split
    · next hle => rw [hlower hle]; rfl
    · split
      · next hle => rw [hupper hle]
      · rfl

end BenchCharts.Decimal
