import BenchCharts.Proofs.Decimal.Comparison
import BenchCharts.Quantity

/-!
Doubles without their fractions. Dropping the fraction of a double makes it no larger, so a double
between two whole numbers stays between them.
-/
namespace BenchCharts.Decimal

open Float.Model (UnpackedFloat)
open Float.Model.UnpackedFloat

theorem mantissa_shiftRight (em : ExtendedMantissa) (k : Nat) :
    (em >>> k).mantissa = em.mantissa / 2 ^ k := by
  induction k with
  | zero => exact (Nat.div_one em.mantissa).symm
  | succ k ih =>
    change (em >>> k).mantissa / 2 = _
    rw [ih, Nat.div_div_eq_div_mul, Nat.pow_succ]

theorem roundToInt_le (m : Nat) (e : Int) : (roundToInt .positive m e : ℚ) ≤ m * 2 ^ e := by
  have hround : roundToInt .positive m e = (m <<< e.toNat / 2 ^ (-e).toNat : Nat) := by
    have hfewer : (e - 0).toNat = e.toNat := by omega
    have hmore : (0 - (e - e.toNat)).toNat = (-e).toNat := by omega
    unfold roundToInt decreaseExponent shiftToExponent
    dsimp only
    rw [mantissa_shiftRight, hfewer, hmore]
    rfl
  rw [hround, Int.cast_natCast, Nat.shiftLeft_eq]
  refine Nat.cast_div_le.trans ?_
  obtain ⟨k, rfl | rfl⟩ := e.eq_nat_or_neg
  · simp
  · simp [div_eq_mul_inv]

theorem toNat_ofNatClamp_le (n : Nat) : (UInt64.ofNatClamp n).toNat ≤ n := by
  unfold UInt64.ofNatClamp
  split
  · exact le_rfl
  · next h => exact Nat.le_trans (by decide) (Nat.le_of_not_lt h)

/-- The number of a double has no fraction, and is zero for a double below zero. -/
theorem toUInt64_le {u : UnpackedFloat} {a : ℚ} (h : Weighs u a) :
    (u.toUInt64.toNat : ℚ) ≤ max a 0 := by
  have hwhole : (u.toInt 0 (UInt64.size - 1) : ℚ) ≤ max a 0 := by
    cases h with
    | zero sign hu => simp [hu, UnpackedFloat.toInt]
    | positive m e h hu =>
      rw [hu]
      exact (roundToInt_le m e).trans (le_max_left _ _)
    | negative m e h hu =>
      have hsign : roundToInt .negative m e = -roundToInt .positive m e := rfl
      have hpositive : 0 ≤ roundToInt .positive m e := Int.natCast_nonneg _
      have hnegative : (roundToInt .negative m e : ℚ) ≤ 0 := by
        exact_mod_cast hsign ▸ Int.neg_nonpos_of_nonneg hpositive
      rw [hu]
      exact hnegative.trans (le_max_right _ _)
  have hclamp : ((u.toInt 0 (UInt64.size - 1)).toNat : ℚ) ≤ max a 0 := by
    rcases le_total 0 (u.toInt 0 (UInt64.size - 1)) with hpos | hneg
    · rwa [← Int.cast_natCast, Int.toNat_of_nonneg hpos]
    · rw [Int.toNat_of_nonpos hneg]
      exact le_max_right _ _
  refine le_trans ?_ hclamp
  exact_mod_cast toNat_ofNatClamp_le _

theorem weighs_neg {x : Float} {a : ℚ} (h : Weighs x.toModel.unpack a) :
    Weighs (-x).toModel.unpack (-a) := by
  change Weighs (Float.Model.pack x.toModel.unpack.neg).unpack (-a)
  cases h with
  | zero sign hu =>
    rw [hu, neg_zero]
    cases sign with
    | positive => exact .zero .negative rfl
    | negative => exact .zero .positive rfl
  | positive m e h hu =>
    rw [hu]
    exact .negative m e h (unpack_pack_double h .negative)
  | negative m e h hu =>
    rw [hu, neg_neg]
    exact .positive m e h (unpack_pack_double h .positive)

theorem Weighs.le_infinity {u : UnpackedFloat} {a : ℚ} (h : Weighs u a) :
    u.le (.infinity .positive) = true := by
  cases h with
  | zero sign hu => rw [hu]; rfl
  | positive m e h hu => rw [hu]; rfl
  | negative m e h hu => rw [hu]; rfl

theorem Weighs.infinity_le {u : UnpackedFloat} {a : ℚ} (h : Weighs u a) :
    UnpackedFloat.le (.infinity .negative) u = true := by
  cases h with
  | zero sign hu => rw [hu]; rfl
  | positive m e h hu => rw [hu]; rfl
  | negative m e h hu => rw [hu]; rfl

/-- A double between two others has a value, which lies between theirs. -/
theorem exists_weighs {x low high : Float} {a b : ℚ} (hlow : Weighs low.toModel.unpack a)
    (hhigh : Weighs high.toModel.unpack b) (hnumber : ¬ x.isNaN = true) (hleft : ¬ x ≤ low)
    (hright : ¬ high ≤ x) : ∃ c, Weighs x.toModel.unpack c ∧ a < c ∧ c < b := by
  rw [le_iff] at hleft hright
  have hfinite : x.isFinite = true := by
    change ¬ x.toModel.unpack.isNaN = true at hnumber
    change x.toModel.unpack.isFinite = true
    cases hu : x.toModel.unpack with
    | notANumber => exact absurd (by rw [hu]; rfl) hnumber
    | infinity sign =>
      cases sign with
      | positive => exact absurd (hu ▸ hhigh.le_infinity) hright
      | negative => exact absurd (hu ▸ hlow.infinity_le) hleft
    | zero sign => rfl
    | finite sign m e hm => rfl
  obtain ⟨c, hc⟩ := exists_value? hfinite
  have hx := weighs_of_value? hc
  refine ⟨c, hx, ?_, ?_⟩
  · rwa [UnpackedFloat.le, compare_of_weighs hx hlow, Option.any_some, Std.LawfulBCmp.isLE_iff_le,
      not_le] at hleft
  · rwa [UnpackedFloat.le, compare_of_weighs hhigh hx, Option.any_some,
      Std.LawfulBCmp.isLE_iff_le, not_le] at hright

theorem weighs_ofNat {n : Nat} (h : n < 2 ^ 53) : Weighs (Float.ofNat n).toModel.unpack n := by
  by_cases hn : n = 0
  · subst hn
    exact .zero .positive rfl
  · have hplaces := places_le n
    obtain ⟨hleading, hlt⟩ := isNormal_moved hn h
    have hdouble : IsDouble (n * 2 ^ places n) (-places n) :=
      ⟨by omega, hlt, by omega, by omega, fun _ => hleading⟩
    have hvalue : ((n * 2 ^ places n : Nat) : ℚ) * 2 ^ (-places n : Int) = n := by
      simp
    exact hvalue ▸ .positive _ _ hdouble (unpack_ofNat hn h)

theorem weighs_ofInt {n : Int} (h : n.natAbs < 2 ^ 53) :
    Weighs (Float.ofInt n).toModel.unpack n := by
  cases n with
  | ofNat n => exact weighs_ofNat h
  | negSucc n =>
    rw [Int.cast_negSucc]
    exact weighs_neg (weighs_ofNat h)

/-- A double without its fraction keeps to the bounds. -/
theorem saturate_mem {low high : Int} (hnonpos : low ≤ 0) (hnonneg : 0 ≤ high)
    (hlow : low.natAbs < 2 ^ 53) (hhigh : high.natAbs < 2 ^ 53) (x : Float) :
    low ≤ saturate low high x ∧ saturate low high x ≤ high := by
  unfold saturate
  split
  · exact ⟨hnonpos, hnonneg⟩
  · next hnumber =>
    split
    · exact ⟨le_rfl, hnonpos.trans hnonneg⟩
    · next hleft =>
      split
      · exact ⟨hnonpos.trans hnonneg, le_rfl⟩
      · next hright =>
        obtain ⟨c, hx, hac, hcb⟩ := exists_weighs (weighs_ofInt hlow) (weighs_ofInt hhigh)
          hnumber hleft hright
        split
        · have hnumber := toUInt64_le (weighs_neg hx)
          change ((-x).toUInt64.toNat : ℚ) ≤ _ at hnumber
          have hbelow : ((-x).toUInt64.toNat : ℚ) ≤ -low :=
            hnumber.trans
              (max_le (by linarith) (by exact_mod_cast Int.neg_nonneg_of_nonpos hnonpos))
          have hbelow' : ((-x).toUInt64.toNat : Int) ≤ -low := by exact_mod_cast hbelow
          omega
        · have hnumber := toUInt64_le hx
          change (x.toUInt64.toNat : ℚ) ≤ _ at hnumber
          have habove : (x.toUInt64.toNat : ℚ) ≤ high :=
            hnumber.trans (max_le hcb.le (by exact_mod_cast hnonneg))
          have habove' : (x.toUInt64.toNat : Int) ≤ high := by exact_mod_cast habove
          omega

end BenchCharts.Decimal
