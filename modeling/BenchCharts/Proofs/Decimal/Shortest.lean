import BenchCharts.Proofs.Decimal.Digits
import BenchCharts.Proofs.Decimal.Nearest

/-!
The shortest digits of a double round to it. Seventeen digits always suffice: the grid of decimals
is then finer than the doubles are apart, so that one of the two neighbours of a double on the grid
is near enough.
-/
namespace BenchCharts.Decimal

theorem value_stripZeros (digits : Nat) (exponent : Int) :
    ((stripZeros digits exponent).digits : ℚ) * 10 ^ (stripZeros digits exponent).exponent =
      digits * 10 ^ exponent := by
  induction digits using Nat.strongRecOn generalizing exponent with
  | ind digits ih =>
    unfold stripZeros
    split
    · next hzero =>
      have hsum : (digits : ℚ) = (digits / 10 : Nat) * 10 := by
        exact_mod_cast (by omega : digits = digits / 10 * 10)
      rw [ih _ (by omega), hsum, zpow_add_one₀ (by norm_num)]
      ring
    · rfl

/-! ## The interval of a double -/

/-- How often a quarter of the last place is taken where candidates are compared. -/
def compareScale (e k : Int) : ℚ := 4 * 2 ^ (e - 2).toNat * 10 ^ (-k).toNat

theorem compareScale_pos (e k : Int) : 0 < compareScale e k := by
  unfold compareScale
  positivity

theorem cast_candidate (e k : Int) (c : Nat) :
    ((c * 10 ^ k.toNat * 2 ^ (2 - e).toNat : Nat) : ℚ) =
      c * 10 ^ k / 2 ^ e * compareScale e k := by
  have hpower : (2 : ℚ) ^ e = 4 * (2 ^ (e - 2).toNat / 2 ^ (2 - e).toNat) := by
    have hsplit := zpow_eq_div two_ne_zero (e - 2)
    rw [neg_sub] at hsplit
    rw [← hsplit, zpow_sub₀ two_ne_zero]
    ring
  unfold compareScale
  rw [hpower, zpow_eq_div (by norm_num) k]
  push_cast
  field_simp

theorem cast_quarters (e k : Int) (a : Nat) :
    ((a * 2 ^ (e - 2).toNat * 10 ^ (-k).toNat : Nat) : ℚ) = a / 4 * compareScale e k := by
  unfold compareScale
  push_cast
  ring

theorem cast_low {m : Nat} (e : Int) (hm : 0 < m) :
    ((4 * m - if m = 2 ^ 52 ∧ -1074 < e then 1 else 2 : Nat) : ℚ) / 4 = m - reachBelow m e := by
  rw [Nat.cast_sub (by split <;> omega)]
  unfold reachBelow
  split <;> push_cast <;> ring

theorem cast_high (m : Nat) : ((4 * m + 2 : Nat) : ℚ) / 4 = m + 1 / 2 := by
  push_cast
  ring

/-- Candidates are compared as their values are. -/
theorem holds_iff (m : Nat) (e k : Int) (c : Nat) (hm : 0 < m) :
    (Rounding.ofBinary m e).holds (Nat.pow 10 k.toNat) (Nat.pow 10 (-k).toNat) c = true ↔
      if m % 2 = 0 then
        m - reachBelow m e ≤ c * 10 ^ k / 2 ^ e ∧ c * 10 ^ k / 2 ^ e ≤ (m + 1 / 2 : ℚ)
      else m - reachBelow m e < c * 10 ^ k / 2 ^ e ∧ c * 10 ^ k / 2 ^ e < (m + 1 / 2 : ℚ) := by
  have hle {a b : Nat} {x y : ℚ} (ha : (a : ℚ) = x * compareScale e k)
      (hb : (b : ℚ) = y * compareScale e k) : a ≤ b ↔ x ≤ y := by
    rw [← @Nat.cast_le ℚ, ha, hb, mul_le_mul_iff_of_pos_right (compareScale_pos e k)]
  have hlt {a b : Nat} {x y : ℚ} (ha : (a : ℚ) = x * compareScale e k)
      (hb : (b : ℚ) = y * compareScale e k) : a < b ↔ x < y := by
    rw [← not_le, ← not_le, hle hb ha]
  have hcandidate := cast_candidate e k c
  have hlow := cast_quarters e k (4 * m - if m = 2 ^ 52 ∧ -1074 < e then 1 else 2)
  have hhigh := cast_quarters e k (4 * m + 2)
  rw [cast_low e hm] at hlow
  rw [cast_high] at hhigh
  simp only [Rounding.holds, Rounding.ofBinary, Nat.one_shiftLeft]
  by_cases heven : m % 2 = 0
  · simp only [heven, decide_true, if_true, Bool.and_eq_true, decide_eq_true_eq]
    exact and_congr (hle hlow hcandidate) (hle hcandidate hhigh)
  · simp only [heven, decide_false, if_false, Bool.and_eq_true, decide_eq_true_eq,
      Bool.false_eq_true]
    exact and_congr (hlt hlow hcandidate) (hlt hcandidate hhigh)

theorem attracts_of_holds {m : Nat} {e k : Int} {c : Nat} (hm : 0 < m)
    (h : (Rounding.ofBinary m e).holds (Nat.pow 10 k.toNat) (Nat.pow 10 (-k).toNat) c = true) :
    Attracts m e (c * 10 ^ k) := by
  rw [holds_iff m e k c hm] at h
  split at h
  · next heven => exact Or.inr ⟨heven, h⟩
  · exact Or.inl h

theorem holds_of_within {m : Nat} {e k : Int} {c : Nat} (hm : 0 < m)
    (hlow : m - reachBelow m e < c * 10 ^ k / 2 ^ e)
    (hhigh : c * 10 ^ k / 2 ^ e < (m + 1 / 2 : ℚ)) :
    (Rounding.ofBinary m e).holds (Nat.pow 10 k.toNat) (Nat.pow 10 (-k).toNat) c = true := by
  rw [holds_iff m e k c hm]
  split
  · exact ⟨hlow.le, hhigh.le⟩
  · exact ⟨hlow, hhigh⟩

/-! ## The order of a value -/

theorem reaches_iff (m : Nat) (e k : Int) :
    Binary64.denominator e * Nat.pow 10 k.toNat ≤ Binary64.numerator m e * Nat.pow 10 (-k).toNat ↔
      (10 : ℚ) ^ k ≤ m * 2 ^ e := by
  rw [zpow_eq_div (by norm_num) k, zpow_eq_div (by norm_num) e, ← mul_div_assoc,
    div_le_div_iff₀ (by positivity) (by positivity)]
  change 1 <<< (-e).toNat * 10 ^ k.toNat ≤ m <<< e.toNat * 10 ^ (-k).toNat ↔ _
  simp only [Nat.shiftLeft_eq, one_mul]
  rw [← @Nat.cast_le ℚ, mul_comm]
  push_cast
  rfl

/-- The estimate from the binary length is at most one too large, because `1233 / 4096` is just
below the logarithm of two. -/
theorem pow_estimate_le {b : Int} (hb : -4096 ≤ b) : (10 : ℚ) ^ (b * 1233 / 4096 - 1) ≤ 2 ^ b := by
  have hfloor : b * 1233 / 4096 * 4096 ≤ b * 1233 := Int.ediv_mul_le _ (by decide)
  have hpower : ((10 : ℚ) ^ (b * 1233 / 4096 - 1)) ^ 4096 ≤ (2 ^ b) ^ 4096 := by
    rw [← zpow_natCast, ← zpow_natCast, ← zpow_mul, ← zpow_mul]
    by_cases hsign : 0 ≤ b
    · obtain ⟨n, rfl⟩ := Int.eq_ofNat_of_zero_le hsign
      calc (10 : ℚ) ^ (((n : Int) * 1233 / 4096 - 1) * (4096 : Nat))
          ≤ 10 ^ ((1233 * n : Nat) : Int) := zpow_le_zpow_right₀ (by norm_num) (by push_cast; omega)
        _ = (10 ^ 1233) ^ n := by rw [zpow_natCast, pow_mul]
        _ ≤ (2 ^ 4096) ^ n := pow_le_pow_left₀ (by positivity)
            (by exact_mod_cast (by decide +kernel : 10 ^ 1233 ≤ 2 ^ 4096)) n
        _ = 2 ^ ((n : Int) * (4096 : Nat)) := by
            rw [← pow_mul, ← zpow_natCast]
            congr 1
            push_cast
            ring
    · obtain ⟨n, rfl⟩ : ∃ n : Nat, b = -n := ⟨b.natAbs, by omega⟩
      calc (10 : ℚ) ^ ((-(n : Int) * 1233 / 4096 - 1) * (4096 : Nat))
          ≤ 10 ^ (-((1234 * n : Nat) : Int)) :=
            zpow_le_zpow_right₀ (by norm_num) (by push_cast; omega)
        _ = ((10 ^ 1234) ^ n)⁻¹ := by rw [zpow_neg, zpow_natCast, pow_mul]
        _ ≤ ((2 ^ 4096) ^ n)⁻¹ := by
            rw [inv_le_inv₀ (by positivity) (by positivity)]
            exact pow_le_pow_left₀ (by positivity)
              (by exact_mod_cast (by decide +kernel : 2 ^ 4096 ≤ 10 ^ 1234)) n
        _ = 2 ^ (-(n : Int) * (4096 : Nat)) := by
            rw [← pow_mul, ← zpow_natCast, ← zpow_neg]
            congr 1
            push_cast
            ring
  exact le_of_pow_le_pow_left₀ (by norm_num) (by positivity) hpower

theorem pow_decimalOrder_le {m : Nat} {e : Int} (hm : m ≠ 0) (he : -1074 ≤ e) :
    (10 : ℚ) ^ decimalOrder m e ≤ m * 2 ^ e := by
  have hlength : (2 : ℚ) ^ ((m.log2 : Int) + e) ≤ m * 2 ^ e := by
    rw [zpow_add₀ two_ne_zero, zpow_natCast]
    exact mul_le_mul_of_nonneg_right (by exact_mod_cast Nat.log2_self_le hm) (by positivity)
  unfold decimalOrder
  simp only [decide_eq_true_eq, reaches_iff]
  split
  · assumption
  · split
    · assumption
    · exact (pow_estimate_le (by omega)).trans hlength

/-! ## Seventeen digits -/

/-- Both neighbours of the value on the grid are tried. -/
theorem exists_onGrid_iff (r : Rounding) (k : Int) :
    let floor := r.value * Nat.pow 10 (-k).toNat / (Nat.pow 10 k.toNat * r.denominator)
    (∃ c, r.onGrid k = some c) ↔
      r.holds (Nat.pow 10 k.toNat) (Nat.pow 10 (-k).toNat) floor = true ∨
        r.holds (Nat.pow 10 k.toNat) (Nat.pow 10 (-k).toNat) (floor + 1) = true := by
  intro floor
  unfold Rounding.onGrid
  dsimp only
  split <;> simp_all [floor]

/-- On a grid that is finer than the interval of a double, a neighbour of the double lies within
it. -/
theorem exists_onGrid {m : Nat} {e k : Int} (hm : 0 < m)
    (hfine : 10 ^ k / 2 ^ e < 2 * reachBelow m e) :
    ∃ c, (Rounding.ofBinary m e).onGrid k = some c := by
  obtain ⟨scale, hscaleEq⟩ : ∃ scale, scale = 10 ^ k.toNat * 2 ^ (2 - e).toNat := ⟨_, rfl⟩
  obtain ⟨scaled, hscaledEq⟩ :
      ∃ scaled, scaled = 4 * m * 2 ^ (e - 2).toNat * 10 ^ (-k).toNat := ⟨_, rfl⟩
  have hscale : 0 < scale := by
    rw [hscaleEq]
    positivity
  have hcandidate (c : Nat) :
      ((c * scale : Nat) : ℚ) = c * (10 ^ k / 2 ^ e) * compareScale e k := by
    rw [hscaleEq, ← mul_div_assoc, ← cast_candidate, mul_assoc]
  have hscaled : (scaled : ℚ) = m * compareScale e k := by
    rw [hscaledEq, cast_quarters]
    push_cast
    ring
  have hpos := compareScale_pos e k
  have hfloor : (scaled / scale : Nat) * (10 ^ k / 2 ^ e) ≤ (m : ℚ) := by
    rw [← mul_le_mul_iff_of_pos_right hpos, ← hcandidate, ← hscaled, Nat.cast_le]
    exact Nat.div_mul_le_self _ _
  have hnext : (m : ℚ) < ((scaled / scale : Nat) + 1) * (10 ^ k / 2 ^ e) := by
    rw [← mul_lt_mul_iff_of_pos_right hpos, ← Nat.cast_add_one, ← hcandidate, ← hscaled,
      Nat.cast_lt, Nat.mul_comm]
    exact Nat.lt_mul_div_succ _ hscale
  have hreach := reachBelow_le m e
  have hgrid : (Rounding.ofBinary m e).value * Nat.pow 10 (-k).toNat /
      (Nat.pow 10 k.toNat * (Rounding.ofBinary m e).denominator) = scaled / scale := by
    simp only [Rounding.ofBinary, Nat.one_shiftLeft, hscaledEq, hscaleEq]
    rfl
  refine (exists_onGrid_iff _ k).mpr ?_
  rw [hgrid]
  rcases le_or_gt (m - (scaled / scale : Nat) * (10 ^ k / 2 ^ e) : ℚ) (10 ^ k / 2 ^ e / 2) with
    hnear | hfar
  · refine Or.inl (holds_of_within hm ?_ ?_) <;> rw [mul_div_assoc] <;> linarith
  · refine Or.inr (holds_of_within hm ?_ ?_) <;> rw [mul_div_assoc] <;> push_cast <;> linarith

/-- The double is less than seventeen digits away from the next one. -/
theorem seventeenth_grid {m : Nat} {e : Int} (h : IsDouble m e) :
    10 ^ (decimalOrder m e - 16) / 2 ^ e < 2 * reachBelow m e := by
  have hunit : (0 : ℚ) < 2 ^ e := by positivity
  have horder := pow_decimalOrder_le h.pos.ne' h.least
  have hlt : (m : ℚ) < 2 ^ 53 := by exact_mod_cast h.lt
  rw [div_lt_iff₀ hunit, zpow_sub₀ (by norm_num), div_lt_iff₀ (by positivity)]
  refine lt_of_le_of_lt horder ?_
  have hshare : (m : ℚ) < 2 * reachBelow m e * 10 ^ (16 : Int) := by
    unfold reachBelow
    split
    · next hpower =>
      rw [hpower.1]
      norm_num
    · norm_num at hlt ⊢
      linarith
  calc (m : ℚ) * 2 ^ e < 2 * reachBelow m e * 10 ^ (16 : Int) * 2 ^ e :=
        mul_lt_mul_of_pos_right hshare hunit
    _ = 2 * reachBelow m e * 2 ^ e * 10 ^ (16 : Int) := by ring

/-- The shortest digits round to their double. -/
theorem shortest_attracts {m : Nat} {e : Int} (h : IsDouble m e) :
    (shortest m e).digits ≠ 0 ∧
      Attracts m e ((shortest m e).digits * 10 ^ (shortest m e).exponent) := by
  unfold shortest
  dsimp only
  cases hfound : (List.range 17).findSome? fun (n : Nat) =>
      ((Rounding.ofBinary m e).onGrid (decimalOrder m e - (n : Int))).map
        fun digits => stripZeros digits (decimalOrder m e - (n : Int)) with
  | none =>
    obtain ⟨c, hc⟩ := exists_onGrid h.pos (seventeenth_grid h)
    have hnone := List.findSome?_eq_none_iff.mp hfound 16 (by decide)
    simp [hc] at hnone
  | some d =>
    obtain ⟨n, -, hn⟩ := List.exists_of_findSome?_eq_some hfound
    simp only [Option.map_eq_some_iff] at hn
    obtain ⟨c, hgrid, rfl⟩ := hn
    rw [Option.getD_some, value_stripZeros]
    exact ⟨stripZeros_digits_ne_zero _ _ (onGrid_ne_zero _ _ _ _ h.pos.ne' hgrid),
      attracts_of_holds h.pos (holds_of_onGrid _ _ _ hgrid)⟩

end BenchCharts.Decimal
