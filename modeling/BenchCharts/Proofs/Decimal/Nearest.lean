import BenchCharts.Proofs.Decimal.WholeDoubles

/-!
Exact values and the doubles nearest to them. Around each double lie the values that round to it:
half a unit of its last place on either side, half of that below a power of two, and the ends
themselves where the mantissa is even. Products and quotients of doubles are rounded in that sense,
because dropped places leave enough behind to tell on which side of a middle the exact value is.
-/
namespace BenchCharts.Decimal

open Float.Model (Format UnpackedFloat totalExponent)
open Float.Model.UnpackedFloat

/-- A power as a fraction of whole numbers. -/
theorem zpow_eq_div {b : ℚ} (hb : b ≠ 0) (k : Int) : b ^ k = b ^ k.toNat / b ^ (-k).toNat := by
  rw [← zpow_natCast, ← zpow_natCast, ← zpow_sub₀ hb]
  congr 1
  omega

/-- The mantissa and the exponent of a positive double, of which there is only one form. -/
structure IsDouble (m : Nat) (e : Int) : Prop where
  pos : 0 < m
  lt : m < 2 ^ 53
  least : -1074 ≤ e
  greatest : e ≤ 971
  leading : -1074 < e → 2 ^ 52 ≤ m

/-- Values around a whole number, from some distance below it to a half above it. -/
def Near (n : Nat) (below u : ℚ) : Prop :=
  n - below < u ∧ u < n + 1 / 2 ∨ n % 2 = 0 ∧ n - below ≤ u ∧ u ≤ n + 1 / 2

theorem Near.bounds {n : Nat} {below u : ℚ} (h : Near n below u) :
    n - below ≤ u ∧ u ≤ n + 1 / 2 := by
  rcases h with ⟨hlow, hhigh⟩ | ⟨-, h⟩
  · exact ⟨hlow.le, hhigh.le⟩
  · exact h

/-- Below a power of two the doubles lie twice as close. -/
def reachBelow (m : Nat) (e : Int) : ℚ := if m = 2 ^ 52 ∧ -1074 < e then 1 / 4 else 1 / 2

/-- The values that round to a double. -/
def Attracts (m : Nat) (e : Int) (v : ℚ) : Prop := Near m (reachBelow m e) (v / 2 ^ e)

/-! ## Dropped places -/

/-- The mantissa is the whole part of the value, and the two bits place the value within the next
unit. -/
def Locates (em : ExtendedMantissa) (u : ℚ) : Prop :=
  match em.roundBit, em.stickyBit with
  | false, false => u = em.mantissa
  | false, true => em.mantissa < u ∧ u < em.mantissa + 1 / 2
  | true, false => u = em.mantissa + 1 / 2
  | true, true => em.mantissa + 1 / 2 < u ∧ u < em.mantissa + 1

namespace Locates

variable {em : ExtendedMantissa} {u : ℚ}

theorem floor (h : Locates em u) : em.mantissa ≤ u ∧ u < em.mantissa + 1 := by
  obtain ⟨m, r, s⟩ := em
  cases r <;> cases s <;> simp only [Locates] at h <;> constructor <;> linarith

theorem half (h : Locates em u) : Locates em.shiftRightOne (u / 2) := by
  obtain ⟨m, r, s⟩ := em
  have hsum : (m : ℚ) = 2 * (m / 2 : Nat) + (m % 2 : Nat) := by
    exact_mod_cast (Nat.div_add_mod m 2).symm
  rcases Nat.mod_two_eq_zero_or_one m with hbit | hbit <;> rw [hbit] at hsum <;>
    cases r <;> cases s <;> simp [Locates, ExtendedMantissa.shiftRightOne, hbit] at h ⊢ <;>
    push_cast at hsum
  all_goals first
    | linarith
    | constructor <;> linarith

theorem shift (h : Locates em u) (k : Nat) : Locates (em >>> k) (u / 2 ^ k) := by
  induction k with
  | zero => simpa [HShiftRight.hShiftRight, Nat.repeat] using h
  | succ k ih =>
    rw [pow_succ, ← div_div]
    exact ih.half

/-- The value is rounded to the number that it is near to. -/
theorem rounded {n : Nat} (h : Locates em u) (hnear : Near n (1 / 2) u) :
    em.roundedMantissa = n := by
  obtain ⟨hlow, hhigh⟩ := hnear.bounds
  obtain ⟨m, r, s⟩ := em
  cases r <;> cases s <;> simp only [Locates] at h <;>
    simp only [ExtendedMantissa.roundedMantissa, ExtendedMantissa.accuracy,
      Accuracy.roundToNearestEven]
  · have hle : (m : ℚ) < n + 1 := by linarith
    have hge : (n : ℚ) < m + 1 := by linarith
    norm_cast at hle hge
    omega
  · have hle : (m : ℚ) < n + 1 := by linarith
    have hge : (n : ℚ) < m + 1 := by linarith
    norm_cast at hle hge
    omega
  · -- In the middle between two numbers the even one is near.
    rcases hnear with ⟨hlow, hhigh⟩ | ⟨heven, -⟩
    · have hlt : (m : ℚ) < n := by linarith
      have hgt : (n : ℚ) < m + 1 := by linarith
      norm_cast at hlt hgt
      omega
    · have hle : (m : ℚ) ≤ n := by linarith
      have hge : (n : ℚ) ≤ m + 1 := by linarith
      norm_cast at hle hge
      omega
  · have hlt : (m : ℚ) < n := by linarith
    have hge : (n : ℚ) < m + 2 := by linarith
    norm_cast at hlt hge
    omega

end Locates

@[simp]
theorem mantissa_ofMantissaAndAccuracy (m : Nat) (accuracy : Accuracy) :
    (ExtendedMantissa.ofMantissaAndAccuracy m accuracy).mantissa = m := by
  rcases accuracy with _ | (_ | _ | _) <;> rfl

theorem locates_exact (m : Nat) : Locates (.ofMantissaAndAccuracy m .exact) m := rfl

/-- The whole part of a quotient and its rest. -/
theorem cast_div_eq (n d : Nat) (hd : 0 < d) :
    (n / d : ℚ) = (n / d : Nat) + (n % d : Nat) / d := by
  have hpos : (0 : ℚ) < d := by exact_mod_cast hd
  have hsum : (n : ℚ) = d * (n / d : Nat) + (n % d : Nat) := by
    exact_mod_cast (Nat.div_add_mod n d).symm
  rw [div_eq_iff hpos.ne', add_mul, div_mul_cancel₀ _ hpos.ne', hsum]
  ring

theorem locates_quotient (n d : Nat) (hd : 0 < d) :
    Locates (.ofMantissaAndAccuracy (n / d) (accuracyOfFraction (n % d) d)) (n / d : ℚ) := by
  have hpos : (0 : ℚ) < d := by exact_mod_cast hd
  have hlt : ((n % d : Nat) : ℚ) / d < 1 := by
    rw [div_lt_one hpos]
    exact_mod_cast Nat.mod_lt n hd
  rw [cast_div_eq n d hd]
  unfold accuracyOfFraction
  by_cases hzero : n % d = 0
  · simp [hzero, Locates, ExtendedMantissa.ofMantissaAndAccuracy]
  · have hrest : (0 : ℚ) < (n % d : Nat) / d :=
      div_pos (by exact_mod_cast Nat.pos_of_ne_zero hzero) hpos
    rw [if_neg hzero]
    rcases Nat.lt_trichotomy (2 * (n % d)) d with hside | hside | hside
    · have hhalf : ((n % d : Nat) : ℚ) / d < 1 / 2 := by
        rw [div_lt_div_iff₀ hpos (by norm_num)]
        exact_mod_cast (by omega : (n % d) * 2 < 1 * d)
      rw [Nat.compare_eq_lt.mpr hside]
      refine ⟨?_, ?_⟩ <;> rw [mantissa_ofMantissaAndAccuracy] <;> linarith
    · have hhalf : ((n % d : Nat) : ℚ) / d = 1 / 2 := by
        rw [div_eq_div_iff hpos.ne' (by norm_num)]
        exact_mod_cast (by omega : (n % d) * 2 = 1 * d)
      rw [Nat.compare_eq_eq.mpr hside, hhalf]
      rfl
    · have hhalf : (1 / 2 : ℚ) < (n % d : Nat) / d := by
        rw [div_lt_div_iff₀ (by norm_num) hpos]
        exact_mod_cast (by omega : 1 * d < (n % d) * 2)
      rw [Nat.compare_eq_gt.mpr hside]
      refine ⟨?_, ?_⟩ <;> rw [mantissa_ofMantissaAndAccuracy] <;> linarith

/-! ## Rounding -/

theorem targetExponent_eq (m : Nat) (x : Int) :
    Format.binary64.targetExponent (totalExponent m x) = max (m.log2 + x - 52) (-1074) := by
  simp only [Format.targetExponent, totalExponent, Format.mantissaBits, Format.minExponent]
  omega

/-- The exponent that a value should have is told by the powers of two around it. -/
theorem targetExponent_of_bounds {m : Nat} {x t : Int} {u : ℚ} (hfloor : m ≤ u ∧ u < m + 1)
    (hx : x ≤ Format.binary64.targetExponent (totalExponent m x)) (ht : -1074 ≤ t)
    (hlow : t = -1074 ∨ 2 ^ 52 ≤ u * 2 ^ (x - t)) (hhigh : u * 2 ^ (x - t) < 2 ^ 53) :
    Format.binary64.targetExponent (totalExponent m x) = t := by
  have hpos : (0 : ℚ) < 2 ^ (x - t) := zpow_pos (by norm_num) _
  rw [targetExponent_eq] at hx ⊢
  by_cases hm : m = 0
  · subst hm
    have hzero : Nat.log2 0 = 0 := by decide
    rw [hzero] at hx ⊢
    rcases hlow with rfl | hlow
    · omega
    · -- The value is less than one unit of an exponent that is the least one already.
      have hlt : (2 : ℚ) ^ (52 : Int) < 2 ^ (x - t) := by
        have hone : u * 2 ^ (x - t) < 1 * 2 ^ (x - t) :=
          mul_lt_mul_of_pos_right (by simpa using hfloor.2) hpos
        rw [one_mul] at hone
        exact lt_of_le_of_lt (by exact_mod_cast hlow) hone
      rw [zpow_lt_zpow_iff_right₀ (by norm_num)] at hlt
      omega
  · have hupper : (m.log2 : Int) + x - 52 ≤ t := by
      have hle : (2 : ℚ) ^ (m.log2 : Int) ≤ u := by
        rw [zpow_natCast]
        exact le_trans (by exact_mod_cast Nat.log2_self_le hm) hfloor.1
      have hlt : (2 : ℚ) ^ ((m.log2 : Int) + (x - t)) < 2 ^ (53 : Int) := by
        rw [zpow_add₀ (by norm_num)]
        exact lt_of_le_of_lt (mul_le_mul_of_nonneg_right hle hpos.le) (by exact_mod_cast hhigh)
      rw [zpow_lt_zpow_iff_right₀ (by norm_num)] at hlt
      omega
    rcases hlow with rfl | hlow
    · omega
    · have hlt : (2 : ℚ) ^ (52 : Int) < 2 ^ ((m.log2 : Int) + 1 + (x - t)) := by
        have hle : u < (2 : ℚ) ^ ((m.log2 : Int) + 1) := by
          have hnext : ((m + 1 : Nat) : ℚ) ≤ ((2 ^ (m.log2 + 1) : Nat) : ℚ) := by
            exact_mod_cast (Nat.lt_log2_self : m < 2 ^ (m.log2 + 1))
          push_cast at hnext
          exact_mod_cast lt_of_lt_of_le hfloor.2 hnext
        rw [zpow_add₀ (by norm_num)]
        exact lt_of_le_of_lt (by exact_mod_cast hlow) (mul_lt_mul_of_pos_right hle hpos)
      rw [zpow_lt_zpow_iff_right₀ (by norm_num)] at hlt
      omega

theorem IsDouble.targetExponent_self {m : Nat} {e : Int} (h : IsDouble m e) :
    Format.binary64.targetExponent (totalExponent m e) = e := by
  have hlog : m.log2 < 53 := (Nat.log2_lt h.pos.ne').mpr h.lt
  rw [targetExponent_eq]
  by_cases hleast : -1074 < e
  · have hleading : 52 ≤ m.log2 := (Nat.le_log2 h.pos.ne').mpr (h.leading hleast)
    omega
  · have hle := h.least
    omega

theorem IsDouble.shiftToTargetExponent_self {m : Nat} {e : Int} (h : IsDouble m e) :
    shiftToTargetExponent Format.binary64 m e .exact = (⟨m, false, false⟩, e) := by
  simp [shiftToTargetExponent, h.targetExponent_self, shiftToExponent,
    ExtendedMantissa.ofMantissaAndAccuracy, HShiftRight.hShiftRight, Nat.repeat]

/-- Rounding is done once the mantissa has its exponent; after it only a carry moves the places
again. -/
theorem roundWithAccuracy_of_near {n k : Nat} {x t : Int} {accuracy : Accuracy} {u : ℚ}
    (sign : Sign) (hu : Locates (.ofMantissaAndAccuracy n accuracy) u)
    (htarget : Format.binary64.targetExponent (totalExponent n x) = t) (hx : x ≤ t)
    (hnear : Near k (1 / 2) (u * 2 ^ (x - t))) {m : Nat} {e : Int} (hm : 0 < m)
    (hlast : shiftToTargetExponent Format.binary64 k t .exact = (⟨m, false, false⟩, e)) :
    roundWithAccuracy Format.binary64 sign n x accuracy = .finite sign m e hm := by
  have hplaces : u / 2 ^ (t - x).toNat = u * 2 ^ (x - t) := by
    rw [div_eq_mul_inv, ← zpow_natCast, ← zpow_neg]
    congr 2
    omega
  have hrounded := (hu.shift (t - x).toNat).rounded (hplaces ▸ hnear)
  have hexponent : x + ((t - x).toNat : Int) = t := by omega
  have hfirst : shiftToTargetExponent Format.binary64 n x accuracy =
      (ExtendedMantissa.ofMantissaAndAccuracy n accuracy >>> (t - x).toNat, t) := by
    simp only [shiftToTargetExponent, shiftToExponent, htarget, hexponent]
  simp only [roundWithAccuracy, hfirst, hrounded, hlast, dif_neg hm.ne']

theorem Near.mono {n : Nat} {below below' u : ℚ} (h : Near n below u) (hle : below ≤ below') :
    Near n below' u := by
  rcases h with ⟨hlow, hhigh⟩ | ⟨heven, hlow, hhigh⟩
  · exact Or.inl ⟨by linarith, hhigh⟩
  · exact Or.inr ⟨heven, by linarith, hhigh⟩

theorem reachBelow_le (m : Nat) (e : Int) : reachBelow m e ≤ 1 / 2 := by
  unfold reachBelow
  split <;> norm_num

section
variable {m : Nat} {e : Int} (h : IsDouble m e)
include h

/-- A value is rounded to the double that attracts it. -/
theorem roundWithAccuracy_of_attracts {n : Nat} {x : Int} {accuracy : Accuracy} {u : ℚ}
    (sign : Sign) (hu : Locates (.ofMantissaAndAccuracy n accuracy) u)
    (hx : x ≤ Format.binary64.targetExponent (totalExponent n x))
    (hv : Attracts m e (u * 2 ^ x)) :
    roundWithAccuracy Format.binary64 sign n x accuracy = .finite sign m e h.pos := by
  have hfloor : n ≤ u ∧ u < n + 1 := by simpa using hu.floor
  have hscaled : u * 2 ^ x / 2 ^ e = u * 2 ^ (x - e) := by
    rw [zpow_sub₀ (by norm_num), mul_div_assoc]
  have hnear : Near m (reachBelow m e) (u * 2 ^ (x - e)) := hscaled ▸ hv
  obtain ⟨hlow, hhigh⟩ := hnear.bounds
  have hreach := reachBelow_le m e
  have hlt : (m : ℚ) + 1 ≤ 2 ^ 53 := by exact_mod_cast h.lt
  by_cases hbinade : e = -1074 ∨ 2 ^ 52 ≤ u * 2 ^ (x - e)
  · have htarget := targetExponent_of_bounds hfloor hx h.least hbinade (by linarith)
    exact roundWithAccuracy_of_near sign hu htarget (htarget ▸ hx) (hnear.mono hreach) h.pos
      h.shiftToTargetExponent_self
  · -- Just below a power of two the places are finer, and rounding carries over to it.
    rw [not_or, not_le] at hbinade
    obtain ⟨hleast, hbelow⟩ := hbinade
    have hgreater : -1074 < e := lt_of_le_of_ne h.least (Ne.symm hleast)
    have hpower : m = 2 ^ 52 := by
      have hge := h.leading hgreater
      have hle : (m : ℚ) < 2 ^ 52 + 1 := by linarith
      norm_cast at hle
      omega
    have hquarter : reachBelow m e = 1 / 4 := if_pos ⟨hpower, hgreater⟩
    rw [hquarter, hpower] at hlow
    push_cast at hlow
    have hdouble : u * 2 ^ (x - (e - 1)) = 2 * (u * 2 ^ (x - e)) := by
      rw [show x - (e - 1) = 1 + (x - e) by ring, zpow_add₀ (by norm_num)]
      ring
    have htarget := targetExponent_of_bounds (t := e - 1) hfloor hx (by omega)
      (Or.inr (by rw [hdouble]; linarith)) (by rw [hdouble]; linarith)
    have hlast := shiftToTargetExponent_scaled (m := 2 ^ 52) ⟨by decide, by decide⟩ 1 h.least
    subst hpower
    refine roundWithAccuracy_of_near sign hu htarget (htarget ▸ hx) ?_ h.pos hlast
    rw [hdouble]
    refine Or.inr ⟨by decide, ?_, ?_⟩ <;> push_cast <;> linarith

section
variable {m₁ m₂ : Nat} {e₁ e₂ : Int} {hm₁ : 0 < m₁} {hm₂ : 0 < m₂} {s₁ s₂ : Sign}

theorem mul_of_attracts (hbits : 2 ^ 52 ≤ m₁ * m₂)
    (hv : Attracts m e (m₁ * 2 ^ e₁ * (m₂ * 2 ^ e₂))) :
    mul Format.binary64 (.finite s₁ m₁ e₁ hm₁) (.finite s₂ m₂ e₂ hm₂) =
      .finite (s₁ * s₂) m e h.pos := by
  have hvalue : ((m₁ * m₂ : Nat) : ℚ) * 2 ^ (e₁ + e₂) = m₁ * 2 ^ e₁ * (m₂ * 2 ^ e₂) := by
    rw [zpow_add₀ (by norm_num)]
    push_cast
    ring
  refine roundWithAccuracy_of_attracts h _ (locates_exact _) ?_ (hvalue ▸ hv)
  have hlog : 52 ≤ (m₁ * m₂).log2 := (Nat.le_log2 (Nat.mul_pos hm₁ hm₂).ne').mpr hbits
  rw [targetExponent_eq]
  omega

theorem div_of_attracts (hv : Attracts m e (m₁ * 2 ^ e₁ / (m₂ * 2 ^ e₂))) :
    div Format.binary64 (.finite s₁ m₁ e₁ hm₁) (.finite s₂ m₂ e₂ hm₂) =
      .finite (s₁ / s₂) m e h.pos := by
  obtain ⟨x, hx⟩ : ∃ x, x = min (e₁ - e₂)
      (Format.binary64.targetExponent (totalExponent m₁ e₁ - totalExponent m₂ e₂)) := ⟨_, rfl⟩
  obtain ⟨k, hk⟩ : ∃ k, k = (e₁ - e₂ - x).toNat := ⟨_, rfl⟩
  have hexponent : e₁ - e₂ = k + x := by omega
  have hcore : divCore Format.binary64 m₁ e₁ m₂ e₂ =
      (m₁ * 2 ^ k / m₂, x, accuracyOfFraction (m₁ * 2 ^ k % m₂) m₂) := by
    simp only [divCore, ← hx, ← hk, Nat.shiftLeft_eq]
  have hvalue : ((m₁ * 2 ^ k : Nat) / m₂ : ℚ) * 2 ^ x = m₁ * 2 ^ e₁ / (m₂ * 2 ^ e₂) := by
    have hsplit : (2 : ℚ) ^ e₁ = 2 ^ e₂ * (2 ^ k * 2 ^ x) := by
      rw [← zpow_natCast, ← zpow_add₀ (by norm_num), ← zpow_add₀ (by norm_num)]
      congr 1
      omega
    have hpos : (0 : ℚ) < 2 ^ e₂ := zpow_pos (by norm_num) _
    have hpos₂ : (0 : ℚ) < m₂ := by exact_mod_cast hm₂
    rw [hsplit]
    push_cast
    field_simp
  simp only [div, hcore]
  refine roundWithAccuracy_of_attracts h _ (locates_quotient _ _ hm₂) ?_ (hvalue ▸ hv)
  -- The quotient was scaled so that its whole part fills a mantissa.
  rw [targetExponent_eq]
  by_cases hleast : x ≤ -1074
  · omega
  · have hscaled : m₂.log2 + 53 ≤ m₁.log2 + k := by
      simp only [Format.targetExponent, totalExponent, Format.mantissaBits,
        Format.minExponent] at hx
      omega
    have hfull : 2 ^ 52 ≤ m₁ * 2 ^ k / m₂ := by
      rw [Nat.le_div_iff_mul_le hm₂]
      calc 2 ^ 52 * m₂ ≤ 2 ^ 52 * 2 ^ (m₂.log2 + 1) := Nat.mul_le_mul_left _ Nat.lt_log2_self.le
        _ = 2 ^ (m₂.log2 + 53) := by rw [← Nat.pow_add]; congr 1; omega
        _ ≤ 2 ^ (m₁.log2 + k) := Nat.pow_le_pow_right (by decide) hscaled
        _ = 2 ^ m₁.log2 * 2 ^ k := Nat.pow_add _ _ _
        _ ≤ m₁ * 2 ^ k := Nat.mul_le_mul_right _ (Nat.log2_self_le hm₁.ne')
    have hlog : 52 ≤ (m₁ * 2 ^ k / m₂).log2 := (Nat.le_log2 (by omega)).mpr hfull
    omega

end

end

end BenchCharts.Decimal
