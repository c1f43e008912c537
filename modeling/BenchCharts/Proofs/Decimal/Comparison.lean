import BenchCharts.Proofs.Decimal.Bits

/-!
Doubles compare as their exact values do. Among doubles of one sign the exponents decide first: a
mantissa with a larger exponent has its leading bit in place, so no mantissa below makes up for it.
Zero is one value with two signs.
-/
namespace BenchCharts.Decimal

open Float.Model (UnpackedFloat)
open Float.Model.UnpackedFloat

/-- The exact value of a double that is a number. -/
def Binary64.value? : Binary64 → Option ℚ
  | .finite negative m e => some ((if negative then -1 else 1) * (m * 2 ^ e))
  | _ => none

variable {m m' : Nat} {e e' : Int}

theorem IsDouble.value_pos (h : IsDouble m e) : (0 : ℚ) < m * 2 ^ e :=
  mul_pos (by exact_mod_cast h.pos) (zpow_pos two_pos e)

theorem IsDouble.value_lt (h : IsDouble m e) (h' : IsDouble m' e') (hlt : e < e') :
    (m * 2 ^ e : ℚ) < m' * 2 ^ e' := by
  have hleast := h.least
  have hm : (m : ℚ) < 2 ^ 53 := by exact_mod_cast h.lt
  have hm' : (2 : ℚ) ^ 52 ≤ m' := by exact_mod_cast h'.leading (by omega)
  calc (m * 2 ^ e : ℚ) < 2 ^ 53 * 2 ^ e := mul_lt_mul_of_pos_right hm (zpow_pos two_pos e)
    _ = 2 ^ 52 * 2 ^ (e + 1) := by rw [zpow_add₀ two_ne_zero]; ring
    _ ≤ 2 ^ 52 * 2 ^ e' := by
      gcongr
      · exact one_le_two
      · omega
    _ ≤ m' * 2 ^ e' := mul_le_mul_of_nonneg_right hm' (zpow_pos two_pos e').le

theorem IsDouble.compare_eq (h : IsDouble m e) (h' : IsDouble m' e') :
    (compare e e').then (compare m m') = compare (m * 2 ^ e : ℚ) (m' * 2 ^ e') := by
  rcases lt_trichotomy e e' with hlt | rfl | hlt
  · rw [compare_lt_iff_lt.mpr hlt, compare_lt_iff_lt.mpr (h.value_lt h' hlt)]
    rfl
  · have hpos : (0 : ℚ) < 2 ^ e := zpow_pos two_pos e
    rw [compare_eq_iff_eq.mpr rfl]
    rcases lt_trichotomy m m' with hlt | rfl | hlt
    · have hvalue : (m * 2 ^ e : ℚ) < m' * 2 ^ e := by gcongr
      rw [compare_lt_iff_lt.mpr hlt, compare_lt_iff_lt.mpr hvalue]
      rfl
    · rw [compare_eq_iff_eq.mpr rfl, compare_eq_iff_eq.mpr rfl]
      rfl
    · have hvalue : (m' * 2 ^ e : ℚ) < m * 2 ^ e := by gcongr
      rw [compare_gt_iff_gt.mpr hlt, compare_gt_iff_gt.mpr hvalue]
      rfl
  · rw [compare_gt_iff_gt.mpr hlt, compare_gt_iff_gt.mpr (h'.value_lt h hlt)]
    rfl

theorem compare_neg_neg (a b : ℚ) : compare (-a) (-b) = (compare a b).swap := by
  rw [← Std.OrientedOrd.eq_swap]
  rcases lt_trichotomy a b with hlt | rfl | hlt
  · rw [compare_gt_iff_gt.mpr hlt, compare_gt_iff_gt.mpr (neg_lt_neg hlt)]
  · rw [compare_eq_iff_eq.mpr rfl, compare_eq_iff_eq.mpr rfl]
  · rw [compare_lt_iff_lt.mpr hlt, compare_lt_iff_lt.mpr (neg_lt_neg hlt)]

/-- A double with its exact value, in the form in which doubles are compared. -/
inductive Weighs (u : UnpackedFloat) : ℚ → Prop
  | zero (sign : Sign) (hu : u = .zero sign) : Weighs u 0
  | positive (m : Nat) (e : Int) (h : IsDouble m e) (hu : u = .finite .positive m e h.pos) :
      Weighs u (m * 2 ^ e)
  | negative (m : Nat) (e : Int) (h : IsDouble m e) (hu : u = .finite .negative m e h.pos) :
      Weighs u (-(m * 2 ^ e))

theorem weighs_of_value? {x : Float} {a : ℚ} (h : (Binary64.ofFloat x).value? = some a) :
    Weighs x.toModel.unpack a := by
  cases hx : Binary64.ofFloat x with
  | nan => simp [hx, Binary64.value?] at h
  | infinite negative => simp [hx, Binary64.value?] at h
  | finite negative m e =>
    rw [hx, Binary64.value?, Option.some_inj] at h
    subst h
    by_cases hm : m = 0
    · subst hm
      rw [Nat.cast_zero, zero_mul, mul_zero, eq_zero_of_ofFloat hx]
      refine .zero (signOf negative) ?_
      cases negative <;> rfl
    · have hdouble := isDouble_of_ofFloat hx hm
      rw [eq_of_ofFloat hx hm]
      cases negative with
      | true =>
        rw [if_pos rfl, neg_one_mul]
        exact .negative m e hdouble (unpack_pack_double hdouble .negative)
      | false =>
        rw [if_neg Bool.false_ne_true, one_mul]
        exact .positive m e hdouble (unpack_pack_double hdouble .positive)

theorem compare_of_weighs {u u' : UnpackedFloat} {a b : ℚ} (h : Weighs u a) (h' : Weighs u' b) :
    u.compare u' = some (compare a b) := by
  cases h with
  | zero sign hu =>
    cases h' with
    | zero sign' hu' =>
      rw [hu, hu', compare_eq_iff_eq.mpr rfl]
      rfl
    | positive m' e' hd' hu' =>
      rw [hu, hu', compare_lt_iff_lt.mpr hd'.value_pos]
      rfl
    | negative m' e' hd' hu' =>
      rw [hu, hu', compare_gt_iff_gt.mpr (neg_lt_zero.mpr hd'.value_pos)]
      rfl
  | positive m e hd hu =>
    cases h' with
    | zero sign' hu' =>
      rw [hu, hu', compare_gt_iff_gt.mpr hd.value_pos]
      rfl
    | positive m' e' hd' hu' =>
      rw [hu, hu', ← hd.compare_eq hd']
      rfl
    | negative m' e' hd' hu' =>
      have hlt := (neg_lt_zero.mpr hd'.value_pos).trans hd.value_pos
      rw [hu, hu', compare_gt_iff_gt.mpr hlt]
      rfl
  | negative m e hd hu =>
    cases h' with
    | zero sign' hu' =>
      rw [hu, hu', compare_lt_iff_lt.mpr (neg_lt_zero.mpr hd.value_pos)]
      rfl
    | positive m' e' hd' hu' =>
      have hlt := (neg_lt_zero.mpr hd.value_pos).trans hd'.value_pos
      rw [hu, hu', compare_lt_iff_lt.mpr hlt]
      rfl
    | negative m' e' hd' hu' =>
      rw [hu, hu', compare_neg_neg, ← hd.compare_eq hd']
      rfl

/-- Doubles that are numbers are ordered by their exact values. -/
theorem le_iff_value_le {x y : Float} {a b : ℚ} (hx : (Binary64.ofFloat x).value? = some a)
    (hy : (Binary64.ofFloat y).value? = some b) : x ≤ y ↔ a ≤ b := by
  rw [le_iff, UnpackedFloat.le, compare_of_weighs (weighs_of_value? hx) (weighs_of_value? hy),
    Option.any_some, Std.LawfulBCmp.isLE_iff_le]

theorem exists_value? {x : Float} (h : x.isFinite = true) :
    ∃ a, (Binary64.ofFloat x).value? = some a := by
  obtain ⟨negative, m, e, hx⟩ := exists_ofFloat h
  rw [hx]
  exact ⟨_, rfl⟩

end BenchCharts.Decimal
