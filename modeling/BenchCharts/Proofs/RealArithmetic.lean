import Mathlib.Analysis.SpecialFunctions.Log.Base
import BenchCharts.Proofs.ExactArithmetic

/-!
The functions of plane geometry on the real numbers, and what is relied on of a logarithm: it and
its powers are increasing and undo each other.
-/
namespace BenchCharts

/-- A logarithm and powers that belong together. -/
structure Logarithmic (K : Type) [Zero K] [LT K] [Elementary K] : Prop where
  log10_lt : ∀ x y : K, 0 < x → x < y → Elementary.log10 x < Elementary.log10 y
  exp10_lt : ∀ x y : K, x < y → Elementary.exp10 x < Elementary.exp10 y
  exp10_pos : ∀ x : K, 0 < Elementary.exp10 x
  log10_exp10 : ∀ x : K, Elementary.log10 (Elementary.exp10 x) = x
  exp10_log10 : ∀ x : K, 0 < x → Elementary.exp10 (Elementary.log10 x) = x

noncomputable instance : Elementary ℝ where
  sqrt := Real.sqrt
  log10 := Real.logb 10
  exp10 x := 10 ^ x

theorem logarithmic_real : Logarithmic ℝ where
  log10_lt _ _ positive less := Real.logb_lt_logb (by norm_num) positive less
  exp10_lt _ _ less := Real.rpow_lt_rpow_of_exponent_lt (by norm_num) less
  exp10_pos x := Real.rpow_pos_of_pos (by norm_num) x
  log10_exp10 x := Real.logb_rpow (by norm_num) (by norm_num)
  exp10_log10 _ positive := Real.rpow_logb (by norm_num) (by norm_num) positive

end BenchCharts
