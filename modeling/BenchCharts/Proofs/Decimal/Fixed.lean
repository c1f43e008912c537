import BenchCharts.Decimal.Fixed
import BenchCharts.Proofs.Decimal.RoundTrip

/-!
Decimals with a fixed number of places. Rounding depends on the exact value alone and keeps the
order of values, and the digits around the point have the value of the rounded number.
-/
namespace BenchCharts.Decimal

theorem numerator_div_denominator (m : Nat) (e : Int) :
    (Binary64.numerator m e / Binary64.denominator e : ℚ) = m * 2 ^ e := by
  rw [zpow_eq_div two_ne_zero, ← mul_div_assoc]
  unfold Binary64.numerator Binary64.denominator
  rw [Nat.shiftLeft_eq, Nat.shiftLeft_eq, one_mul]
  push_cast
  rfl

/-! ## Rounding -/

theorem near_roundHalfEven (n d : Nat) (hd : 0 < d) :
    Near (roundHalfEven n d) (1 / 2) (n / d : ℚ) := by
  have hpos : (0 : ℚ) < d := by exact_mod_cast hd
  have hrest : ((n % d : Nat) : ℚ) / d < 1 := by
    rw [div_lt_one hpos]
    exact_mod_cast Nat.mod_lt n hd
  have hnonneg : (0 : ℚ) ≤ (n % d : Nat) / d := by positivity
  have hhalf : ((n % d : Nat) : ℚ) / d = 1 / 2 ↔ 2 * (n % d) = d := by
    rw [div_eq_div_iff hpos.ne' two_ne_zero, one_mul, mul_comm]
    exact_mod_cast Iff.rfl
  have hmore : (1 / 2 : ℚ) < (n % d : Nat) / d ↔ d < 2 * (n % d) := by
    rw [div_lt_div_iff₀ two_pos hpos, one_mul, mul_comm]
    exact_mod_cast Iff.rfl
  rw [cast_div_eq n d hd]
  unfold roundHalfEven
  dsimp only
  split
  · next hup =>
    rcases hup with hup | ⟨hup, hodd⟩
    · rw [← hmore] at hup
      left
      constructor <;> push_cast <;> linarith
    · rw [← hhalf] at hup
      right
      refine ⟨by omega, ?_⟩
      constructor <;> push_cast <;> linarith
  · next hdown =>
    rw [not_or, not_and, ← hmore, ← hhalf, not_lt] at hdown
    obtain ⟨hle, heven⟩ := hdown
    by_cases hmiddle : ((n % d : Nat) : ℚ) / d = 1 / 2
    · have hfloor := heven hmiddle
      right
      refine ⟨by omega, ?_⟩
      constructor <;> linarith
    · have hlt := lt_of_le_of_ne hle hmiddle
      left
      constructor <;> linarith

theorem near_self (n : Nat) : Near n (1 / 2) n := by
  left
  constructor <;> linarith

/-- In the middle between two whole numbers only the even one is near. -/
theorem Near.le_of_le {n n' : Nat} {u u' : ℚ} (h : Near n (1 / 2) u) (h' : Near n' (1 / 2) u')
    (hle : u ≤ u') : n ≤ n' := by
  by_contra hlt
  have hnext : (n' : ℚ) + 1 ≤ n := by exact_mod_cast Nat.lt_of_not_le hlt
  rcases h with ⟨hlow, -⟩ | ⟨heven, hlow, -⟩
  · have hhigh := h'.bounds.2
    linarith
  · rcases h' with ⟨-, hhigh⟩ | ⟨heven', -, hhigh⟩
    · linarith
    · have heq : (n : ℚ) = n' + 1 := by linarith
      norm_cast at heq
      omega

theorem Near.eq_of_eq {n n' : Nat} {u : ℚ} (h : Near n (1 / 2) u) (h' : Near n' (1 / 2) u) :
    n = n' :=
  Nat.le_antisymm (h.le_of_le h' le_rfl) (h'.le_of_le h le_rfl)

/-! ## Digits -/

theorem placed_zero (n : Nat) : placed 0 n = Nat.toDigits 10 n := by
  have hlength : 0 < (Nat.toDigits 10 n).length := List.length_pos_of_ne_nil Nat.toDigits_ne_nil
  have hnone : 0 + 1 - (Nat.toDigits 10 n).length = 0 := by omega
  simp [placed, hnone]

/-- The point stands before the last places. -/
theorem exists_placed {places : Nat} (hplaces : places ≠ 0) (n : Nat) :
    ∃ whole fraction, placed places n = whole ++ '.' :: fraction ∧ whole ≠ [] ∧
      fraction.length = places ∧ (∀ c ∈ whole ++ fraction, c.isDigit) ∧
      digitsValue (whole ++ fraction) = n := by
  let zeros := List.replicate (places + 1 - (Nat.toDigits 10 n).length) '0'
  let digits := zeros ++ Nat.toDigits 10 n
  have hlength : places < digits.length := by
    simp only [digits, zeros, List.length_append, List.length_replicate]
    omega
  have htext : placed places n = digits.take (digits.length - places) ++
      '.' :: digits.drop (digits.length - places) := by
    simp only [placed, if_neg hplaces]
    rfl
  have hall : digits.take (digits.length - places) ++ digits.drop (digits.length - places) =
      digits := List.take_append_drop _ _
  refine ⟨_, _, htext, ?_, ?_, ?_, ?_⟩
  · rw [← List.length_pos_iff, List.length_take]
    omega
  · rw [List.length_drop]
    omega
  · intro c hc
    rw [hall] at hc
    rcases List.mem_append.mp hc with hzero | hdigit
    · exact isDigit_zeros _ c hzero
    · exact isDigit_of_mem_toDigits n c hdigit
  · rw [hall, digitsValue_append, digitsValue_zeros, zero_mul, zero_add, digitsValue_toDigits]

end BenchCharts.Decimal
