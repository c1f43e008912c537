import Mathlib.Algebra.Ring.Nat
import BenchCharts.Proofs.Decimal.Digits

/-!
Whole numbers of 64 bits in texts. A text is read as such a number exactly if it is one: digits,
perhaps behind a plus sign, whose value is not past the bound.
-/
namespace BenchCharts.Decimal

theorem digitValue?_ten (c : Char) :
    digitValue? 10 c = if isDigit c then some (c.toNat - '0'.toNat) else none := by
  unfold digitValue? isDigit
  by_cases hdigit : '0' ≤ c ∧ c ≤ '9'
  · have hvalue : c.toNat - '0'.toNat < 10 := by
      have hnine : c.toNat ≤ '9'.toNat := UInt32.le_iff_toNat_le.mp (Char.le_def.mp hdigit.2)
      have : '9'.toNat = 57 ∧ '0'.toNat = 48 := by decide
      omega
    simpa [hdigit] using hvalue
  · -- The letters stand for ten and more.
    have hnone : ¬(decide ('0' ≤ c) && decide (c ≤ '9')) = true := by simpa using hdigit
    rw [if_neg hdigit, if_neg hnone]
    split_ifs <;> simp

/-- Digits in base ten are their own values. -/
theorem readDigits_ten_eq_ok_iff (bound n : Nat) (cs : List Char) :
    readDigits 10 bound 0 cs = .ok n ↔
      (∀ c ∈ cs, isDigit c = true) ∧ digitsValue cs = n ∧ n ≤ bound := by
  have hvalue : ∀ c d, digitValue? 10 c = some d ↔ isDigit c = true ∧ c.toNat - '0'.toNat = d := by
    intro c d
    rw [digitValue?_ten]
    split <;> simp_all
  have hvalues : ∀ values, List.Forall₂ (fun c d => digitValue? 10 c = some d) cs values ↔
      (∀ c ∈ cs, isDigit c = true) ∧ cs.map (fun c => c.toNat - '0'.toNat) = values := by
    intro values
    simp only [hvalue, List.forall₂_and_left]
    rw [← List.forall₂_map_left_iff, List.forall₂_eq_eq_eq]
  rw [readDigits_eq_ok_iff_values (by decide) bound n (Nat.zero_le _)]
  constructor
  · rintro ⟨values, hread, hn⟩
    obtain ⟨hdigits, rfl⟩ := (hvalues values).mp hread
    rw [List.foldl_map] at hn
    exact ⟨hdigits, hn⟩
  · rintro ⟨hdigits, hn⟩
    refine ⟨_, (hvalues _).mpr ⟨hdigits, rfl⟩, ?_⟩
    rw [List.foldl_map]
    exact hn

/-- A numeral of a whole number of 64 bits. -/
def IsWord (cs : List Char) (n : Nat) : Prop :=
  ∃ digits, (cs = digits ∨ cs = '+' :: digits) ∧ digits ≠ [] ∧ (∀ c ∈ digits, isDigit c = true) ∧
    digitsValue digits = n ∧ n ≤ 2 ^ 64 - 1

theorem isWord_toDigits {n : Nat} (h : n ≤ 2 ^ 64 - 1) : IsWord (Nat.toDigits 10 n) n :=
  ⟨_, .inl rfl, Nat.toDigits_ne_nil,
    fun c hc => (isDigit_eq c).trans (isDigit_of_mem_toDigits n c hc), digitsValue_toDigits n, h⟩

theorem readNatural_eq_ok_iff (cs : List Char) (n : Nat) :
    readNatural 10 maxWord cs = .ok n ↔ IsWord cs n := by
  rw [readNatural_eq_ok_iff_readDigits, IsWord]
  simp only [readDigits_ten_eq_ok_iff]
  rfl

instance (cs : List Char) (n : Nat) : Decidable (IsWord cs n) :=
  decidable_of_iff _ (readNatural_eq_ok_iff cs n)

end BenchCharts.Decimal
