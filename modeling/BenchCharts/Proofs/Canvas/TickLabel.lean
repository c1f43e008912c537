import BenchCharts.Canvas.TickLabel
import BenchCharts.Proofs.Decimal.Comparison
import BenchCharts.Proofs.Decimal.Fixed

/-!
Labels along an axis as numerals. Zeros are only trimmed behind a point, so a label keeps the value
that was rounded: whole values keep their own, values below one hundred are off by half of a
thousandth at most, and others by one half. On both sides of one hundred larger values never have
smaller labels.
-/
namespace BenchCharts.Canvas

open Decimal

/-! ## Trimming -/

theorem trimRight_append (c : Char) (before : List Char) {d : Char} (hd : d ≠ c)
    (after : List Char) :
    trimRight c (before ++ d :: after) = before ++ d :: trimRight c after := by
  unfold trimRight
  rw [List.reverse_append, List.reverse_cons, List.append_assoc, List.dropWhile_append]
  by_cases hall : after.reverse.dropWhile (· = c) = []
  · simp [hall, hd]
  · simp [hall]

/-- What is trimmed off is one character over and over. -/
theorem exists_trimmed (c : Char) (cs : List Char) :
    ∃ k, cs = trimRight c cs ++ List.replicate k c ∧
      ∀ d ∈ (trimRight c cs).getLast?, d ≠ c := by
  refine ⟨(cs.reverse.takeWhile (· = c)).length, ?_, ?_⟩
  · have hall : ∀ d ∈ (cs.reverse.takeWhile (· = c)).reverse, d = c := by
      intro d hd
      simpa using List.mem_takeWhile_imp (List.mem_reverse.mp hd)
    have hsplit := congrArg List.reverse (List.takeWhile_append_dropWhile (p := (· = c))
      (l := cs.reverse))
    rw [List.reverse_append, List.reverse_reverse] at hsplit
    rw [← List.length_reverse, ← List.eq_replicate_of_mem hall]
    exact hsplit.symm
  · intro d hd
    rw [trimRight, List.getLast?_reverse] at hd
    have hhead := List.head?_dropWhile_not (p := (· = c)) (l := cs.reverse)
    rw [Option.mem_def] at hd
    rw [hd] at hhead
    simpa using hhead

/-! ## Numerals -/

/-- Nothing, or a point with one to three digits that end in no zero. -/
inductive IsShortFraction : List Char → Prop
  | absent : IsShortFraction []
  | digits (ds : List Char) (d : Char) (hlength : ds.length ≤ 2) (hdigits : ∀ c ∈ ds, c.isDigit)
      (hlast : d.isDigit ∧ d ≠ '0') : IsShortFraction ('.' :: (ds ++ [d]))

/-- A numeral as it stands at a tick. -/
def IsTickNumeral (cs : List Char) : Prop :=
  ∃ sign whole fraction, cs = sign ++ (whole ++ fraction) ∧ (sign = [] ∨ sign = ['-']) ∧
    whole ≠ [] ∧ (∀ c ∈ whole, c.isDigit) ∧ IsShortFraction fraction

/-- The value of a text that is a numeral. -/
def numeralValue? (text : String) : Option ℚ :=
  (readNumeral text.toList).map fun n =>
    (if n.negative then -1 else 1) * (n.digits * 10 ^ n.exponent)

/-- A magnitude as labels show it: in thousandths below one hundred, in whole numbers from there. -/
inductive Shown (u : ℚ) : ℚ → Prop
  | thousandths (k : Nat) (hsmall : u < 100) (hnear : Near k (1 / 2) (u * 1000)) :
      Shown u (k / 1000)
  | whole (k : Nat) (hlarge : 100 ≤ u) (hnear : Near k (1 / 2) u) : Shown u k

namespace Shown

variable {u u' s s' : ℚ}

theorem nonneg (h : Shown u s) : 0 ≤ s := by
  cases h <;> positivity

theorem le_of_le (h : Shown u s) (h' : Shown u' s') (hle : u ≤ u') : s ≤ s' := by
  cases h with
  | thousandths k hsmall hnear =>
    cases h' with
    | thousandths k' hsmall' hnear' =>
      have hk : k ≤ k' := hnear.le_of_le hnear' (by linarith)
      gcongr
    | whole k' hlarge' hnear' =>
      have hk : k ≤ 100000 := hnear.le_of_le (near_self 100000) (by push_cast; linarith)
      have hk' : 100 ≤ k' := (near_self 100).le_of_le hnear' (by push_cast; linarith)
      have hcast : (k : ℚ) ≤ 100000 := by exact_mod_cast hk
      have hcast' : (100 : ℚ) ≤ k' := by exact_mod_cast hk'
      linarith
  | whole k hlarge hnear =>
    cases h' with
    | thousandths k' hsmall' hnear' => linarith
    | whole k' hlarge' hnear' => exact_mod_cast hnear.le_of_le hnear' hle

theorem natCast (n : Nat) : Shown n n := by
  have hnear := near_self (n * 1000)
  push_cast at hnear
  by_cases hsmall : (n : ℚ) < 100
  · have hshown : Shown n (((n * 1000 : Nat) : ℚ) / 1000) :=
      .thousandths (n * 1000) hsmall (by exact_mod_cast hnear)
    rwa [Nat.cast_mul, Nat.cast_ofNat, mul_div_cancel_right₀ _ (by norm_num)] at hshown
  · exact .whole n (not_lt.mp hsmall) (near_self n)

theorem eq_of_natCast {n : Nat} (h : Shown n s) : s = n := by
  cases h with
  | thousandths k hsmall hnear =>
    have hself := near_self (n * 1000)
    push_cast at hself
    rw [hnear.eq_of_eq hself]
    push_cast
    ring
  | whole k hlarge hnear => rw [hnear.eq_of_eq (near_self n)]

theorem signed_le {negative negative' : Bool} (h : Shown u s) (h' : Shown u' s') (hu : 0 ≤ u)
    (hu' : 0 ≤ u') (hle : (if negative then -1 else 1) * u ≤ (if negative' then -1 else 1) * u') :
    (if negative then -1 else 1) * s ≤ (if negative' then -1 else 1) * s' := by
  have hs := h.nonneg
  have hs' := h'.nonneg
  cases negative with
  | false =>
    cases negative' with
    | false =>
      simp only [Bool.false_eq_true, if_false, one_mul] at hle ⊢
      exact h.le_of_le h' hle
    | true =>
      -- Both values are zero, and so are both labels.
      simp only [Bool.false_eq_true, if_false, if_true, one_mul, neg_one_mul] at hle ⊢
      obtain rfl : u = 0 := by linarith
      obtain rfl : u' = 0 := by linarith
      rw [← Nat.cast_zero] at h h'
      rw [h.eq_of_natCast, h'.eq_of_natCast, Nat.cast_zero, neg_zero]
  | true =>
    cases negative' with
    | false =>
      simp only [Bool.false_eq_true, if_false, if_true, one_mul, neg_one_mul]
      linarith
    | true =>
      simp only [if_true, neg_one_mul, neg_le_neg_iff] at hle ⊢
      exact h'.le_of_le h hle

theorem within (h : Shown u s) : |s - u| ≤ 1 / 2 ∧ (u < 100 → |s - u| ≤ 1 / 2000) := by
  cases h with
  | thousandths k hsmall hnear =>
    obtain ⟨hlow, hhigh⟩ := hnear.bounds
    have hclose : |(k : ℚ) / 1000 - u| ≤ 1 / 2000 := by
      rw [abs_le]
      constructor <;> linarith
    exact ⟨hclose.trans (by norm_num), fun _ => hclose⟩
  | whole k hlarge hnear =>
    obtain ⟨hlow, hhigh⟩ := hnear.bounds
    refine ⟨?_, fun hsmall => absurd hlarge hsmall.not_ge⟩
    rw [abs_le]
    constructor <;> linarith

end Shown

/-! ## Labels -/

variable {m : Nat} {e : Int}

theorem isWhole_iff : isWhole m e = true ↔ ∃ n : Nat, (m * 2 ^ e : ℚ) = n := by
  have hpos := Binary64.denominator_pos e
  have hne : (Binary64.denominator e : ℚ) ≠ 0 := by exact_mod_cast hpos.ne'
  rw [isWhole, decide_eq_true_iff, ← Nat.dvd_iff_mod_eq_zero, ← numerator_div_denominator]
  constructor
  · rintro ⟨n, hn⟩
    refine ⟨n, ?_⟩
    rw [hn, div_eq_iff hne, mul_comm]
    push_cast
    rfl
  · rintro ⟨n, hn⟩
    rw [div_eq_iff hne] at hn
    refine ⟨n, ?_⟩
    rw [mul_comm]
    exact_mod_cast hn

theorem reachesHundred_iff : reachesHundred m e = true ↔ (100 : ℚ) ≤ m * 2 ^ e := by
  have hpos : (0 : ℚ) < Binary64.denominator e := by exact_mod_cast Binary64.denominator_pos e
  rw [reachesHundred, decide_eq_true_iff, ← numerator_div_denominator, le_div_iff₀ hpos]
  exact_mod_cast Iff.rfl

/-- The rounded number of a decimal with some places. -/
theorem near_scaled (places m : Nat) (e : Int) :
    Near (roundHalfEven (Binary64.numerator m e * Nat.pow 10 places) (Binary64.denominator e))
      (1 / 2) (m * 2 ^ e * 10 ^ places) := by
  have hnear := near_roundHalfEven (Binary64.numerator m e * Nat.pow 10 places) _
    (Binary64.denominator_pos e)
  rw [← numerator_div_denominator, div_mul_eq_mul_div]
  exact_mod_cast hnear

/-- Digits, perhaps with a short fraction behind them. -/
structure IsMagnitudeOf (cs : List Char) (s : ℚ) : Prop where
  parts : ∃ whole fraction, cs = whole ++ fraction ∧ whole ≠ [] ∧ (∀ c ∈ whole, c.isDigit) ∧
    IsShortFraction fraction
  value : ReadsAs cs s

theorem isMagnitudeOf_whole {whole : List Char} (hne : whole ≠ []) (h : ∀ c ∈ whole, c.isDigit) :
    IsMagnitudeOf whole (digitsValue whole) where
  parts := ⟨whole, [], by simp, hne, h, .absent⟩
  value := (readsAs_parts whole [] [] [] hne h (by simp) (Or.inl ⟨rfl, rfl⟩) (by simp) rfl).of_eq
    (by simp) (by simp)

theorem isMagnitudeOf_fraction {whole ds : List Char} {d : Char} (hne : whole ≠ [])
    (h : ∀ c ∈ whole, c.isDigit) (hlength : ds.length ≤ 2) (hdigits : ∀ c ∈ ds ++ [d], c.isDigit)
    (hlast : d ≠ '0') :
    IsMagnitudeOf (whole ++ '.' :: (ds ++ [d]))
      (digitsValue (whole ++ (ds ++ [d])) * 10 ^ (-((ds ++ [d]).length : Int))) where
  parts := by
    refine ⟨whole, _, rfl, hne, h, .digits ds d hlength ?_ ⟨?_, hlast⟩⟩
    · exact fun c hc => hdigits c (List.mem_append_left _ hc)
    · exact hdigits d (by simp)
  value := (readsAs_parts whole (ds ++ [d]) ['.'] [] hne h hdigits (Or.inr rfl) (by simp)
    rfl).of_eq (by simp) (by simp)

theorem ne_point_of_isDigit {c : Char} (h : c.isDigit) : c ≠ '.' := by
  rintro rfl
  exact absurd h (by decide)

/-- A point is dropped only if no digits are left behind it, and the digits before it never are. -/
theorem exists_trimmed_point (sign : List Char) {whole kept : List Char} (hne : whole ≠ [])
    (hwhole : ∀ c ∈ whole, c.isDigit) (hkept : ∀ c ∈ kept, c.isDigit) (hlength : kept.length ≤ 3)
    (hlast : ∀ d ∈ kept.getLast?, d ≠ '0') :
    ∃ magnitude, trimRight '.' (sign ++ whole ++ '.' :: kept) = sign ++ magnitude ∧
      IsMagnitudeOf magnitude (digitsValue (whole ++ kept) * 10 ^ (-(kept.length : Int))) := by
  rcases List.eq_nil_or_concat' kept with rfl | ⟨ds, d, rfl⟩
  · obtain ⟨before, c, rfl⟩ : ∃ before c, whole = before ++ [c] :=
      ⟨_, _, (List.dropLast_concat_getLast hne).symm⟩
    have hpoint : c ≠ '.' := ne_point_of_isDigit (hwhole c (by simp))
    have htrim := trimRight_append '.' (sign ++ before) hpoint ['.']
    refine ⟨before ++ [c], by simpa [trimRight] using htrim, ?_⟩
    rw [List.append_nil, List.length_nil, Nat.cast_zero, neg_zero, zpow_zero, mul_one]
    exact isMagnitudeOf_whole hne hwhole
  · rw [List.length_append, List.length_singleton] at hlength
    have hpoint : d ≠ '.' := ne_point_of_isDigit (hkept d (by simp))
    have htrim := trimRight_append '.' (sign ++ whole ++ '.' :: ds) hpoint []
    refine ⟨whole ++ '.' :: (ds ++ [d]), by simpa [trimRight] using htrim, ?_⟩
    exact isMagnitudeOf_fraction hne hwhole (by omega) hkept (hlast d (by simp))

/-- Zeros at the end of a fraction and then its point are dropped without a change of the value. -/
theorem exists_trimmed_placed (sign : List Char) (n : Nat) :
    ∃ magnitude, trimRight '.' (trimRight '0' (sign ++ placed 3 n)) = sign ++ magnitude ∧
      IsMagnitudeOf magnitude (n / 1000) := by
  obtain ⟨whole, fraction, htext, hwhole, hlength, hdigits, hvalue⟩ :=
    exists_placed three_ne_zero n
  rw [List.forall_mem_append] at hdigits
  obtain ⟨hall, hfractions⟩ := hdigits
  obtain ⟨k, hfraction, hlast⟩ := exists_trimmed '0' fraction
  have htrim : trimRight '0' (sign ++ placed 3 n) =
      sign ++ whole ++ '.' :: trimRight '0' fraction := by
    rw [htext, ← List.append_assoc]
    exact trimRight_append '0' _ (by decide) _
  rw [htrim]
  generalize trimRight '0' fraction = kept at hfraction hlast
  have hkept : ∀ c ∈ kept, c.isDigit := fun c hc =>
    hfractions c (hfraction ▸ List.mem_append_left _ hc)
  have hsum : kept.length + k = 3 := by
    rw [← hlength, hfraction, List.length_append, List.length_replicate]
  have hscaled : (n : ℚ) = digitsValue (whole ++ kept) * 10 ^ k := by
    rw [← hvalue, hfraction, ← List.append_assoc, digitsValue_append (whole ++ kept),
      digitsValue_zeros, List.length_replicate, add_zero]
    push_cast
    rfl
  have hpower : (10 : ℚ) ^ k / 1000 = 10 ^ (-(kept.length : Int)) := by
    have hexponent : -(kept.length : Int) = k - 3 := by omega
    rw [hexponent, zpow_sub₀ (by norm_num), zpow_natCast]
    norm_num
  rw [hscaled, mul_div_assoc, hpower]
  exact exists_trimmed_point sign hwhole hall hkept (by omega) hlast

theorem cons_eq_append (negative : Bool) (text : List Char) :
    (if negative then '-' :: text else text) = (if negative then ['-'] else []) ++ text := by
  cases negative <;> rfl

/-- A label is a sign and the magnitude that is shown. -/
theorem exists_tickChars (negative : Bool) (m : Nat) (e : Int) :
    ∃ magnitude s, tickChars (.finite negative m e) =
        (if negative then ['-'] else []) ++ magnitude ∧
      Shown (m * 2 ^ e) s ∧ IsMagnitudeOf magnitude s := by
  unfold tickChars
  dsimp only
  split
  · next hplain =>
    have hnear := near_scaled 0 m e
    rw [pow_zero, mul_one] at hnear
    rw [fixed, cons_eq_append, placed_zero]
    generalize roundHalfEven _ _ = n at hnear
    refine ⟨Nat.toDigits 10 n, n, rfl, ?_, ?_⟩
    · by_cases hlarge : (100 : ℚ) ≤ m * 2 ^ e
      · exact .whole n hlarge hnear
      · rw [Bool.or_eq_true, reachesHundred_iff, or_iff_left hlarge, isWhole_iff] at hplain
        obtain ⟨whole, hwhole⟩ := hplain
        rw [hwhole] at hnear ⊢
        rw [hnear.eq_of_eq (near_self whole)]
        exact .natCast whole
    · have hdigits := isMagnitudeOf_whole Nat.toDigits_ne_nil (isDigit_of_mem_toDigits n)
      rwa [digitsValue_toDigits] at hdigits
  · next hfraction =>
    rw [Bool.or_eq_true, not_or, reachesHundred_iff, not_le] at hfraction
    rw [fixed, cons_eq_append]
    obtain ⟨magnitude, htrim, hmagnitude⟩ := exists_trimmed_placed (if negative then ['-'] else [])
      (roundHalfEven (Binary64.numerator m e * Nat.pow 10 3) (Binary64.denominator e))
    refine ⟨magnitude, _, htrim, .thousandths _ hfraction.2 ?_, hmagnitude⟩
    have hnear := near_scaled 3 m e
    norm_num at hnear
    exact hnear

theorem exists_tickLabel {v : Float} {negative : Bool}
    (hv : Binary64.ofFloat v = .finite negative m e) :
    ∃ s, Shown (m * 2 ^ e) s ∧ IsTickNumeral (tickLabel v).toList ∧
      numeralValue? (tickLabel v) = some ((if negative then -1 else 1) * s) := by
  obtain ⟨magnitude, s, htext, hshown, ⟨whole, fraction, hparts, hne, hdigits, hfraction⟩,
    digits, exponent, hread, rfl⟩ := exists_tickChars negative m e
  have hlabel : (tickLabel v).toList = (if negative then ['-'] else []) ++ magnitude := by
    rw [tickLabel, String.toList_ofList, hv, htext]
  refine ⟨_, hshown, ⟨_, whole, fraction, by rw [hlabel, hparts], ?_, hne, hdigits, hfraction⟩, ?_⟩
  · cases negative
    · exact Or.inl rfl
    · exact Or.inr rfl
  · have hhead : ∃ c rest, magnitude = c :: rest ∧ c.isDigit := by
      obtain ⟨c, rest, rfl⟩ := List.exists_cons_of_ne_nil hne
      exact ⟨c, rest ++ fraction, hparts, hdigits c List.mem_cons_self⟩
    rw [numeralValue?, hlabel, ← cons_eq_append, readNumeral_signed negative hhead hread]
    rfl

/-- The label of a number is a numeral with its value to three decimals, or to whole numbers from
one hundred on, and labels keep the order of numbers. -/
theorem tickLabel_denotes (v : Float) (hv : v.isFinite = true) :
    ∃ x a, (Binary64.ofFloat v).value? = some x ∧ numeralValue? (tickLabel v) = some a ∧
      IsTickNumeral (tickLabel v).toList ∧
      ((∃ n : Int, x = n) → a = x) ∧ (|x| < 100 → |a - x| ≤ 1 / 2000) ∧ |a - x| ≤ 1 / 2 ∧
      ∀ w b, w.isFinite = true → numeralValue? (tickLabel w) = some b → v ≤ w → a ≤ b := by
  obtain ⟨negative, m, e, hfloat⟩ := exists_ofFloat hv
  obtain ⟨s, hshown, hnumeral, hvalue⟩ := exists_tickLabel hfloat
  have hexact : (Binary64.ofFloat v).value? =
      some ((if negative then -1 else 1) * (m * 2 ^ e : ℚ)) := by
    rw [hfloat]
    rfl
  have hnonneg : (0 : ℚ) ≤ m * 2 ^ e := by positivity
  have hone : |(if negative then -1 else 1 : ℚ)| = 1 := by
    cases negative <;> simp
  have habs (u : ℚ) : |(if negative then -1 else 1) * u| = |u| := by
    rw [abs_mul, hone, one_mul]
  refine ⟨_, _, hexact, hvalue, hnumeral, ?_, ?_, ?_, ?_⟩
  · rintro ⟨n, hn⟩
    have hwhole : (m * 2 ^ e : ℚ) = n.natAbs := by
      rw [← abs_of_nonneg hnonneg, ← habs, hn, Nat.cast_natAbs, Int.cast_abs]
    rw [hwhole] at hshown ⊢
    rw [hshown.eq_of_natCast]
  · rw [← mul_sub, habs, habs, abs_of_nonneg hnonneg]
    exact hshown.within.2
  · rw [← mul_sub, habs]
    exact hshown.within.1
  · intro w b hw hb hle
    obtain ⟨negative', m', e', hfloat'⟩ := exists_ofFloat hw
    obtain ⟨s', hshown', -, hvalue'⟩ := exists_tickLabel hfloat'
    have hexact' : (Binary64.ofFloat w).value? =
        some ((if negative' then -1 else 1) * (m' * 2 ^ e' : ℚ)) := by
      rw [hfloat']
      rfl
    rw [hb, Option.some_inj] at hvalue'
    rw [hvalue']
    exact hshown.signed_le hshown' hnonneg (by positivity) ((le_iff_value_le hexact hexact').mp hle)

/-- The zeros of `100.000` before the point stay, so no label of a larger number falls below. -/
theorem tickLabel_denotes_belowHundred : tickLabel 99.9996 = "100" ∧
    ∀ w b, w.isFinite = true → numeralValue? (tickLabel w) = some b → 99.9996 ≤ w → 100 ≤ b := by
  have hlabel : tickLabel 99.9996 = "100" := by decide +kernel
  obtain ⟨x, a, -, ha, -, -, -, -, hle⟩ := tickLabel_denotes 99.9996 (by decide +kernel)
  have hhundred : numeralValue? "100" = some 100 := by decide +kernel
  rw [hlabel, hhundred, Option.some_inj] at ha
  subst ha
  exact ⟨hlabel, hle⟩

end BenchCharts.Canvas
