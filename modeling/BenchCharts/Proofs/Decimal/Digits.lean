import Mathlib.Data.List.Basic
import Mathlib.Data.List.Forall2
import Mathlib.Data.List.TakeWhile
import BenchCharts.Decimal.NumberForm
import BenchCharts.Decimal.Numeral

/-!
Written numbers. The digits of a whole number read back as that number and start with a zero only
if they are one. A double that is a number is written as whole digits, perhaps with a fraction and
an exponent, behind a minus sign where it is negative.
-/
namespace BenchCharts.Decimal

theorem isDigit_eq (c : Char) : isDigit c = c.isDigit := by
  simp [isDigit, Char.isDigit, Char.le_def, UInt32.le_iff_toNat_le]

theorem digitValue?_digitChar (base d : Nat) (hbase : base ≤ 16) (hd : d < base) :
    digitValue? base (Nat.digitChar d) = some d := by
  have hvalue : ∀ k, k < 16 → digitValue? 16 (Nat.digitChar k) = some k := by decide
  have h := hvalue d (by omega)
  simp only [digitValue?, Option.filter_eq_some_iff, decide_eq_true_eq] at h ⊢
  exact ⟨h.1, hd⟩

theorem digitValue?_toUpper (d : Nat) (hd : d < 16) :
    digitValue? 16 (Nat.digitChar d).toUpper = some d := by
  have hvalue : ∀ k, k < 16 → digitValue? 16 (Nat.digitChar k).toUpper = some k := by decide
  exact hvalue d hd

/-- Digits are read back in every notation that keeps their values. -/
theorem readDigits_toDigits (base bound n : Nat) (form : Char → Char) (rest : List Char)
    (hbase : 1 < base) (hform : ∀ d, d < base → digitValue? base (form (Nat.digitChar d)) = some d)
    (hn : n ≤ bound) :
    readDigits base bound 0 ((Nat.toDigits base n).map form ++ rest) =
      readDigits base bound n rest := by
  induction n using Nat.strongRecOn generalizing rest with
  | ind n ih =>
    by_cases hlt : n < base
    · simp [Nat.toDigits_of_lt_base hlt, readDigits, hform n hlt, hn]
    · have hle : base ≤ n := by omega
      have hdiv : n / base < n := Nat.div_lt_self (by omega) hbase
      have hmod : n % base < base := Nat.mod_lt n (by omega)
      have hsum : n / base * base + n % base = n := Nat.div_add_mod' n base
      rw [Nat.toDigits_of_base_le hbase hle, List.map_append, List.append_assoc,
        ih _ hdiv _ (by omega)]
      simp [readDigits, hform _ hmod, hsum, hn]

theorem le_foldl_digits {base : Nat} (hbase : 0 < base) (total : Nat) (values : List Nat) :
    total ≤ values.foldl (fun total d => total * base + d) total := by
  induction values generalizing total with
  | nil => exact le_rfl
  | cons d rest ih =>
    calc total ≤ total * base := Nat.le_mul_of_pos_right total hbase
      _ ≤ total * base + d := Nat.le_add_right _ d
      _ ≤ _ := ih _

/-- Digits make a number that is not past the bound. The bound is met at every digit if it is met by
them all, since further digits never make a number smaller. -/
theorem readDigits_eq_ok_iff_values {base : Nat} (hbase : 0 < base) (bound n : Nat) {total : Nat}
    (h : total ≤ bound) (cs : List Char) :
    readDigits base bound total cs = .ok n ↔
      ∃ values, List.Forall₂ (fun c d => digitValue? base c = some d) cs values ∧
        values.foldl (fun total d => total * base + d) total = n ∧ n ≤ bound := by
  induction cs generalizing total with
  | nil =>
    simp only [readDigits, Except.ok.injEq, List.forall₂_nil_left_iff, exists_eq_left,
      List.foldl_nil]
    constructor
    · rintro rfl
      exact ⟨rfl, h⟩
    · exact fun hread => hread.1
  | cons c rest ih =>
    simp only [readDigits, List.forall₂_cons_left_iff]
    cases hdigit : digitValue? base c with
    | none => simp
    | some d =>
      by_cases hnext : total * base + d ≤ bound
      · simp only [hnext, if_true, ih hnext]
        constructor
        · rintro ⟨values, hvalues, hn⟩
          exact ⟨d :: values, ⟨d, values, rfl, hvalues, rfl⟩, hn⟩
        · rintro ⟨_, ⟨_, values, ⟨⟩, hvalues, rfl⟩, hn⟩
          exact ⟨values, hvalues, hn⟩
      · simp only [hnext, if_false, reduceCtorEq, false_iff]
        rintro ⟨_, ⟨_, values, ⟨⟩, -, rfl⟩, rfl, hbound⟩
        exact hnext ((le_foldl_digits hbase _ values).trans hbound)

theorem digitValue?_plus (base : Nat) : digitValue? base '+' = none := by
  simp [digitValue?]

/-- A number is digits, perhaps behind a plus sign. -/
theorem readNatural_eq_ok_iff_readDigits (base bound n : Nat) (cs : List Char) :
    readNatural base bound cs = .ok n ↔ ∃ digits, (cs = digits ∨ cs = '+' :: digits) ∧
      digits ≠ [] ∧ readDigits base bound 0 digits = .ok n := by
  -- A plus sign itself is no digit.
  have hplus : ∀ rest, readDigits base bound 0 ('+' :: rest) ≠ .ok n := by
    intro rest
    simp [readDigits, digitValue?_plus]
  unfold readNatural
  split
  · simp
  · simp [hplus]
  · next rest hne =>
    constructor
    · exact fun hread => ⟨rest, .inr rfl, hne, hread⟩
    · rintro ⟨digits, rfl | heq, -, hread⟩
      · exact absurd hread (hplus rest)
      · rwa [(List.cons.inj heq).2]
  · next hnil hsign hdigits =>
    constructor
    · exact fun hread => ⟨cs, .inl rfl, hnil, hread⟩
    · rintro ⟨digits, rfl | rfl, -, hread⟩
      · exact hread
      · exact absurd rfl (hdigits digits)

theorem isDigit_of_mem_toDigits (n : Nat) (c : Char) (h : c ∈ Nat.toDigits 10 n) : c.isDigit :=
  Nat.isDigit_of_mem_toDigits (by decide) (by decide) h

/-- Digits of which the first is no needless zero. -/
structure IsWhole (cs : List Char) : Prop where
  ne_nil : cs ≠ []
  digits : ∀ c ∈ cs, c.isDigit
  eq_zero : cs.head? = some '0' → cs = ['0']

theorem digitChar_eq_zero (d : Nat) (hd : d < 10) (h : Nat.digitChar d = '0') : d = 0 := by
  have hall : ∀ k, k < 10 → Nat.digitChar k = '0' → k = 0 := by decide
  exact hall d hd h

theorem toDigits_eq_zero (n : Nat) (h : (Nat.toDigits 10 n).head? = some '0') : n = 0 := by
  induction n using Nat.strongRecOn with
  | ind n ih =>
    by_cases hlt : n < 10
    · rw [Nat.toDigits_of_lt_base hlt] at h
      exact digitChar_eq_zero n hlt (by simpa using h)
    · have hhead : (Nat.toDigits 10 (n / 10)).head? = some '0' := by
        rw [Nat.toDigits_of_base_le (by decide) (by omega)] at h
        rwa [List.head?_append_of_ne_nil _ Nat.toDigits_ne_nil] at h
      have := ih (n / 10) (by omega) hhead
      omega

theorem isWhole_toDigits (n : Nat) : IsWhole (Nat.toDigits 10 n) where
  ne_nil := Nat.toDigits_ne_nil
  digits := isDigit_of_mem_toDigits n
  eq_zero h := by simp [toDigits_eq_zero n h]

theorem IsWhole.exists_cons {cs : List Char} (h : IsWhole cs) :
    ∃ c rest, cs = c :: rest ∧ c.isDigit := by
  cases cs with
  | nil => exact absurd rfl h.ne_nil
  | cons c rest => exact ⟨c, rest, rfl, h.digits c (by simp)⟩

theorem readNatural_of_digit (base bound : Nat) (c : Char) (rest : List Char) (h : c ≠ '+') :
    readNatural base bound (c :: rest) = readDigits base bound 0 (c :: rest) := by
  unfold readNatural
  split <;> simp_all

theorem readNatural_toDigits (n bound : Nat) (h : n ≤ bound) :
    readNatural 10 bound (Nat.toDigits 10 n) = .ok n := by
  obtain ⟨c, rest, heq, hc⟩ := (isWhole_toDigits n).exists_cons
  have hplus : c ≠ '+' := by
    rintro rfl
    simp at hc
  have hread := readDigits_toDigits 10 bound n id [] (by decide)
    (fun d hd => digitValue?_digitChar 10 d (by decide) hd) h
  rw [List.map_id, List.append_nil, readDigits] at hread
  rw [heq, readNatural_of_digit _ _ _ _ hplus, ← heq]
  exact hread

theorem digitsValue_toDigits (n : Nat) : digitsValue (Nat.toDigits 10 n) = n := by
  have hdigit : ∀ d, d < 10 → (Nat.digitChar d).toNat - '0'.toNat = d := by decide
  induction n using Nat.strongRecOn with
  | ind n ih =>
    by_cases hlt : n < 10
    · simpa [Nat.toDigits_of_lt_base hlt, digitsValue] using hdigit n hlt
    · have hdiv := ih (n / 10) (by omega)
      have hmod := hdigit (n % 10) (by omega)
      unfold digitsValue at hdiv ⊢
      rw [Nat.toDigits_of_base_le (by decide) (by omega), List.foldl_append, hdiv, List.foldl_cons,
        List.foldl_nil, hmod]
      omega

/-- Digits alone are a numeral without a sign, fraction or exponent. -/
theorem readReal_toDigits (n : Nat) :
    readReal (Nat.toDigits 10 n) = .ok (Numeral.toFloat ⟨false, n, 0⟩) := by
  have hdigits : ∀ c ∈ Nat.toDigits 10 n, isDigit c := fun c hc => by
    rw [isDigit_eq]
    exact isDigit_of_mem_toDigits n c hc
  have hunsigned : readUnsignedNumeral (Nat.toDigits 10 n) = some (n, 0) := by
    have htake : (Nat.toDigits 10 n).takeWhile isDigit = Nat.toDigits 10 n :=
      List.takeWhile_eq_self_iff.mpr hdigits
    have hdrop : (Nat.toDigits 10 n).dropWhile isDigit = [] := List.dropWhile_eq_nil_iff.mpr hdigits
    simp [readUnsignedNumeral, htake, hdrop, readExponent, digitsValue_toDigits]
  obtain ⟨c, rest, heq, hc⟩ := (isWhole_toDigits n).exists_cons
  have hsign : splitSign (Nat.toDigits 10 n) = (false, Nat.toDigits 10 n) := by
    rw [heq]
    unfold splitSign
    split <;> simp_all
  simp [readReal, readNumeral, hsign, hunsigned, Nat.toDigits_ne_nil]

/-- Nothing, or a point with digits. -/
inductive IsFraction : List Char → Prop
  | absent : IsFraction []
  | digits (ds : List Char) (hne : ds ≠ []) (hdigits : ∀ c ∈ ds, c.isDigit) : IsFraction ('.' :: ds)

/-- Nothing, or an exponent with its mark. -/
inductive IsPower : List Char → Prop
  | absent : IsPower []
  | digits (sign ds : List Char) (hsign : sign = [] ∨ sign = ['-'] ∨ sign = ['+']) (hne : ds ≠ [])
      (hdigits : ∀ c ∈ ds, c.isDigit) : IsPower ('e' :: sign ++ ds)

/-- A number without its sign. -/
def IsMagnitude (cs : List Char) : Prop :=
  ∃ whole fraction power, cs = whole ++ (fraction ++ power) ∧ IsWhole whole ∧
    IsFraction fraction ∧ IsPower power

theorem IsMagnitude.exists_cons {cs : List Char} (h : IsMagnitude cs) :
    ∃ c rest, cs = c :: rest ∧ c.isDigit := by
  obtain ⟨whole, fraction, power, rfl, hwhole, -, -⟩ := h
  obtain ⟨c, rest, rfl, hc⟩ := hwhole.exists_cons
  exact ⟨c, _, rfl, hc⟩

theorem isMagnitude_toDigits (n : Nat) : IsMagnitude (Nat.toDigits 10 n) :=
  ⟨_, [], [], by simp, isWhole_toDigits n, .absent, .absent⟩

/-- Digits, perhaps behind a minus sign. -/
def startsNumber : List Char → Bool
  | '-' :: c :: _ => c.isDigit
  | c :: _ => c.isDigit
  | [] => false

theorem startsNumber_of_isDigit (c : Char) (rest : List Char) (h : c.isDigit) :
    startsNumber (c :: rest) := by
  unfold startsNumber
  split <;> simp_all

theorem startsNumber_magnitude {sign magnitude : List Char} (hsign : sign = [] ∨ sign = ['-'])
    (h : IsMagnitude magnitude) : startsNumber (sign ++ magnitude) := by
  obtain ⟨c, rest, rfl, hc⟩ := h.exists_cons
  rcases hsign with rfl | rfl
  · exact startsNumber_of_isDigit c rest hc
  · exact hc

/-- No word is a number. -/
theorem ne_word_of_startsNumber {cs : List Char} (h : startsNumber cs) (word : String)
    (hword : startsNumber word.toList = false) : String.ofList cs ≠ word := by
  rintro rfl
  rw [String.toList_ofList, h] at hword
  contradiction

theorem isMagnitude_withExponent (plusSign : Bool) (ds : List Char) (exponent : Int)
    (h : IsWhole ds) : IsMagnitude (NumberForm.withExponent plusSign ds exponent) := by
  have hpower (sign : List Char) (hsign : sign = [] ∨ sign = ['-'] ∨ sign = ['+']) :
      IsPower ('e' :: sign ++ Nat.toDigits 10 exponent.natAbs) :=
    .digits sign _ hsign Nat.toDigits_ne_nil (isDigit_of_mem_toDigits _)
  have hsigned : IsPower ('e' :: (if exponent < 0 then ['-'] else if plusSign then ['+'] else []) ++
      Nat.toDigits 10 exponent.natAbs) := by
    apply hpower
    split
    · simp
    · split <;> simp
  match ds, h with
  | [], h => exact absurd rfl h.ne_nil
  | [d], h => exact ⟨[d], [], _, rfl, h, .absent, hsigned⟩
  | d :: e :: rest, h =>
    refine ⟨[d], '.' :: e :: rest, _, by simp [NumberForm.withExponent], ⟨by simp, ?_, ?_⟩,
      .digits _ (by simp) ?_, hsigned⟩
    · exact fun c hc => h.digits c (by simp_all)
    · simp
    · exact fun c hc => h.digits c (List.mem_cons_of_mem _ hc)

/-- Zeros are added only behind digits that do not start with one. -/
theorem isMagnitude_withPoint (wholePoint : Bool) (ds : List Char) (before : Int) (h : IsWhole ds)
    (hzero : ds = ['0'] → before ≤ 1) :
    IsMagnitude (NumberForm.withPoint wholePoint ds before) := by
  unfold NumberForm.withPoint
  split
  · refine ⟨['0'], '.' :: (List.replicate (-before).toNat '0' ++ ds), [], by simp,
      ⟨by simp, by simp, by simp⟩, .digits _ (by simp [h.ne_nil]) ?_, .absent⟩
    intro c hc
    rcases List.mem_append.mp hc with hc | hc
    · simp [List.eq_of_mem_replicate hc]
    · exact h.digits c hc
  · dsimp only
    split
    · rename_i hpos hlt
      refine ⟨ds.take before.toNat, '.' :: ds.drop before.toNat, [], by simp, ⟨?_, ?_, ?_⟩,
        .digits _ ?_ fun c hc => h.digits c (List.mem_of_mem_drop hc), .absent⟩
      · simp only [ne_eq, List.take_eq_nil_iff, h.ne_nil, or_false]
        omega
      · exact fun c hc => h.digits c (List.mem_of_mem_take hc)
      · intro hhead
        rw [List.head?_take, if_neg (by omega)] at hhead
        have := h.eq_zero hhead
        simp only [this, List.length_singleton] at hlt
        omega
      · simpa using hlt
    · rename_i hpos hlt
      have hwhole : IsWhole (ds ++ List.replicate (before.toNat - ds.length) '0') := by
        refine ⟨by simp [h.ne_nil], ?_, ?_⟩
        · intro c hc
          rcases List.mem_append.mp hc with hc | hc
          · exact h.digits c hc
          · simp [List.eq_of_mem_replicate hc]
        · intro hhead
          rw [List.head?_append_of_ne_nil _ h.ne_nil] at hhead
          have heq := h.eq_zero hhead
          have hle := hzero heq
          have hnone : before.toNat - 1 = 0 := by omega
          simp [hnone, heq]
      refine ⟨_, if wholePoint then ['.', '0'] else [], [], by simp, hwhole, ?_, .absent⟩
      split
      · exact .digits ['0'] (by simp) (by simp)
      · exact .absent

theorem stripZeros_digits_ne_zero (digits : Nat) (exponent : Int) (h : digits ≠ 0) :
    (stripZeros digits exponent).digits ≠ 0 := by
  induction digits using Nat.strongRecOn generalizing exponent with
  | ind digits ih =>
    unfold stripZeros
    split
    · exact ih (digits / 10) (by omega) _ (by omega)
    · exact h

/-- No number but zero reads back from zero. -/
theorem not_holds_zero (mantissa : Nat) (exponent : Int) (up down : Nat) (hm : mantissa ≠ 0)
    (hdown : 0 < down) : (Rounding.ofBinary mantissa exponent).holds up down 0 = false := by
  have hlow : 0 < (Rounding.ofBinary mantissa exponent).low := by
    simp only [Rounding.ofBinary]
    refine Nat.mul_pos ?_ ?_
    · split <;> omega
    · rw [Nat.one_shiftLeft]
      exact Nat.two_pow_pos _
  have hpos : (Rounding.ofBinary mantissa exponent).low * down ≠ 0 :=
    Nat.ne_of_gt (Nat.mul_pos hlow hdown)
  simp only [Rounding.holds, Nat.zero_mul, Nat.le_zero]
  split
  · rw [decide_eq_false hpos, Bool.false_and]
  · simp

theorem holds_of_onGrid (r : Rounding) (k : Int) (n : Nat) (h : r.onGrid k = some n) :
    r.holds (Nat.pow 10 k.toNat) (Nat.pow 10 (-k).toNat) n = true := by
  simp only [Rounding.onGrid] at h
  split at h
  · simp only [Option.some.injEq] at h
    subst h
    split <;> assumption
  · simp only [Option.some.injEq] at h
    subst h
    assumption
  · simp only [Option.some.injEq] at h
    subst h
    assumption
  · simp at h

theorem onGrid_ne_zero (mantissa : Nat) (exponent k : Int) (n : Nat) (hm : mantissa ≠ 0)
    (h : (Rounding.ofBinary mantissa exponent).onGrid k = some n) : n ≠ 0 := by
  have hholds := holds_of_onGrid _ k n h
  have hdown : 0 < Nat.pow 10 (-k).toNat := Nat.pow_pos (by decide)
  rintro rfl
  rw [not_holds_zero mantissa exponent _ _ hm hdown] at hholds
  simp at hholds

theorem shortest_digits (mantissa : Nat) (exponent : Int) (hm : mantissa ≠ 0) :
    (shortest mantissa exponent).digits ≠ 0 ∨ shortest mantissa exponent = ⟨0, 0⟩ := by
  unfold shortest
  dsimp only
  cases hfound : (List.range 17).findSome? fun (n : Nat) =>
      ((Rounding.ofBinary mantissa exponent).onGrid
        (decimalOrder mantissa exponent - (n : Int))).map
        fun digits => stripZeros digits (decimalOrder mantissa exponent - (n : Int)) with
  | none => exact .inr rfl
  | some d =>
    obtain ⟨n, _, hn⟩ := List.exists_of_findSome?_eq_some hfound
    simp only [Option.map_eq_some_iff] at hn
    obtain ⟨digits, hgrid, rfl⟩ := hn
    exact .inl (stripZeros_digits_ne_zero _ _ (onGrid_ne_zero _ _ _ _ hm hgrid))

theorem isMagnitude_ofNumber (form : NumberForm) (d : Number)
    (h : d.digits ≠ 0 ∨ d = ⟨0, 0⟩) : IsMagnitude (form.ofNumber d) := by
  unfold NumberForm.ofNumber
  dsimp only
  split
  · refine isMagnitude_withPoint _ _ _ (isWhole_toDigits _) fun heq => ?_
    have hdigits : d.digits = 0 := toDigits_eq_zero d.digits (by simp [heq])
    rcases h with h | rfl
    · exact absurd hdigits h
    · simp
  · exact isMagnitude_withExponent _ _ _ (isWhole_toDigits _)

theorem isMagnitude_zero (wholePoint : Bool) :
    IsMagnitude (if wholePoint then ['0', '.', '0'] else ['0']) := by
  cases wholePoint with
  | true =>
    exact ⟨['0'], ['.', '0'], [], rfl, ⟨by simp, by simp, by simp⟩,
      .digits ['0'] (by simp) (by simp), .absent⟩
  | false => exact ⟨['0'], [], [], rfl, ⟨by simp, by simp, by simp⟩, .absent, .absent⟩

/-- What a form writes: one of its three words, or a number. -/
theorem write_cases (form : NumberForm) (x : Float) :
    form.write x = form.nan ∨ form.write x = form.infinity ∨
      form.write x = form.negativeInfinity ∨
      ∃ sign magnitude, (sign = [] ∨ sign = ['-']) ∧ IsMagnitude magnitude ∧
        (form.write x).toList = sign ++ magnitude := by
  unfold NumberForm.write
  split
  · simp
  · simp
  · simp
  · rename_i negative mantissa exponent _
    refine .inr (.inr (.inr ⟨if negative then ['-'] else [],
      if mantissa = 0 then if form.wholePoint then ['0', '.', '0'] else ['0']
        else form.ofNumber (shortest mantissa exponent), ?_, ?_, ?_⟩))
    · split <;> simp
    · split
      · exact isMagnitude_zero form.wholePoint
      · exact isMagnitude_ofNumber _ _ (shortest_digits _ _ ‹_›)
    · cases negative <;> simp

namespace NumberForm

/-- The text of the double is read as the same double. -/
def Keeps (form : NumberForm) (x : Float) : Prop := readReal (form.write x).toList = .ok x

instance (form : NumberForm) (x : Float) : Decidable (form.Keeps x) :=
  decidable_of_iff ((readReal (form.write x).toList).toOption = some x) (by
    unfold Keeps
    cases readReal (form.write x).toList <;> simp [Except.toOption])

/-- A double that is kept is written as a number where the words of the form are none. -/
theorem Keeps.exists_magnitude {form : NumberForm} {x : Float} (h : form.Keeps x)
    (hwords : ∀ word ∈ [form.nan, form.infinity, form.negativeInfinity],
      (readReal word.toList).toOption = none) :
    ∃ sign magnitude, (sign = [] ∨ sign = ['-']) ∧ IsMagnitude magnitude ∧
      (form.write x).toList = sign ++ magnitude := by
  have hother (word : String) (hword : word ∈ [form.nan, form.infinity, form.negativeInfinity])
      (heq : form.write x = word) : False := by
    have hnone := hwords word hword
    rw [← heq, h] at hnone
    simp [Except.toOption] at hnone
  rcases write_cases form x with heq | heq | heq | hnumber
  · exact (hother _ (by simp) heq).elim
  · exact (hother _ (by simp) heq).elim
  · exact (hother _ (by simp) heq).elim
  · exact hnumber

end NumberForm

end BenchCharts.Decimal
