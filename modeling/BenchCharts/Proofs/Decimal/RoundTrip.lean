import BenchCharts.Proofs.Decimal.Scientific
import BenchCharts.Proofs.Decimal.Shortest

/-!
Doubles that are written and read again. Wherever a form puts the point and the exponent, the value
of the digits stays the same, and that value rounds to the double.
-/
namespace BenchCharts.Decimal

/-! ## The value of digits -/

theorem digitsValue_append (cs ds : List Char) :
    digitsValue (cs ++ ds) = digitsValue cs * 10 ^ ds.length + digitsValue ds := by
  induction ds using List.reverseRecOn with
  | nil => simp [digitsValue]
  | append_singleton ds d ih =>
    have hlast (es : List Char) :
        digitsValue (es ++ [d]) = digitsValue es * 10 + (d.toNat - '0'.toNat) := by
      simp [digitsValue]
    rw [← List.append_assoc, hlast, hlast, ih, List.length_append, List.length_singleton, pow_succ]
    ring

theorem digitsValue_zeros (k : Nat) : digitsValue (List.replicate k '0') = 0 := by
  induction k with
  | zero => rfl
  | succ k ih => simpa [List.replicate_succ, digitsValue] using ih

/-! ## Numerals -/

/-- The text is read as a number of that value. -/
def ReadsAs (cs : List Char) (v : ℚ) : Prop :=
  ∃ digits exponent, readUnsignedNumeral cs = some (digits, exponent) ∧
    (digits : ℚ) * 10 ^ exponent = v

theorem takeWhile_isDigit {ds rest : List Char} (hds : ∀ c ∈ ds, c.isDigit)
    (hrest : ∀ c ∈ rest.head?, isDigit c = false) :
    (ds ++ rest).takeWhile isDigit = ds ∧ (ds ++ rest).dropWhile isDigit = rest := by
  have hall : ∀ c ∈ ds, isDigit c = true := fun c hc => isDigit_eq c ▸ hds c hc
  cases rest with
  | nil =>
    rw [List.append_nil]
    exact ⟨List.takeWhile_eq_self_iff.mpr hall, List.dropWhile_eq_nil_iff.mpr hall⟩
  | cons c rest =>
    have hc : isDigit c = false := hrest c rfl
    exact ⟨by rw [List.takeWhile_append_of_pos hall]; simp [hc],
      by rw [List.dropWhile_append_of_pos hall]; simp [hc]⟩

/-- A fraction and an exponent only say where the point is. -/
theorem readsAs_parts (whole ds point power : List Char) {exponent : Int} (hne : whole ≠ [])
    (hwhole : ∀ c ∈ whole, c.isDigit) (hds : ∀ c ∈ ds, c.isDigit)
    (hpoint : point = [] ∧ ds = [] ∨ point = ['.'])
    (hhead : ∀ c ∈ power.head?, isDigit c = false ∧ c ≠ '.')
    (hpower : readExponent power = some exponent) :
    ReadsAs (whole ++ (point ++ (ds ++ power)))
      (digitsValue (whole ++ ds) * 10 ^ (exponent - ds.length)) := by
  refine ⟨_, _, ?_, rfl⟩
  unfold readUnsignedNumeral
  rcases hpoint with ⟨rfl, rfl⟩ | rfl
  · have hparts := takeWhile_isDigit hwhole fun c hc => (hhead c hc).1
    cases power with
    | nil =>
      simp only [List.nil_append, hparts]
      simp [hne, hpower]
    | cons c rest =>
      have hc : c ≠ '.' := (hhead c rfl).2
      simp [hparts, hne, hpower, hc]
  · have hmark : ∀ c ∈ ('.' :: (ds ++ power)).head?, isDigit c = false := by
      intro c hc
      obtain rfl : '.' = c := by simpa using hc
      decide
    have hparts := takeWhile_isDigit hwhole hmark
    have hfraction := takeWhile_isDigit hds fun c hc => (hhead c hc).1
    simp only [List.singleton_append, hparts, hfraction]
    simp [hne, hpower]

/-- An exponent with its mark is read as itself. -/
theorem readExponent_written (plusSign : Bool) (exponent : Int) :
    readExponent ('e' :: ((if exponent < 0 then ['-'] else if plusSign then ['+'] else []) ++
      Nat.toDigits 10 exponent.natAbs)) = some exponent := by
  have hall : (Nat.toDigits 10 exponent.natAbs).all isDigit = true :=
    List.all_eq_true.mpr fun c hc => by
      rw [isDigit_eq]
      exact isDigit_of_mem_toDigits _ c hc
  obtain ⟨c, rest, heq, hc⟩ := (isWhole_toDigits exponent.natAbs).exists_cons
  have hvalue := digitsValue_toDigits exponent.natAbs
  have hminus : c ≠ '-' := by rintro rfl; simp at hc
  have hplus : c ≠ '+' := by rintro rfl; simp at hc
  rw [heq] at hall hvalue ⊢
  have hdigits : (c :: rest).isEmpty = false ∧ (!(c :: rest).all isDigit) = false := by simp [hall]
  unfold readExponent
  by_cases hsign : exponent < 0
  · have habs : -(exponent.natAbs : Int) = exponent := by omega
    simp only [hsign, if_true, true_or, List.singleton_append, hdigits, Bool.or_self,
      Bool.false_eq_true, if_false, hvalue, habs]
  · have habs : (exponent.natAbs : Int) = exponent := by omega
    cases plusSign with
    | true =>
      simp only [hsign, if_true, if_false, true_or, List.singleton_append, hdigits, Bool.or_self,
        Bool.false_eq_true, hvalue, habs]
    | false =>
      simp only [hsign, if_true, if_false, true_or, List.nil_append, Bool.false_eq_true]
      split
      · next heq => exact absurd (List.cons.inj heq).1 hminus
      · next heq => exact absurd (List.cons.inj heq).1 hplus
      · simp only [hdigits, Bool.or_self, Bool.false_eq_true, if_false, hvalue, habs]

/-! ## Written numbers -/

theorem ReadsAs.of_eq {cs cs' : List Char} {v v' : ℚ} (h : ReadsAs cs v) (hcs : cs = cs')
    (hv : v = v') : ReadsAs cs' v' := hcs ▸ hv ▸ h

section
variable {ds : List Char} (hne : ds ≠ []) (hall : ∀ c ∈ ds, c.isDigit)

theorem isDigit_zeros (k : Nat) : ∀ c ∈ List.replicate k '0', c.isDigit := by
  intro c hc
  simp [List.eq_of_mem_replicate hc]

include hall in
/-- Zeros stand between the point and the digits. -/
theorem readsAs_behindPoint (k : Nat) :
    ReadsAs ('0' :: '.' :: (List.replicate k '0' ++ ds))
      (digitsValue ds * 10 ^ (-(k : Int) - ds.length)) := by
  have hdigits : ∀ c ∈ List.replicate k '0' ++ ds, c.isDigit := fun c hc =>
    (List.mem_append.mp hc).elim (isDigit_zeros k c) (hall c)
  have hzero : digitsValue ['0'] = 0 := rfl
  refine (readsAs_parts ['0'] _ ['.'] [] (by simp) (by simp) hdigits (Or.inr rfl) (by simp)
    rfl).of_eq (by simp) ?_
  rw [digitsValue_append, digitsValue_append, digitsValue_zeros, hzero, List.length_append,
    List.length_replicate]
  congr 1
  · push_cast
    ring
  · congr 1
    push_cast
    ring

include hne hall in
/-- The point stands among the digits. -/
theorem readsAs_aroundPoint {k : Nat} (hk : 0 < k) (hlt : k < ds.length) :
    ReadsAs (ds.take k ++ '.' :: ds.drop k) (digitsValue ds * 10 ^ ((k : Int) - ds.length)) := by
  have hfirst : ds.take k ≠ [] := by
    simp only [ne_eq, List.take_eq_nil_iff, hne, or_false]
    omega
  refine (readsAs_parts (ds.take k) (ds.drop k) ['.'] [] hfirst
    (fun c hc => hall c (List.mem_of_mem_take hc)) (fun c hc => hall c (List.mem_of_mem_drop hc))
    (Or.inr rfl) (by simp) rfl).of_eq (by simp) ?_
  rw [List.take_append_drop, List.length_drop]
  congr 2
  omega

include hne hall in
/-- Zeros stand between the digits and the point, if there is one. -/
theorem readsAs_beforePoint (wholePoint : Bool) (k : Nat) :
    ReadsAs (ds ++ List.replicate k '0' ++ if wholePoint then ['.', '0'] else [])
      (digitsValue ds * 10 ^ k) := by
  have hwhole : ∀ c ∈ ds ++ List.replicate k '0', c.isDigit := fun c hc =>
    (List.mem_append.mp hc).elim (hall c) (isDigit_zeros k c)
  have hvalue : digitsValue (ds ++ List.replicate k '0') = digitsValue ds * 10 ^ k := by
    rw [digitsValue_append, digitsValue_zeros, List.length_replicate, Nat.add_zero]
  have hzero : digitsValue ['0'] = 0 := rfl
  cases wholePoint with
  | true =>
    refine (readsAs_parts _ ['0'] ['.'] [] (by simp [hne]) hwhole (by simp) (Or.inr rfl) (by simp)
      rfl).of_eq (by simp) ?_
    rw [digitsValue_append, hvalue, hzero]
    push_cast
    norm_num
    ring
  | false =>
    refine (readsAs_parts _ [] [] [] (by simp [hne]) hwhole (by simp) (Or.inl ⟨rfl, rfl⟩) (by simp)
      rfl).of_eq (by simp) ?_
    rw [List.append_nil, hvalue]
    simp

include hne hall

theorem readsAs_withPoint (wholePoint : Bool) (before : Int) :
    ReadsAs (NumberForm.withPoint wholePoint ds before)
      (digitsValue ds * 10 ^ (before - ds.length)) := by
  unfold NumberForm.withPoint
  split
  · refine (readsAs_behindPoint hall (-before).toNat).of_eq (by simp) ?_
    congr 3
    omega
  · dsimp only
    split
    · refine (readsAs_aroundPoint hne hall (by omega) (by assumption)).of_eq rfl ?_
      congr 3
      omega
    · refine (readsAs_beforePoint hne hall wholePoint _).of_eq rfl ?_
      rw [← zpow_natCast]
      congr 2
      omega

theorem readsAs_withExponent (plusSign : Bool) (exponent : Int) :
    ReadsAs (NumberForm.withExponent plusSign ds exponent)
      (digitsValue ds * 10 ^ (exponent + 1 - ds.length)) := by
  have hpower := readExponent_written plusSign exponent
  match ds, hne with
  | [d], _ =>
    refine (readsAs_parts [d] [] [] _ (by simp) hall (by simp) (Or.inl ⟨rfl, rfl⟩)
      (by simp [isDigit]) hpower).of_eq (by simp [NumberForm.withExponent]) ?_
    simp
  | d :: d' :: rest, _ =>
    refine (readsAs_parts [d] (d' :: rest) ['.'] _ (by simp) (fun c hc => hall c (by simp_all))
      (fun c hc => hall c (List.mem_cons_of_mem _ hc)) (Or.inr rfl) (by simp [isDigit])
      hpower).of_eq (by simp [NumberForm.withExponent]) ?_
    congr 2
    simp only [List.length_cons]
    push_cast
    ring

end

/-- A decimal keeps its value in every form. -/
theorem readsAs_ofNumber (form : NumberForm) (d : Number) :
    ReadsAs (form.ofNumber d) (d.digits * 10 ^ d.exponent) := by
  have hne : Nat.toDigits 10 d.digits ≠ [] := Nat.toDigits_ne_nil
  have hall := isDigit_of_mem_toDigits d.digits
  have hvalue := digitsValue_toDigits d.digits
  unfold NumberForm.ofNumber
  dsimp only
  split
  · refine (readsAs_withPoint hne hall form.wholePoint _).of_eq rfl ?_
    rw [hvalue]
    congr 2
    ring
  · refine (readsAs_withExponent hne hall form.plusSign _).of_eq rfl ?_
    rw [hvalue]
    congr 2
    ring

/-! ## Doubles -/

theorem readNumeral_signed {magnitude : List Char} {digits : Nat} {exponent : Int}
    (negative : Bool) (hmagnitude : ∃ c rest, magnitude = c :: rest ∧ c.isDigit)
    (h : readUnsignedNumeral magnitude = some (digits, exponent)) :
    readNumeral (if negative then '-' :: magnitude else magnitude) =
      some ⟨negative, digits, exponent⟩ := by
  obtain ⟨c, rest, rfl, hc⟩ := hmagnitude
  cases negative with
  | true => simp [readNumeral, splitSign, h]
  | false =>
    have hsign : splitSign (c :: rest) = (false, c :: rest) := by
      unfold splitSign
      split <;> simp_all
    simp [readNumeral, hsign, h]

theorem readReal_signed {magnitude : List Char} {digits : Nat} {exponent : Int} (negative : Bool)
    (hmagnitude : IsMagnitude magnitude)
    (h : readUnsignedNumeral magnitude = some (digits, exponent)) :
    readReal (if negative then '-' :: magnitude else magnitude) =
      .ok (Numeral.toFloat ⟨negative, digits, exponent⟩) := by
  have hread := readNumeral_signed negative hmagnitude.exists_cons h
  obtain ⟨c, rest, rfl, -⟩ := hmagnitude.exists_cons
  cases negative <;> simp_all [readReal]

/-- Every double that is a number is read from its own text, in every form. -/
theorem keeps_of_isFinite (form : NumberForm) {x : Float} (h : x.isFinite = true) :
    form.Keeps x := by
  obtain ⟨negative, m, e, hx⟩ := exists_ofFloat h
  unfold NumberForm.Keeps NumberForm.write
  simp only [hx, String.toList_ofList]
  by_cases hm : m = 0
  · subst hm
    obtain ⟨exponent, hread⟩ : ∃ exponent, readUnsignedNumeral
        (if form.wholePoint then ['0', '.', '0'] else ['0']) = some (0, exponent) := by
      cases form.wholePoint with
      | true => exact ⟨-1, rfl⟩
      | false => exact ⟨0, rfl⟩
    rw [if_pos rfl, readReal_signed negative (isMagnitude_zero form.wholePoint) hread,
      toFloat_of_zero rfl, ← eq_zero_of_ofFloat hx]
  · have hdouble := isDouble_of_ofFloat hx hm
    obtain ⟨hdigits, hattracts⟩ := shortest_attracts hdouble
    obtain ⟨digits, exponent, hread, hvalue⟩ := readsAs_ofNumber form (shortest m e)
    have hne : digits ≠ 0 := by
      rintro rfl
      rw [Nat.cast_zero, zero_mul, eq_comm, mul_eq_zero, Nat.cast_eq_zero] at hvalue
      exact hvalue.elim hdigits (zpow_ne_zero _ (by norm_num))
    have hfloat := toFloat_of_attracts hdouble (n := ⟨negative, digits, exponent⟩) hne
      (hvalue ▸ hattracts)
    rw [if_neg hm, readReal_signed negative (isMagnitude_ofNumber form _ (Or.inl hdigits)) hread,
      hfloat, ← eq_of_ofFloat hx hm]

end BenchCharts.Decimal
