import Mathlib.Data.List.Basic
import BenchCharts.Proofs.Decimal.Digits
import BenchCharts.Proofs.Yaml.Characters

/-!
Plain scalars read back. The reader is followed through the words of a text and the blanks between
them, up to the colon behind a name or to a line that does not reach the indentation.
-/
namespace BenchCharts.Yaml

/-- Words of a plain scalar are read with the blanks between them. -/
theorem plainFrom_append (indent : Nat) (cs stop text gap : List Char) (column : Nat)
    (hne : cs ≠ []) (hlast : cs.getLast? ≠ some ' ')
    (hchars : ∀ c ∈ cs, isPrintable c ∧ isBreak c = false)
    (hplain : hasIndicator (!gap.isEmpty) cs = false) :
    ∃ column', plainFrom false indent ⟨text, .blanks gap, column⟩ (cs ++ stop) =
      plainFrom false indent
        ⟨(text.reverse ++ gap.reverse ++ cs).reverse, .none, column'⟩ stop := by
  induction cs generalizing text gap column with
  | nil => exact absurd rfl hne
  | cons c rest ih =>
    obtain ⟨hprintable, hbreak⟩ := hchars c (by simp)
    simp only [hasIndicator, Bool.or_eq_false_iff] at hplain
    obtain ⟨⟨hcolon, hsharp⟩, hrest⟩ := hplain
    rw [List.cons_append]
    by_cases hspace : c = ' '
    · subst hspace
      have hrestne : rest ≠ [] := by
        rintro rfl
        exact hlast rfl
      obtain ⟨column', hread⟩ := ih text (' ' :: gap) (column + 1) hrestne
        (by rwa [List.getLast?_cons_of_ne_nil hrestne] at hlast)
        (fun d hd => hchars d (by simp [hd])) (by simpa [isBlank] using hrest)
      refine ⟨column', ?_⟩
      rw [plainFrom]
      simpa [isBlank, Gap.isBroken, ScalarScan.addBlank, Gap.addBlank] using hread
    · have hblank : isBlank c = false := by
        rw [isBlank_of_isPrintable c hprintable]
        simpa [isSpace] using hspace
      have hend : (decide (c = ':') && atWordEnd (rest ++ stop)) = false := by
        cases rest with
        | nil =>
          have hne : c ≠ ':' := by simpa [atWordEnd] using hcolon
          simp [hne]
        | cons d rest => simpa [atWordEnd] using hcolon
      have hcomment : ¬(Gap.blanks gap ≠ .none ∧ c = '#') := by
        rintro ⟨hgap, rfl⟩
        cases gap with
        | nil => exact hgap rfl
        | cons => simp at hsharp
      rw [plainFrom]
      simp only [hblank, hbreak, hend, hcomment, Gap.isBroken, ScalarScan.atDocumentMark,
        Bool.false_and, if_false, Bool.false_eq_true]
      rw [ScalarScan.closeGap, ScalarScan.push]
      cases rest with
      | nil =>
        refine ⟨column, ?_⟩
        simp [Gap.text]
      | cons d rest =>
        obtain ⟨column', hread⟩ := ih (c :: (gap ++ text)) [] column (by simp)
          (by simpa using hlast) (fun e he => hchars e (List.mem_cons_of_mem _ he))
          (by simpa [hblank] using hrest)
        refine ⟨column', ?_⟩
        simpa [Gap.text, Gap.none] using hread

/-- A name ends before its colon. -/
theorem plainFrom_colon (indent column : Nat) (text rest : List Char) (h : atWordEnd rest) :
    plainFrom false indent ⟨text, .none, column⟩ (':' :: rest) =
      some ⟨text.reverse, false, ':' :: rest⟩ := by
  rw [plainFrom]
  simp [isBlank, isBreak, isSeparator, Gap.isBroken, Gap.none, ScalarScan.atDocumentMark, h]

theorem plainFrom_pad (indent column k : Nat) (text more body : List Char) (first : Char) :
    plainFrom false indent ⟨text, .folded first more, column⟩ (pad k ++ body) =
      plainFrom false indent ⟨text, .folded first more, column + k⟩ body := by
  induction k generalizing column with
  | zero => rfl
  | succ k ih =>
    rw [pad_succ, List.cons_append, plainFrom]
    have := ih (column + 1)
    simp only [isBlank, ScalarScan.addBlank, Gap.addBlank, Gap.isBroken, decide_true, Bool.true_or,
      if_true, this]
    simp [Nat.add_assoc, Nat.add_comm 1 k]

/-- A line that does not reach the indentation ends the scalar. -/
theorem plainFrom_break (indent : Int) (column k : Nat) (text body : List Char)
    (h : Resumes indent k body) :
    plainFrom false (indent + 1).toNat ⟨text, .none, column⟩ ('\n' :: (pad k ++ body)) =
      some ⟨text.reverse, true, body⟩ := by
  have hbreak : plainFrom false (indent + 1).toNat ⟨text, .none, column⟩ ('\n' :: (pad k ++ body)) =
      plainFrom false (indent + 1).toNat ⟨text, .folded '\n' [], 0⟩ (pad k ++ body) := by
    rw [plainFrom]
    rfl
  rw [hbreak, plainFrom_pad, Nat.zero_add]
  rcases h.cases with rfl | ⟨c, rest, rfl, hstart, hle⟩
  · rfl
  · have hcolumn : k < (indent + 1).toNat := by omega
    rw [plainFrom]
    simp [hstart.blank, hstart.break_, Gap.isBroken, hcolumn]

/-- A text that is read without quotes. -/
structure PlainText (cs : List Char) : Prop where
  ne_nil : cs ≠ []
  start : ∀ c rest, cs = c :: rest → blocksStart c rest = false ∧ c ≠ ' '
  indicator : hasIndicator false cs = false
  unmarked : cs.take 3 ≠ ['-', '-', '-'] ∧ cs.take 3 ≠ ['.', '.', '.']
  last : cs.getLast? ≠ some ' '
  chars : ∀ c ∈ cs, isPrintable c ∧ isBreak c = false

theorem blocksStart_of_isDigit (c : Char) (rest : List Char) (h : c.isDigit) :
    blocksStart c rest = false := by
  have hall :
      ∀ d ∈ ['-', '?', ':', '#', ',', '[', ']', '\x7b', '\x7d', '&', '*', '!', '|', '>', '\'',
      '"', '%', '@', '\x60'], d.isDigit = false := by decide
  cases hstart : blocksStart c rest with
  | false => rfl
  | true =>
    have hdigit := hall c (by
      simp only [blocksStart, Bool.or_eq_true, Bool.and_eq_true, decide_eq_true_eq,
        List.contains_iff_mem, List.mem_cons, List.not_mem_nil, or_false] at hstart ⊢
      tauto)
    rw [h] at hdigit
    exact absurd hdigit (by decide)

theorem plainText_of_isPlain (cs : List Char) (h : isPlain cs) : PlainText cs := by
  cases cs with
  | nil => simp [isPlain] at h
  | cons c rest =>
    simp only [isPlain, Bool.not_eq_true', Bool.or_eq_false_iff, decide_eq_false_iff_not,
      List.any_eq_false, Bool.not_eq_true, Bool.not_eq_false'] at h
    obtain ⟨⟨⟨⟨⟨⟨hstart, hindicator⟩, hhyphens⟩, hdots⟩, hspace⟩, hlast⟩, hchars⟩ := h
    have hblank : isBlank c = false := by
      have hprintable : isPrintable c := (hchars c (by simp)).2
      rw [isBlank_of_isPrintable c hprintable]
      simpa [isSpace] using hspace
    have hcolon : (decide (c = ':') && atWordEnd rest) = false := by
      cases hend : decide (c = ':') && atWordEnd rest with
      | false => rfl
      | true =>
        simp only [Bool.and_eq_true, decide_eq_true_eq] at hend
        simp [blocksStart, hend.1, hend.2] at hstart
    refine ⟨by simp, ?_, by simp [hasIndicator, hcolon, hblank, hindicator], ⟨hhyphens, hdots⟩,
      hlast, fun d hd => ?_⟩
    · rintro d rest ⟨⟩
      exact ⟨hstart, hspace⟩
    · obtain ⟨hbreak, hprintable⟩ := hchars d hd
      exact ⟨hprintable, (isAnyBreak_of_isPrintable d hprintable).symm.trans hbreak⟩

namespace PlainText

variable {cs : List Char} (h : PlainText cs)
include h

theorem exists_cons : ∃ c rest, cs = c :: rest ∧ StartsToken c ∧ blocksStart c rest = false := by
  cases hcs : cs with
  | nil => exact absurd hcs h.ne_nil
  | cons c rest =>
    obtain ⟨hstart, hspace⟩ := h.start c rest hcs
    obtain ⟨hprintable, hbreak⟩ := h.chars c (by simp [hcs])
    refine ⟨c, rest, rfl, ⟨hprintable, ?_, hbreak, ?_⟩, hstart⟩
    · rw [isBlank_of_isPrintable c hprintable]
      simpa [isSpace] using hspace
    · rintro rfl
      simp [blocksStart] at hstart

theorem read_colon (indent : Nat) (rest : List Char) (hrest : atWordEnd rest) :
    plain false indent (cs ++ ':' :: rest) = some ⟨cs, false, ':' :: rest⟩ := by
  obtain ⟨column, hread⟩ := plainFrom_append indent cs (':' :: rest) [] [] 0 h.ne_nil h.last h.chars
    h.indicator
  rw [plain, ScalarScan.start, Gap.none, hread, plainFrom_colon _ _ _ _ hrest]
  simp

theorem read_break (indent : Int) (k : Nat) (body : List Char) (hbody : Resumes indent k body) :
    plain false (indent + 1).toNat (cs ++ '\n' :: (pad k ++ body)) = some ⟨cs, true, body⟩ := by
  obtain ⟨column, hread⟩ := plainFrom_append (indent + 1).toNat cs ('\n' :: (pad k ++ body)) [] [] 0
    h.ne_nil h.last h.chars h.indicator
  rw [plain, ScalarScan.start, Gap.none, hread, plainFrom_break _ _ _ _ _ hbody]
  simp

end PlainText

def isNumeralChar (c : Char) : Bool := c.isDigit || ['.', 'e', '-', '+'].contains c

theorem isNumeralChar_cases (c : Char) (h : isNumeralChar c) :
    isPrintable c ∧ isBreak c = false ∧ c ≠ ':' ∧ c ≠ '#' ∧ c ≠ ' ' := by
  simp only [isNumeralChar, Bool.or_eq_true, List.contains_iff_mem] at h
  rcases h with h | h
  · refine ⟨isPrintable_of_isDigit c h, ?_, ?_, ?_, ?_⟩
    · cases hbreak : isBreak c with
      | false => rfl
      | true =>
        simp only [isBreak, isSeparator, Bool.or_eq_true, decide_eq_true_eq] at hbreak
        rcases hbreak with rfl | rfl | rfl <;> exact absurd h (by decide)
    all_goals
      rintro rfl
      exact absurd h (by decide)
  · revert c
    decide

theorem plainText_of_numeralChars (cs : List Char) (hchars : ∀ c ∈ cs, isNumeralChar c)
    (hstart : ∃ c rest, (cs = c :: rest ∨ cs = '-' :: c :: rest) ∧ c.isDigit) : PlainText cs := by
  have hindicator (afterBlank : Bool) : ∀ ds : List Char, (∀ c ∈ ds, isNumeralChar c) →
      hasIndicator afterBlank ds = false := by
    intro ds
    induction ds generalizing afterBlank with
    | nil => exact fun _ => rfl
    | cons c ds ih =>
      intro hds
      obtain ⟨-, -, hcolon, hsharp, -⟩ := isNumeralChar_cases c (hds c (by simp))
      simp [hasIndicator, hcolon, hsharp, ih _ fun d hd => hds d (List.mem_cons_of_mem _ hd)]
  have hlast : cs.getLast? ≠ some ' ' := fun hspace =>
    (isNumeralChar_cases ' ' (hchars ' ' (List.mem_of_getLast? hspace))).2.2.2.2 rfl
  have hall : ∀ c ∈ cs, isPrintable c ∧ isBreak c = false := fun c hc =>
    ⟨(isNumeralChar_cases c (hchars c hc)).1, (isNumeralChar_cases c (hchars c hc)).2.1⟩
  have hhyphen (c : Char) (hc : c.isDigit) : c ≠ '-' ∧ c ≠ '.' := by
    constructor <;>
    · rintro rfl
      exact absurd hc (by decide)
  obtain ⟨c, rest, rfl | rfl, hc⟩ := hstart
  · refine ⟨by simp, ?_, hindicator _ _ hchars, ?_, hlast, hall⟩
    · rintro d rest ⟨⟩
      exact ⟨blocksStart_of_isDigit c rest hc, (isNumeralChar_cases c (hchars c (by simp))).2.2.2.2⟩
    · simp [hhyphen c hc]
  · refine ⟨by simp, ?_, hindicator _ _ hchars, ?_, hlast, hall⟩
    · have hend : atWordEnd (c :: rest) = false := by
        obtain ⟨hprintable, hbreak, -, -, hspace⟩ := isNumeralChar_cases c (hchars c (by simp))
        rw [atWordEnd, hbreak, isBlank_of_isPrintable c hprintable]
        simpa [isSpace] using hspace
      rintro d rest ⟨⟩
      simp [blocksStart, hend]
    · simp [hhyphen c hc]

theorem isNumeralChar_of_isMagnitude (cs : List Char) (h : Decimal.IsMagnitude cs) :
    ∀ c ∈ cs, isNumeralChar c := by
  have hdigits (ds : List Char) (hds : ∀ c ∈ ds, c.isDigit) : ∀ c ∈ ds, isNumeralChar c := by
    intro c hc
    simp [isNumeralChar, hds c hc]
  obtain ⟨whole, fraction, power, rfl, hwhole, hfraction, hpower⟩ := h
  intro c hc
  simp only [List.mem_append] at hc
  rcases hc with hc | hc | hc
  · exact hdigits whole hwhole.digits c hc
  · cases hfraction with
    | absent => simp at hc
    | digits ds hne hds =>
      rcases List.mem_cons.mp hc with rfl | hc
      · decide
      · exact hdigits ds hds c hc
  · cases hpower with
    | absent => simp at hc
    | digits sign ds hsign hne hds =>
      simp only [List.cons_append, List.mem_cons, List.mem_append] at hc
      rcases hc with rfl | hc | hc
      · decide
      · rcases hsign with rfl | rfl | rfl
        · simp at hc
        · rw [List.mem_singleton.mp hc]
          decide
        · rw [List.mem_singleton.mp hc]
          decide
      · exact hdigits ds hds c hc

theorem plainText_natural (n : Nat) : PlainText (Nat.toDigits 10 n) := by
  obtain ⟨c, rest, heq, hc⟩ := (Decimal.isWhole_toDigits n).exists_cons
  refine plainText_of_numeralChars _ (fun d hd => ?_) ⟨c, rest, .inl heq, hc⟩
  simp [isNumeralChar, Decimal.isDigit_of_mem_toDigits n d hd]

theorem plainText_real (x : Float) : PlainText (numberForm.write x).toList := by
  rcases Decimal.write_cases numberForm x with h | h | h | ⟨sign, magnitude, hsign, hmagnitude, h⟩
  · rw [h]
    exact plainText_of_isPlain _ (by decide)
  · rw [h]
    exact plainText_of_isPlain _ (by decide)
  · rw [h]
    exact plainText_of_isPlain _ (by decide)
  · have hchars := isNumeralChar_of_isMagnitude _ hmagnitude
    obtain ⟨c, rest, heq, hc⟩ := hmagnitude.exists_cons
    rw [h]
    rcases hsign with rfl | rfl
    · exact plainText_of_numeralChars _ hchars ⟨c, rest, .inl heq, hc⟩
    · refine plainText_of_numeralChars _ ?_ ⟨c, rest, .inr (by simp [heq]), hc⟩
      simpa using ⟨by decide, hchars⟩

end BenchCharts.Yaml
