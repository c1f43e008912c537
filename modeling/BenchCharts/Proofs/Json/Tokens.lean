import BenchCharts.Json.Node
import BenchCharts.Json.Writing
import BenchCharts.Proofs.Decimal.Digits

/-!
The smallest parts of written texts. Indentation is passed over, strings are read back character by
character whatever they escape, and a number is read up to the comma or the line break behind it.
-/
namespace BenchCharts.Json

open Decimal (IsFraction IsMagnitude IsPower IsWhole)

section Blanks

/-- Something other than a space or a comment starts there. -/
def StartsToken (c : Char) : Prop := isSpace c = false ∧ c ≠ '/'

instance (c : Char) : Decidable (StartsToken c) := inferInstanceAs (Decidable (_ ∧ _))

theorem skip_start (c : Char) (rest : List Char) (hc : StartsToken c) :
    skip (c :: rest) = some (c :: rest) := by
  simp [skip, skipFrom, hc.1, hc.2]

theorem skip_newLine (depth : Nat) (c : Char) (rest : List Char) (hc : StartsToken c) :
    skip (newLine depth ++ c :: rest) = some (c :: rest) := by
  have hspaces (k : Nat) : skip (List.replicate k ' ' ++ c :: rest) = some (c :: rest) := by
    induction k with
    | zero => exact skip_start c rest hc
    | succ k ih =>
      have hspace : isSpace ' ' = true := by decide
      rw [List.replicate_succ, List.cons_append, skip, skipFrom]
      simp only [hspace, if_true]
      exact ih
  have hbreak : isSpace '\n' = true := by decide
  rw [newLine, List.cons_append, skip, skipFrom]
  simp only [hbreak, if_true]
  exact hspaces _

theorem skip_blank (c : Char) (rest : List Char) (hc : StartsToken c) :
    skip (' ' :: c :: rest) = some (c :: rest) := by
  have hspace : isSpace ' ' = true := by decide
  rw [skip, skipFrom]
  simp only [hspace, if_true]
  exact skip_start c rest hc

end Blanks

section Strings

/-- Characters that were read, with nothing that waits. -/
def unitsOf (cs : List Char) : Units := ⟨some cs, none⟩

@[simp] theorem push_unitsOf (c : Char) (cs : List Char) :
    (unitsOf cs).push c = unitsOf (c :: cs) := rfl

theorem stringFrom_letter {c d : Char} (cs rest : List Char) (hx : c ≠ 'x') (hu : c ≠ 'u')
    (hend : c ≠ '\r' ∧ isLineEnd c = false) (h : escapes.lookup c = some d) :
    stringFrom '"' (unitsOf cs) .outside ('\\' :: c :: rest) =
      stringFrom '"' (unitsOf (d :: cs)) .outside rest := by
  simp [stringFrom, hx, hu, hend, h]

/-- The quote and the backslash stand for themselves behind a backslash. -/
theorem stringFrom_itself {c : Char} (cs rest : List Char) (h : c = '"' ∨ c = '\\') :
    stringFrom '"' (unitsOf cs) .outside ('\\' :: c :: rest) =
      stringFrom '"' (unitsOf (c :: cs)) .outside rest := by
  have hlookup : escapes.lookup c = none := by rcases h with rfl | rfl <;> rfl
  rcases h with rfl | rfl <;> simp [stringFrom, isLineEnd, hlookup]

theorem digitValue?_zero : Decimal.digitValue? 16 '0' = some 0 := by decide

theorem stringFrom_control (c : Char) (cs rest : List Char) (h : c.toNat < 0x20) :
    stringFrom '"' (unitsOf cs) .outside (['\\', 'u', '0', '0'] ++ hexByte c.toNat ++ rest) =
      stringFrom '"' (unitsOf (c :: cs)) .outside rest := by
  have hhigh := Decimal.digitValue?_digitChar 16 (c.toNat / 16) (by decide) (by omega)
  have hlow := Decimal.digitValue?_digitChar 16 (c.toNat % 16) (by decide) (by omega)
  have hsum : c.toNat / 16 * 16 + c.toNat % 16 = c.toNat := by omega
  have hunit : (unitsOf cs).pushUnit c.toNat = unitsOf (c :: cs) := by
    have hhighUnit : ¬ (0xD800 ≤ c.toNat ∧ c.toNat ≤ 0xDBFF) := by omega
    have hlowUnit : ¬ (0xDC00 ≤ c.toNat ∧ c.toNat ≤ 0xDFFF) := by omega
    simp only [unitsOf, Units.pushUnit, hhighUnit, hlowUnit, if_false, Char.ofNat_toNat]
    rfl
  simp [stringFrom, hexByte, digitValue?_zero, hhigh, hlow, hsum, hunit]

theorem stringFrom_plain {c : Char} (cs rest : List Char) (hquote : c ≠ '"') (hslash : c ≠ '\\')
    (hbreak : c ≠ '\n' ∧ c ≠ '\r') :
    stringFrom '"' (unitsOf cs) .outside (c :: rest) =
      stringFrom '"' (unitsOf (c :: cs)) .outside rest := by
  simp [stringFrom, hquote, hslash, hbreak]

theorem stringFrom_escaped (c : Char) (cs rest : List Char) :
    stringFrom '"' (unitsOf cs) .outside (escaped c ++ rest) =
      stringFrom '"' (unitsOf (c :: cs)) .outside rest := by
  by_cases hquote : c = '"'
  · subst hquote
    exact stringFrom_itself cs rest (.inl rfl)
  by_cases hslash : c = '\\'
  · subst hslash
    exact stringFrom_itself cs rest (.inr rfl)
  by_cases hletter : c ∈ (escapes.take 5).map (·.2)
  · obtain ⟨⟨letter, d⟩, hmem, rfl⟩ := List.mem_map.mp hletter
    have hall : ∀ entry ∈ escapes.take 5, escaped entry.2 = ['\\', entry.1] ∧ entry.1 ≠ 'x' ∧
        entry.1 ≠ 'u' ∧ (entry.1 ≠ '\r' ∧ isLineEnd entry.1 = false) ∧
        escapes.lookup entry.1 = some entry.2 := by decide
    obtain ⟨heq, hx, hu, hend, hlookup⟩ := hall _ hmem
    rw [heq]
    exact stringFrom_letter cs rest hx hu hend hlookup
  · simp only [escapes, List.take, List.map, List.mem_cons, List.not_mem_nil, or_false,
      not_or] at hletter
    obtain ⟨hb, hf, hn, hr, ht⟩ := hletter
    simp only [escaped, hquote, hslash, hb, hf, hn, hr, ht, if_false]
    split
    · next hcontrol => exact stringFrom_control c cs rest hcontrol
    · exact stringFrom_plain cs rest hquote hslash ⟨hn, hr⟩

theorem stringFrom_flatMap (cs before rest : List Char) :
    stringFrom '"' (unitsOf before) .outside (cs.flatMap escaped ++ '"' :: rest) =
      some (some (String.ofList (before.reverse ++ cs)), rest) := by
  induction cs generalizing before with
  | nil => simp [stringFrom, unitsOf, Units.finish]
  | cons c cs ih =>
    rw [List.flatMap_cons, List.append_assoc, stringFrom_escaped, ih]
    simp

/-- A string behind its opening quote. -/
theorem stringFrom_string (s : String) (rest : List Char) :
    stringFrom '"' .start .outside (s.toList.flatMap escaped ++ '"' :: rest) =
      some (some s, rest) := by
  have h := stringFrom_flatMap s.toList [] rest
  simpa [unitsOf, Units.start] using h

end Strings

section Numbers

/-- What follows a number that was written. -/
def EndsNumber (rest : List Char) : Prop := ∀ c ∈ rest.head?, c = ',' ∨ c = '\n'

theorem endsNumber_nil : EndsNumber [] := by simp [EndsNumber]

theorem endsNumber_comma (rest : List Char) : EndsNumber (',' :: rest) := by simp [EndsNumber]

theorem endsNumber_newLine (depth : Nat) (rest : List Char) :
    EndsNumber (newLine depth ++ rest) := by simp [EndsNumber, newLine]

theorem takeWhile_digits {ds rest : List Char} (hds : ∀ c ∈ ds, c.isDigit)
    (hrest : ∀ c ∈ rest.head?, c.isDigit = false) :
    (ds ++ rest).takeWhile isDigit = ds ∧ (ds ++ rest).dropWhile isDigit = rest := by
  rw [List.takeWhile_append_of_pos (p := isDigit) hds,
    List.dropWhile_append_of_pos (p := isDigit) hds]
  cases rest with
  | nil => simp
  | cons c rest =>
    have hc : isDigit c = false := hrest c (by simp)
    simp [hc]

theorem wholeDigits_append {whole rest : List Char} (h : IsWhole whole)
    (hrest : ∀ c ∈ rest.head?, c.isDigit = false) :
    wholeDigits (whole ++ rest) = (whole, rest) := by
  obtain ⟨htake, hdrop⟩ := takeWhile_digits h.digits hrest
  unfold wholeDigits
  split
  · next heq =>
    have hzero : whole = ['0'] := by
      obtain ⟨c, ds, rfl, -⟩ := h.exists_cons
      simp only [List.cons_append, List.cons.injEq] at heq
      exact h.eq_zero (by simp [heq.1])
    subst hzero
    simp_all
  · rw [htake, hdrop]

variable {rest : List Char} (hrest : EndsNumber rest)
include hrest

theorem EndsNumber.head : ∀ c ∈ rest.head?, c.isDigit = false ∧ c ≠ '.' ∧ c ≠ 'e' ∧ c ≠ 'E' ∧
    c ≠ 'x' ∧ c ≠ 'X' := by
  intro c hc
  rcases hrest c hc with rfl | rfl <;> decide

theorem exponent_power {power : List Char} (h : IsPower power) :
    exponent (power ++ rest) = (power, rest) := by
  cases h with
  | absent =>
    cases rest with
    | nil => rfl
    | cons c rest =>
      obtain ⟨-, -, he, hE, -⟩ := hrest.head c (by simp)
      simp [exponent, he, hE]
  | digits sign ds hsign hne hds =>
    obtain ⟨htake, hdrop⟩ := takeWhile_digits hds fun c hc => (hrest.head c hc).1
    have hempty : ds.isEmpty = false := by simpa using hne
    rcases hsign with rfl | rfl | rfl
    · -- Without a sign the digits must not be taken for one.
      obtain ⟨d, ds, rfl⟩ := List.exists_cons_of_ne_nil hne
      have hd : d ≠ '+' ∧ d ≠ '-' := by
        constructor <;>
        · rintro rfl
          simpa using hds _ List.mem_cons_self
      simp only [List.cons_append] at htake hdrop
      simp [exponent, hd, htake, hdrop]
    · simp [exponent, htake, hdrop, hempty]
    · simp [exponent, htake, hdrop, hempty]

theorem head_power {power : List Char} (h : IsPower power) :
    ∀ c ∈ (power ++ rest).head?, c.isDigit = false ∧ c ≠ '.' ∧ c ≠ 'x' ∧ c ≠ 'X' := by
  cases h with
  | absent =>
    intro c hc
    obtain ⟨hdigit, hpoint, -, -, hx⟩ := hrest.head c hc
    exact ⟨hdigit, hpoint, hx⟩
  | digits sign ds hsign hne hds => simp

theorem head_fraction {fraction power : List Char} (hfraction : IsFraction fraction)
    (hpower : IsPower power) :
    ∀ c ∈ (fraction ++ (power ++ rest)).head?, c.isDigit = false ∧ c ≠ 'x' ∧ c ≠ 'X' := by
  cases hfraction with
  | absent =>
    intro c hc
    obtain ⟨hdigit, -, hx⟩ := head_power hrest hpower c hc
    exact ⟨hdigit, hx⟩
  | digits ds hne hds => simp

theorem decimal_magnitude {text : List Char} (h : IsMagnitude text) :
    decimal (text ++ rest) = some (text, rest) := by
  obtain ⟨whole, fraction, power, rfl, hwhole, hfraction, hpower⟩ := h
  have hsplit : whole ++ (fraction ++ power) ++ rest = whole ++ (fraction ++ (power ++ rest)) := by
    simp
  have hnext := head_fraction hrest hfraction hpower
  have hempty : whole.isEmpty = false := by simpa using hwhole.ne_nil
  have hpoint := head_power hrest hpower
  have hexponent := exponent_power hrest hpower
  rw [hsplit, decimal, wholeDigits_append hwhole fun c hc => (hnext c hc).1]
  cases hfraction with
  | absent =>
    have hother (more : List Char) (heq : power ++ rest = '.' :: more) : False :=
      (hpoint '.' (by simp [heq])).2.1 rfl
    simp [hempty, hexponent]
  | digits ds hne hds =>
    obtain ⟨htake, hdrop⟩ := takeWhile_digits hds fun c hc => (hpoint c hc).1
    simp [hempty, htake, hdrop, hexponent]

theorem magnitude_append {text : List Char} (h : IsMagnitude text) :
    magnitude (text ++ rest) = some (text, rest) := by
  have hdecimal := decimal_magnitude hrest h
  obtain ⟨whole, fraction, power, rfl, hwhole, hfraction, hpower⟩ := h
  obtain ⟨c, ds, heq, hc⟩ := hwhole.exists_cons
  have hletter : c ≠ 'I' ∧ c ≠ 'N' := by
    constructor <;>
    · rintro rfl
      exact absurd hc (by decide)
  -- Behind a zero in front stands no mark of another base.
  have hbase : c = '0' → ∀ x ∈ (ds ++ (fraction ++ (power ++ rest))).head?, x ≠ 'x' ∧ x ≠ 'X' := by
    intro hzero x hx
    have hds : ds = [] := by simpa [heq, hzero] using hwhole.eq_zero (by simp [heq, hzero])
    exact (head_fraction hrest hfraction hpower x (by simpa [hds] using hx)).2
  subst heq
  simp only [List.cons_append, List.append_assoc] at hdecimal ⊢
  unfold magnitude
  split
  · next x _ heq =>
    simp only [List.cons.injEq] at heq
    have hx := hbase heq.1 x (by simp [heq.2])
    simp [hx, hdecimal]
  · simp [hletter, hdecimal]

theorem number_append {sign text : List Char} (hsign : sign = [] ∨ sign = ['-'])
    (h : IsMagnitude text) : number (sign ++ text ++ rest) = some (sign ++ text, rest) := by
  have hmagnitude := magnitude_append hrest h
  rcases hsign with rfl | rfl
  · obtain ⟨whole, fraction, power, rfl, hwhole, -, -⟩ := h
    obtain ⟨c, ds, rfl, hc⟩ := hwhole.exists_cons
    have hplus : c ≠ '+' ∧ c ≠ '-' := by
      constructor <;>
      · rintro rfl
        exact absurd hc (by decide)
    unfold number
    split <;> simp_all
  · simp [number, hmagnitude]

end Numbers

end BenchCharts.Json
