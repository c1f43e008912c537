import BenchCharts.Text.Ranges
import BenchCharts.Yaml.Writing

/-!
Characters of written texts, and what stands behind the lines of a written value.
-/
namespace BenchCharts.Yaml

theorem isAllowed_of_isPrintable (c : Char) (h : isPrintable c) : isAllowed c := by
  simp only [isPrintable, isAllowed, Bool.or_eq_true, Bool.and_eq_true, decide_eq_true_eq] at h ⊢
  omega

theorem ne_of_isPrintable (c d : Char) (h : isPrintable c) (hd : isPrintable d = false) :
    c ≠ d := by
  rintro rfl
  rw [h] at hd
  exact absurd hd (by decide)

theorem isAnyBreak_of_isPrintable (c : Char) (h : isPrintable c) : isAnyBreak c = isBreak c := by
  have hreturn := ne_of_isPrintable c '\r' h (by decide)
  have hnext := ne_of_isPrintable c '\x85' h (by decide)
  simp [isAnyBreak, hreturn, hnext]

theorem isBlank_of_isPrintable (c : Char) (h : isPrintable c) : isBlank c = isSpace c := by
  have htab := ne_of_isPrintable c '\t' h (by decide)
  simp [isBlank, isSpace, htab]

theorem isBlank_of_isBreak (c : Char) (h : isBreak c) : isBlank c = false := by
  simp only [isBreak, isSeparator, Bool.or_eq_true, decide_eq_true_eq] at h
  rcases h with rfl | rfl | rfl <;> decide

theorem isPrintable_of_isDigit (c : Char) (h : c.isDigit) : isPrintable c := by
  simp only [Char.isDigit, Bool.and_eq_true, decide_eq_true_eq, ge_iff_le,
    UInt32.le_iff_toNat_le] at h
  have hnat : c.toNat = c.val.toNat := rfl
  have h0 : '0'.val.toNat = 48 := rfl
  have h9 : '9'.val.toNat = 57 := rfl
  simp only [isPrintable, Bool.or_eq_true, Bool.and_eq_true, decide_eq_true_eq]
  omega

theorem pad_succ (n : Nat) : pad (n + 1) = ' ' :: pad n := rfl

/-- The line that a character may start, and the character. -/
def startedChar (indent : Nat) (write : Char → List Char) (atStart : Bool) (c : Char) : List Char :=
  if isAnyBreak c then [c] else (if atStart then pad indent else []) ++ write c

theorem indented_cons (indent : Nat) (write : Char → List Char) (atStart : Bool) (c : Char)
    (rest : List Char) :
    indented indent write atStart (c :: rest) =
      startedChar indent write atStart c ++ indented indent write (isAnyBreak c) rest := by
  rw [indented, startedChar]
  cases isAnyBreak c <;> simp

theorem isPrintable_indented (indent : Nat) (write : Char → List Char) (atStart : Bool)
    (cs : List Char) (hcs : ∀ c ∈ cs, isPrintable c)
    (hwrite : ∀ c ∈ cs, ∀ d ∈ write c, isPrintable d) :
    ∀ d ∈ indented indent write atStart cs, isPrintable d := by
  induction cs generalizing atStart with
  | nil => simp [indented]
  | cons c cs ih =>
    intro d hd
    rw [indented_cons, List.mem_append] at hd
    rcases hd with hd | hd
    · unfold startedChar at hd
      split at hd
      · rw [List.mem_singleton.mp hd]
        exact hcs c (by simp)
      · rcases List.mem_append.mp hd with hd | hd
        · split at hd
          · rw [List.eq_of_mem_replicate hd]
            decide
          · simp at hd
        · exact hwrite c (by simp) d hd
    · exact ih _ (fun e he => hcs e (List.mem_cons_of_mem _ he))
        (fun e he => hwrite e (List.mem_cons_of_mem _ he)) d hd

/-- A text without breaks stays in its line. -/
theorem indented_of_unbroken (indent : Nat) (write : Char → List Char) (cs : List Char)
    (h : ∀ c ∈ cs, isAnyBreak c = false) : indented indent write false cs = cs.flatMap write := by
  induction cs with
  | nil => rfl
  | cons c cs ih =>
    have hc := h c (by simp)
    rw [indented_cons, startedChar, hc, ih fun d hd => h d (List.mem_cons_of_mem _ hd)]
    simp

theorem isAnyBreak_of_isBreak (c : Char) (h : isBreak c) : isAnyBreak c := by
  simp [isAnyBreak, h]

/-- A token may start here: the character is no blank, no break and opens no comment. -/
structure StartsToken (c : Char) : Prop where
  printable : isPrintable c
  blank : isBlank c = false
  break_ : isBreak c = false
  comment : c ≠ '#'

/-- What stands behind the lines of a value: nothing, or a token at some column that is not to the
right of an indentation. -/
structure Resumes (indent : Int) (column : Nat) (body : List Char) : Prop where
  start : ∀ c ∈ body.head?, StartsToken c
  column_le : body = [] ∨ (column : Int) ≤ indent

namespace Resumes

theorem of_le {indent outer : Int} {column : Nat} {body : List Char}
    (h : Resumes outer column body) (hle : outer ≤ indent) : Resumes indent column body :=
  ⟨h.start, h.column_le.imp_right fun hcolumn => by omega⟩

theorem cases {indent : Int} {column : Nat} {body : List Char} (h : Resumes indent column body) :
    body = [] ∨ ∃ c rest, body = c :: rest ∧ StartsToken c ∧ (column : Int) ≤ indent := by
  cases body with
  | nil => exact .inl rfl
  | cons c rest => exact .inr ⟨c, rest, rfl, h.start c rfl, by simpa using h.column_le⟩

end Resumes

end BenchCharts.Yaml
