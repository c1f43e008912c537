import Mathlib.Algebra.Ring.Nat
import Mathlib.Data.List.Basic
import BenchCharts.Proofs.Decimal.Digits
import BenchCharts.Proofs.Yaml.Characters

/-!
Quoted scalars read back. Each reader is followed through a written text with what it has read so
far: its text together with the open gap is always the part that lies behind it.
-/
namespace BenchCharts.Yaml

/-- What has been read of a quoted text, with the gap after it. -/
def ScalarScan.seen (s : ScalarScan) : List Char := s.text.reverse ++ s.gap.text

theorem text_closeGap (s : ScalarScan) : s.closeGap.text.reverse = s.seen := by
  simp [ScalarScan.closeGap, ScalarScan.seen]

theorem seen_push_closeGap (s : ScalarScan) (c : Char) :
    (s.closeGap.push c).seen = s.seen ++ [c] := by
  simp [ScalarScan.closeGap, ScalarScan.push, ScalarScan.seen, Gap.text, Gap.none]

section Single

variable (s : ScalarScan) (rest : List Char)

theorem singleQuotedFrom_blank (c : Char) (h : isBlank c) :
    singleQuotedFrom s (c :: rest) = singleQuotedFrom (s.addBlank c) rest := by
  conv_lhs => unfold singleQuotedFrom
  simp only [h, if_true]

theorem singleQuotedFrom_break (c : Char) (hblank : isBlank c = false) (h : isBreak c) :
    singleQuotedFrom s (c :: rest) = singleQuotedFrom (s.addBreak c) rest := by
  conv_lhs => unfold singleQuotedFrom
  simp only [hblank, h, if_true, if_false, Bool.false_eq_true]

/-- A character that is no gap, at a place where no mark can stand. -/
theorem singleQuotedFrom_char (c : Char) (hblank : isBlank c = false) (hbreak : isBreak c = false)
    (hmark : s.gap.isBroken = false ∨ s.column ≠ 0) :
    singleQuotedFrom s (singleQuotedChar c ++ rest) =
      singleQuotedFrom (s.closeGap.push c) rest := by
  have hunmarked (cs : List Char) : s.atDocumentMark cs = false := by
    rcases hmark with h | h <;> simp [ScalarScan.atDocumentMark, h]
  unfold singleQuotedChar
  split
  · subst c
    conv_lhs => unfold singleQuotedFrom
    simp [hblank, hbreak, hunmarked]
  · conv_lhs => unfold singleQuotedFrom
    simp_all

theorem singleQuotedFrom_quote (hmark : s.gap.isBroken = false ∨ s.column ≠ 0)
    (h : rest.head? ≠ some '\'') :
    singleQuotedFrom s ('\'' :: rest) = some (s.seen, rest) := by
  have hunmarked (cs : List Char) : s.atDocumentMark cs = false := by
    rcases hmark with h | h <;> simp [ScalarScan.atDocumentMark, h]
  have hblank : isBlank '\'' = false := by decide
  have hbreak : isBreak '\'' = false := by decide
  conv_lhs => unfold singleQuotedFrom
  simp only [hblank, hbreak, hunmarked, Bool.false_eq_true, if_false, if_true]
  split
  · simp at h
  · rw [text_closeGap]

theorem singleQuotedFrom_pad (k : Nat) (hbroken : s.gap.isBroken) :
    singleQuotedFrom s (pad k ++ rest) =
      singleQuotedFrom { s with column := s.column + k } rest := by
  induction k generalizing s with
  | zero => rfl
  | succ k ih =>
    obtain ⟨text, gap, column⟩ := s
    have hgap : gap.addBlank ' ' = gap := by
      cases gap <;> simp_all [Gap.addBlank, Gap.isBroken]
    have hread := ih ⟨text, gap, column + 1⟩ hbroken
    rw [pad_succ, List.cons_append, singleQuotedFrom_blank _ _ _ (by decide)]
    simp only [ScalarScan.addBlank, hgap, hread]
    simp [Nat.add_assoc, Nat.add_comm 1 k]

end Single

/-- The gap of a text in single quotes before the character `next`: spaces, or, where a line has
just been started, breaks that are separators. -/
inductive SingleGap (next : Option Char) : Bool → ScalarScan → Prop
  | spaces (text skipped : List Char) (column : Nat)
      (hnext : skipped ≠ [] → ∀ c ∈ next, isBreak c = false) :
      SingleGap next false ⟨text, .blanks skipped, column⟩
  | breaks (text more : List Char) (first : Char) (hfirst : first ≠ '\n')
      (hnext : ∀ c ∈ next, isSpace c = false) : SingleGap next true ⟨text, .folded first more, 0⟩

theorem singleQuotedFrom_startedChar (indent : Nat) (hindent : 0 < indent) (s : ScalarScan)
    (atStart : Bool) (c : Char) (next : Option Char) (rest : List Char)
    (hgap : SingleGap (some c) atStart s) (hprintable : isPrintable c) (hfeed : c ≠ '\n')
    (hspaced : isSpace c → ∀ d ∈ next, isBreak d = false)
    (hspacing : isBreak c → ∀ d ∈ next, isSpace d = false) :
    ∃ s', singleQuotedFrom s (startedChar indent singleQuotedChar atStart c ++ rest) =
        singleQuotedFrom s' rest ∧
      s'.seen = s.seen ++ [c] ∧ SingleGap next (isAnyBreak c) s' := by
  have hblank : isBlank c = isSpace c := isBlank_of_isPrintable c hprintable
  rw [startedChar, isAnyBreak_of_isPrintable c hprintable]
  cases hbreak : isBreak c with
  | true =>
    have hspace : isBlank c = false := isBlank_of_isBreak c hbreak
    refine ⟨s.addBreak c, ?_, ?_, ?_⟩
    · exact singleQuotedFrom_break s rest c hspace hbreak
    · cases hgap with
      | spaces text skipped column hnext =>
        have hnone : skipped = [] := by
          by_contra hne
          simpa [hbreak] using hnext hne c rfl
        simp [ScalarScan.addBreak, ScalarScan.seen, Gap.addBreak, Gap.text, hfeed, hnone]
      | breaks text more first hfirst hnext =>
        simp [ScalarScan.addBreak, ScalarScan.seen, Gap.addBreak, Gap.text, hfirst]
    · cases hgap with
      | spaces text skipped column hnext => exact .breaks text [] c hfeed (hspacing hbreak)
      | breaks text more first hfirst hnext =>
        exact .breaks text (c :: more) first hfirst (hspacing hbreak)
  | false =>
    cases hgap with
    | spaces text skipped column hnext =>
      cases hspace : isSpace c with
      | true =>
        have hc : c = ' ' := by simpa [isSpace] using hspace
        refine ⟨⟨text, .blanks (c :: skipped), column + 1⟩, ?_, ?_,
          .spaces _ _ _ fun _ => hspaced hspace⟩
        · subst hc
          exact singleQuotedFrom_blank _ rest ' ' (by decide)
        · simp [ScalarScan.seen, Gap.text]
      | false =>
        refine ⟨_, singleQuotedFrom_char _ rest c (hblank.trans hspace) hbreak (.inl rfl),
          seen_push_closeGap _ c, .spaces _ [] _ fun hne => absurd rfl hne⟩
    | breaks text more first hfirst hnext =>
      have hentered := singleQuotedFrom_pad ⟨text, .folded first more, 0⟩
        (singleQuotedChar c ++ rest) indent rfl
      have hread := singleQuotedFrom_char ⟨text, .folded first more, 0 + indent⟩ rest c
        (hblank.trans (hnext c rfl)) hbreak (.inr (by simpa using Nat.ne_of_gt hindent))
      refine ⟨(⟨text, .folded first more, 0 + indent⟩ : ScalarScan).closeGap.push c, ?_, ?_,
        .spaces _ [] _ fun hne => absurd rfl hne⟩
      · simpa using hentered.trans hread
      · exact seen_push_closeGap _ c

theorem hasPair_cons (first second : Char → Bool) (c : Char) (rest : List Char)
    (h : hasPair first second (c :: rest) = false) :
    (first c → ∀ d ∈ rest.head?, second d = false) ∧ hasPair first second rest = false := by
  cases rest with
  | nil => simp [hasPair]
  | cons d rest =>
    simp only [hasPair, Bool.or_eq_false_iff, Bool.and_eq_false_imp] at h
    exact ⟨fun hc e he => by simp_all, h.2⟩

/-- A text in single quotes is read with its separators. -/
theorem singleQuotedFrom_indented (indent : Nat) (hindent : 0 < indent) (cs rest : List Char)
    (s : ScalarScan) (atStart : Bool) (hrest : rest.head? ≠ some '\'')
    (hchars : ∀ c ∈ cs, isPrintable c ∧ c ≠ '\n')
    (hspaced : hasPair isSpace isAnyBreak cs = false)
    (hspacing : hasPair isAnyBreak isSpace cs = false) (hgap : SingleGap cs.head? atStart s) :
    singleQuotedFrom s (indented indent singleQuotedChar atStart cs ++
      ((if (cs.getLast?.map isAnyBreak).getD atStart then pad indent else []) ++
        '\'' :: rest)) = some (s.seen ++ cs, rest) := by
  induction cs generalizing s atStart with
  | nil =>
    cases hgap with
    | spaces text skipped column hnext =>
      have hquote :=
        singleQuotedFrom_quote ⟨text, .blanks skipped, column⟩ rest (.inl rfl) hrest
      simpa [indented] using hquote
    | breaks text more first hfirst hnext =>
      have hpad := singleQuotedFrom_pad ⟨text, .folded first more, 0⟩ ('\'' :: rest) indent rfl
      have hquote := singleQuotedFrom_quote ⟨text, .folded first more, 0 + indent⟩ rest
        (.inr (by simpa using Nat.ne_of_gt hindent)) hrest
      simpa [indented, ScalarScan.seen] using hpad.trans hquote
  | cons c cs ih =>
    obtain ⟨hprintable, hfeed⟩ := hchars c (by simp)
    obtain ⟨hspace, hspaced⟩ := hasPair_cons _ _ _ _ hspaced
    obtain ⟨hbreak, hspacing⟩ := hasPair_cons _ _ _ _ hspacing
    have hnext : ∀ d ∈ cs.head?, isAnyBreak d = isBreak d := fun d hd =>
      isAnyBreak_of_isPrintable d (hchars d (List.mem_cons_of_mem _ (List.mem_of_mem_head? hd))).1
    have hlast : (((c :: cs).getLast?).map isAnyBreak).getD atStart =
        (cs.getLast?.map isAnyBreak).getD (isAnyBreak c) := by
      cases cs with
      | nil => rfl
      | cons d cs => simp [List.getLast?_cons]
    rw [indented_cons, List.append_assoc, hlast]
    obtain ⟨s', hread, hseen, hgap'⟩ := singleQuotedFrom_startedChar indent hindent s atStart c
      cs.head? (indented indent singleQuotedChar (isAnyBreak c) cs ++
        ((if (cs.getLast?.map isAnyBreak).getD (isAnyBreak c) then pad indent else []) ++
          '\'' :: rest)) hgap hprintable hfeed
      (fun hc d hd => by rw [← hnext d hd]; exact hspace hc d hd)
      (fun hc d hd => hbreak ((isAnyBreak_of_isPrintable c hprintable).trans hc) d hd)
    rw [hread, ih s' _ (fun d hd => hchars d (List.mem_cons_of_mem _ hd)) hspaced hspacing hgap',
      hseen]
    simp

theorem singleQuoted_written (indent : Nat) (hindent : 0 < indent) (cs rest : List Char)
    (hrest : rest.head? ≠ some '\'') (hfeed : '\n' ∉ cs) (h : isSingleQuotable cs) :
    singleQuoted (indented indent singleQuotedChar false cs ++
      ((if endsInBreak cs then pad indent else []) ++ '\'' :: rest)) = some (cs, rest) := by
  simp only [isSingleQuotable, isUnescaped, Bool.and_eq_true, Bool.not_eq_true',
    List.all_eq_true] at h
  obtain ⟨⟨hprintable, hspaced⟩, hspacing⟩ := h
  have hread := singleQuotedFrom_indented indent hindent cs rest .start false hrest
    (fun c hc => ⟨hprintable c hc, fun heq => hfeed (heq ▸ hc)⟩) hspaced hspacing
    (.spaces _ _ _ fun hne => absurd rfl hne)
  have hends : (cs.getLast?.map isAnyBreak).getD false = endsInBreak cs := by
    rw [endsInBreak]
    cases cs.getLast? <;> rfl
  rw [hends] at hread
  exact hread

theorem readDigits_replicate_zero (base bound k : Nat) (hbase : 0 < base) (hbase' : base ≤ 16)
    (rest : List Char) :
    Decimal.readDigits base bound 0 (List.replicate k '0' ++ rest) =
      Decimal.readDigits base bound 0 rest := by
  have hzero : Decimal.digitValue? base '0' = some 0 :=
    Decimal.digitValue?_digitChar base 0 hbase' hbase
  induction k with
  | zero => rfl
  | succ k ih => simp [List.replicate_succ, Decimal.readDigits, hzero, ih]

theorem readDigits_hexDigits (width n : Nat) :
    Decimal.readDigits 16 n 0 (hexDigits width n) = .ok n := by
  have hread := Decimal.readDigits_toDigits 16 n n Char.toUpper [] (by decide)
    (fun d hd => Decimal.digitValue?_toUpper d hd) (Nat.le_refl n)
  rw [hexDigits, readDigits_replicate_zero _ _ _ (by decide) (by decide)]
  simpa [Decimal.readDigits] using hread

theorem length_hexDigits (width n : Nat) (hwidth : 0 < width) (h : n < 16 ^ width) :
    (hexDigits width n).length = width := by
  have hle := (Nat.length_toDigits_le_iff (b := 16) (by decide) hwidth).mpr h
  simp only [hexDigits, List.length_append, List.length_replicate, List.length_map]
  omega

theorem charOfCode?_toNat (c : Char) : charOfCode? c.toNat = some c := by
  have hvalid : c.toNat.isValidChar := c.valid
  rw [charOfCode?, dif_pos hvalid]
  rfl

/-- The digits of an escaped character are read to the last one. -/
theorem doubleQuotedFrom_digits (s : ScalarScan) (c : Char) (bound value : Nat)
    (ds rest : List Char)
    (hne : ds ≠ []) (h : Decimal.readDigits 16 bound value ds = .ok c.toNat) :
    doubleQuotedFrom s (.digits ds.length value) (ds ++ rest) =
      doubleQuotedFrom (s.push c) .outside rest := by
  induction ds generalizing value with
  | nil => exact absurd rfl hne
  | cons d ds ih =>
    cases hdigit : Decimal.digitValue? 16 d with
    | none => simp [Decimal.readDigits, hdigit] at h
    | some digit =>
      rw [Decimal.readDigits, hdigit] at h
      rw [List.cons_append, doubleQuotedFrom, hdigit]
      dsimp only at h ⊢
      split at h
      · cases ds with
        | nil =>
          simp only [Decimal.readDigits, Except.ok.injEq] at h
          simp [h, charOfCode?_toNat]
        | cons e ds => simpa using ih _ (by simp) h
      · simp at h

theorem lookup_escapeLetters (c letter : Char) (h : escapeLetters.lookup c = some letter) :
    shortEscapes.lookup letter = some c ∧ isBreak letter = false := by
  have hall : ∀ pair ∈ escapeLetters,
      shortEscapes.lookup pair.2 = some pair.1 ∧ isBreak pair.2 = false := by decide
  obtain ⟨before, after, heq, -⟩ := List.lookup_eq_some_iff.mp h
  exact hall (c, letter) (by simp [heq])

theorem doubleQuotedFrom_backslash (s : ScalarScan) (rest : List Char)
    (hgap : s.gap.isBroken = false) :
    doubleQuotedFrom s .outside ('\\' :: rest) = doubleQuotedFrom s.closeGap .letter rest := by
  rw [doubleQuotedFrom]
  simp [isBlank, isBreak, isSeparator, ScalarScan.atDocumentMark, hgap]

theorem doubleQuotedFrom_hex (s : ScalarScan) (c mark : Char) (width : Nat) (rest : List Char)
    (hgap : s.gap.isBroken = false) (hmark : hexLength? mark = some width)
    (hshort : shortEscapes.lookup mark = none ∧ isBreak mark = false) (hwidth : 0 < width)
    (h : c.toNat < 16 ^ width) :
    doubleQuotedFrom s .outside ('\\' :: mark :: hexDigits width c.toNat ++ rest) =
      doubleQuotedFrom (s.closeGap.push c) .outside rest := by
  have hlength := length_hexDigits width c.toNat hwidth h
  have hne : hexDigits width c.toNat ≠ [] := List.ne_nil_of_length_pos (by omega)
  have hdigits := doubleQuotedFrom_digits s.closeGap c c.toNat 0 _ rest hne
    (readDigits_hexDigits width c.toNat)
  rw [hlength] at hdigits
  rw [List.cons_append, List.cons_append, doubleQuotedFrom_backslash _ _ hgap, doubleQuotedFrom]
  simp [hshort.1, hshort.2, hmark, hdigits]

theorem doubleQuotedFrom_escaped (s : ScalarScan) (c : Char) (rest : List Char)
    (hgap : s.gap.isBroken = false) :
    ∃ s', doubleQuotedFrom s .outside (escaped c ++ rest) = doubleQuotedFrom s' .outside rest ∧
      s'.gap.isBroken = false ∧ s'.seen = s.seen ++ [c] := by
  have hpush : ∃ s' : ScalarScan, s' = s.closeGap.push c ∧ s'.gap.isBroken = false ∧
      s'.seen = s.seen ++ [c] := ⟨_, rfl, rfl, seen_push_closeGap s c⟩
  obtain ⟨s', hs', hgap', hseen'⟩ := hpush
  have hvalid : c.toNat < 16 ^ 8 := by
    have hchar : c.toNat.isValidChar := c.valid
    rcases hchar with h | h <;> omega
  unfold escaped
  split
  · rename_i hc
    simp only [Bool.and_eq_true, decide_eq_true_eq, Bool.not_eq_true', ne_eq] at hc
    obtain ⟨⟨⟨hprintable, hbreak⟩, hquote⟩, hslash⟩ := hc
    rw [isAnyBreak_of_isPrintable c hprintable] at hbreak
    cases hblank : isBlank c with
    | true =>
      obtain ⟨text, gap, column⟩ := s
      cases gap with
      | blanks skipped =>
        refine ⟨⟨text, .blanks (c :: skipped), column + 1⟩, ?_, rfl, by
          simp [ScalarScan.seen, Gap.text]⟩
        rw [List.singleton_append, doubleQuotedFrom]
        simp [hblank, ScalarScan.addBlank, Gap.addBlank]
      | folded | continued => simp [Gap.isBroken] at hgap
    | false =>
      refine ⟨s', ?_, hgap', hseen'⟩
      rw [List.singleton_append, doubleQuotedFrom, hs']
      simp [hblank, hbreak, hquote, hslash, ScalarScan.atDocumentMark, hgap]
  · split
    · rename_i letter hletter
      obtain ⟨hshort, hbreak⟩ := lookup_escapeLetters c letter hletter
      refine ⟨s', ?_, hgap', hseen'⟩
      rw [List.cons_append, doubleQuotedFrom_backslash _ _ hgap, List.singleton_append,
        doubleQuotedFrom, hs']
      simp [hbreak, hshort]
    · dsimp only
      refine ⟨s', ?_, hgap', hseen'⟩
      rw [hs']
      split
      · exact doubleQuotedFrom_hex s c 'x' 2 rest hgap rfl (by decide) (by decide) (by omega)
      · split
        · exact doubleQuotedFrom_hex s c 'u' 4 rest hgap rfl (by decide) (by decide) (by omega)
        · exact doubleQuotedFrom_hex s c 'U' 8 rest hgap rfl (by decide) (by decide) hvalid

theorem doubleQuotedFrom_flatMap (s : ScalarScan) (cs rest : List Char)
    (hgap : s.gap.isBroken = false) :
    doubleQuotedFrom s .outside (cs.flatMap escaped ++ '"' :: rest) =
      some (s.seen ++ cs, rest) := by
  induction cs generalizing s with
  | nil =>
    rw [List.flatMap_nil, List.nil_append, doubleQuotedFrom]
    simp [isBlank, isBreak, isSeparator, ScalarScan.atDocumentMark, hgap, text_closeGap]
  | cons c cs ih =>
    obtain ⟨s', hread, hgap', hseen⟩ := doubleQuotedFrom_escaped s c
      (cs.flatMap escaped ++ '"' :: rest) hgap
    rw [List.flatMap_cons, List.append_assoc, hread, ih s' hgap', hseen]
    simp

theorem doubleQuoted_written (cs rest : List Char) :
    doubleQuoted (cs.flatMap escaped ++ '"' :: rest) = some (cs, rest) :=
  doubleQuotedFrom_flatMap .start cs rest rfl

theorem isPrintable_digitChar : ∀ d, d < 16 → isPrintable (Nat.digitChar d).toUpper ∧
    isBreak (Nat.digitChar d).toUpper = false := by decide

theorem exists_digit_of_mem_toDigits (n : Nat) (c : Char) (h : c ∈ Nat.toDigits 16 n) :
    ∃ d, d < 16 ∧ c = Nat.digitChar d := by
  induction n using Nat.strongRecOn with
  | ind n ih =>
    by_cases hlt : n < 16
    · rw [Nat.toDigits_of_lt_base hlt, List.mem_singleton] at h
      exact ⟨n, hlt, h⟩
    · rw [Nat.toDigits_of_base_le (by decide) (by omega), List.mem_append] at h
      rcases h with h | h
      · exact ih (n / 16) (by omega) h
      · exact ⟨n % 16, by omega, List.mem_singleton.mp h⟩

theorem isPrintable_hexDigits (width n : Nat) :
    ∀ c ∈ hexDigits width n, isPrintable c ∧ isBreak c = false := by
  intro c hc
  simp only [hexDigits, List.mem_append, List.mem_map] at hc
  rcases hc with hc | ⟨d, hd, rfl⟩
  · rw [List.eq_of_mem_replicate hc]
    decide
  · obtain ⟨k, hk, rfl⟩ := exists_digit_of_mem_toDigits n d hd
    exact isPrintable_digitChar k hk

/-- Escapes keep a text in its line. -/
theorem isPrintable_escaped (c : Char) : ∀ d ∈ escaped c, isPrintable d ∧ isBreak d = false := by
  have hletters : ∀ pair ∈ escapeLetters, isPrintable pair.2 ∧ isBreak pair.2 = false := by decide
  have hmarks : ∀ d ∈ ['\\', 'x', 'u', 'U'], isPrintable d ∧ isBreak d = false := by decide
  intro d hd
  unfold escaped at hd
  split at hd
  · rename_i hc
    simp only [Bool.and_eq_true, Bool.not_eq_true', ne_eq] at hc
    rw [List.mem_singleton.mp hd]
    exact ⟨hc.1.1.1, (isAnyBreak_of_isPrintable c hc.1.1.1).symm.trans hc.1.1.2⟩
  · split at hd
    · rename_i letter hletter
      obtain ⟨before, after, heq, -⟩ := List.lookup_eq_some_iff.mp hletter
      simp only [List.mem_cons, List.not_mem_nil, or_false] at hd
      rcases hd with rfl | hd
      · exact hmarks _ (by simp)
      · rw [hd]
        exact hletters (c, letter) (by simp [heq])
    · have hhex (mark : Char) (width : Nat) (hmark : mark ∈ ['\\', 'x', 'u', 'U'])
          (hd : d ∈ '\\' :: mark :: hexDigits width c.toNat) :
          isPrintable d ∧ isBreak d = false := by
        simp only [List.mem_cons] at hd
        rcases hd with rfl | rfl | hd
        · exact hmarks _ (by simp)
        · exact hmarks _ hmark
        · exact isPrintable_hexDigits _ _ d hd
      dsimp only at hd
      split at hd
      · exact hhex 'x' 2 (by simp) hd
      · split at hd
        · exact hhex 'u' 4 (by simp) hd
        · exact hhex 'U' 8 (by simp) hd

theorem le_utf8Size (c : Char) :
    (0xFF < c.toNat → 2 ≤ c.utf8Size) ∧ (0xFFFF < c.toNat → 3 ≤ c.utf8Size) := by
  have hval : c.val.toNat = c.toNat := rfl
  simp only [Char.utf8Size, UInt32.le_iff_toNat_le, hval, UInt32.toNat_ofNatLT]
  split
  · omega
  · split
    · omega
    · split <;> omega

/-- An escape is at most four times as long as its character. -/
theorem length_escaped_le (c : Char) : (escaped c).length ≤ 4 * c.utf8Size := by
  have hpos := c.utf8Size_pos
  have hhex (width : Nat) (hwidth : 0 < width) (h : c.toNat < 16 ^ width) (mark : Char) :
      ('\\' :: mark :: hexDigits width c.toNat).length = width + 2 := by
    rw [List.length_cons, List.length_cons, length_hexDigits width _ hwidth h]
  unfold escaped
  split
  · simp only [List.length_singleton]
    omega
  · split
    · simp only [List.length_cons, List.length_nil]
      omega
    · dsimp only
      split
      · rw [hhex 2 (by decide) (by omega)]
        omega
      · split
        · have := (le_utf8Size c).1 (by omega)
          rw [hhex 4 (by decide) (by omega)]
          omega
        · have := (le_utf8Size c).2 (by omega)
          have hvalid : c.toNat < 16 ^ 8 := by
            have hchar : c.toNat.isValidChar := c.valid
            rcases hchar with h | h <;> omega
          rw [hhex 8 (by decide) hvalid]
          omega

end BenchCharts.Yaml
