import Mathlib.Algebra.Ring.Nat
import Mathlib.Data.List.Basic
import BenchCharts.Proofs.Yaml.Scalars

/-!
Texts in the style in which they are written. Whatever the style is, the text consists of printable
characters, starts a token, and gives that token back: as a value up to the next line, and as a name
up to its colon.
-/
namespace BenchCharts.Yaml

open TokenScan

/-- A text as it is written in each of the styles, with what its style promises. -/
inductive Written (inLine : Bool) (indent : Nat) (cs : List Char) :
    ScalarStyle → List Char → Prop
  | plain (h : PlainText cs) : Written inLine indent cs .plain cs
  | singleQuoted (hfeed : '\n' ∉ cs) (h : isSingleQuotable cs) :
      Written inLine indent cs .singleQuoted ('\'' :: (indented indent singleQuotedChar false cs ++
        ((if endsInBreak cs then pad indent else []) ++ ['\''])))
  | literal (hinLine : inLine = false) (hne : cs ≠ []) (h : ∀ c ∈ cs, isPrintable c) :
      Written inLine indent cs .literal
        (literalHeader cs ++ '\n' :: indented indent (fun c => [c]) true cs)
  | doubleQuoted : Written inLine indent cs .doubleQuoted ('"' :: (cs.flatMap escaped ++ ['"']))

theorem written_writeText (inLine : Bool) (indent : Nat) (s : String) :
    Written inLine indent s.toList (styleOf inLine s) (writeText inLine indent s) := by
  unfold writeText styleOf
  dsimp only
  by_cases hfeed : '\n' ∈ s.toList
  · rw [if_pos (by simpa using hfeed)]
    split
    · rename_i h
      simp only [isLiteral, isUnescaped, Bool.and_eq_true, Bool.not_eq_true', List.all_eq_true] at h
      exact .literal h.2 (List.ne_nil_of_mem hfeed) h.1.1.1
    · simpa using Written.doubleQuoted
  · rw [if_neg (by simpa using hfeed)]
    split
    · rename_i h
      simp only [Bool.and_eq_true] at h
      exact .plain (plainText_of_isPlain _ h.1)
    · split
      · rename_i h
        simpa using Written.singleQuoted hfeed h
      · simpa using Written.doubleQuoted

namespace Written

variable {inLine : Bool} {indent : Nat} {cs : List Char} {style : ScalarStyle} {text : List Char}
  (h : Written inLine indent cs style text)
include h

theorem exists_start : ∃ c rest, text = c :: rest ∧ StartsToken c := by
  cases h with
  | plain h =>
    obtain ⟨c, rest, heq, hstart, -⟩ := h.exists_cons
    exact ⟨c, rest, heq, hstart⟩
  | singleQuoted => exact ⟨_, _, rfl, by decide, by decide, by decide, by decide⟩
  | literal => exact ⟨_, _, by rw [literalHeader_eq, List.cons_append], by decide, by decide,
      by decide, by decide⟩
  | doubleQuoted => exact ⟨_, _, rfl, by decide, by decide, by decide, by decide⟩

theorem head_starts (rest : List Char) : ∀ c ∈ (text ++ rest).head?, StartsToken c := by
  obtain ⟨c, rest', rfl, hstart⟩ := h.exists_start
  simpa using hstart

/-- A break is added behind every text but a block that ends in one. -/
theorem endLine_eq : endLine text =
    text ++ if style = .literal ∧ endsInBreak cs then [] else ['\n'] := by
  have hquoted (before : List Char) (quote : Char) (hquote : isAnyBreak quote = false) :
      endsInBreak (before ++ [quote]) = false := by
    simp [endsInBreak, hquote]
  cases h with
  | plain h =>
    have hends : endsInBreak cs = false := by
      rw [endsInBreak, List.getLast?_eq_some_getLast h.ne_nil]
      have hchar := h.chars _ (List.getLast_mem h.ne_nil)
      exact (isAnyBreak_of_isPrintable _ hchar.1).trans hchar.2
    simp [endLine, hends]
  | singleQuoted hfeed h =>
    have hends := hquoted ('\'' :: (indented indent singleQuotedChar false cs ++
      (if endsInBreak cs then pad indent else []))) '\'' (by decide)
    simp only [List.cons_append, List.append_assoc] at hends
    simp [endLine, hends]
  | literal hinLine hne h =>
    have hends : endsInBreak (literalHeader cs ++ '\n' :: indented indent (fun c => [c]) true cs) =
        endsInBreak cs := by
      simp only [endsInBreak, List.getLast?_append, List.getLast?_cons, getLast?_indented,
        List.getLast?_eq_some_getLast hne]
      rfl
    rw [endLine, hends]
    cases endsInBreak cs <;> simp
  | doubleQuoted =>
    have hends := hquoted ('"' :: cs.flatMap escaped) '"' (by decide)
    simp only [List.cons_append] at hends
    simp [endLine, hends]

theorem isPrintable_of_mem : ∀ c ∈ text, isPrintable c := by
  intro c hc
  cases h with
  | plain h => exact (h.chars c hc).1
  | singleQuoted hfeed h =>
    simp only [isSingleQuotable, isUnescaped, Bool.and_eq_true, List.all_eq_true] at h
    have hchar (c : Char) (hprintable : isPrintable c) :
        ∀ d ∈ singleQuotedChar c, isPrintable d := by
      unfold singleQuotedChar
      split <;> simp_all
    simp only [List.mem_cons, List.mem_append, List.not_mem_nil, or_false] at hc
    rcases hc with rfl | hc | hc | rfl
    · decide
    · exact isPrintable_indented _ _ _ _ h.1.1 (fun c hc => hchar c (h.1.1 c hc)) c hc
    · split at hc
      · rw [List.eq_of_mem_replicate hc]
        decide
      · simp at hc
    · decide
  | literal hinLine hne h =>
    have hmark (chomping : Chomping) : ∀ d ∈ chompingMark chomping, isPrintable d := by
      cases chomping <;> decide
    rw [literalHeader_eq] at hc
    simp only [List.mem_cons, List.mem_append] at hc
    rcases hc with (rfl | hc | hc) | rfl | hc
    · decide
    · split at hc
      · rw [List.mem_singleton.mp hc]
        decide
      · simp at hc
    · exact hmark _ c hc
    · decide
    · exact isPrintable_indented _ _ _ _ h (by simpa using h) c hc
  | doubleQuoted =>
    simp only [List.mem_cons, List.mem_append, List.mem_flatMap, List.not_mem_nil, or_false] at hc
    rcases hc with rfl | ⟨d, -, hd⟩ | rfl
    · decide
    · exact (isPrintable_escaped d c hd).1
    · decide

end Written

/-- A text that ends its line leads to the token behind it. -/
theorem leads_written {cs text : List Char} {style : ScalarStyle} (allowed : Bool)
    (indents : List Int) (tokens : List Token) (k index line column : Nat) (body : List Char)
    (h : Written false ((indents.headD (-1)).toNat + 2) cs style text)
    (hbody : Resumes (indents.headD (-1)) k body) (hk : k ≤ (indents.headD (-1)).toNat + 2)
    (hfits : Fits allowed indents column) :
    LeadsTo
      (blockScan ⟨endLine text ++ (pad k ++ body), index, line, column⟩ allowed none indents tokens)
      body k indents (tokens ++ [.scalar style (String.ofList cs)]) := by
  have hbreak : ('\n' :: (pad k ++ body)).head? ≠ some '\'' := by simp
  rw [h.endLine_eq]
  cases h with
  | plain h =>
    simpa using leads_plain h allowed indents tokens k index line column body hbody hfits
  | singleQuoted hfeed h =>
    have hread :
        Yaml.singleQuoted ((indented ((indents.headD (-1)).toNat + 2) singleQuotedChar false
        cs ++ ((if endsInBreak cs then pad ((indents.headD (-1)).toNat + 2) else []) ++ ['\''])) ++
          '\n' :: (pad k ++ body)) = some (cs, '\n' :: (pad k ++ body)) := by
      simpa using singleQuoted_written ((indents.headD (-1)).toNat + 2) (by omega) cs
        ('\n' :: (pad k ++ body)) hbreak hfeed h
    have hleads :=
      leads_quoted .single allowed indents tokens k index line column body hbody hfits hread
    simpa using hleads
  | literal hinLine hne h =>
    simpa using leads_literal allowed indents tokens k index line column cs body hne h hbody hk
      hfits.indent
  | doubleQuoted =>
    have hread : Yaml.doubleQuoted ((cs.flatMap escaped ++ ['"']) ++ '\n' :: (pad k ++ body)) =
        some (cs, '\n' :: (pad k ++ body)) := by
      simpa using doubleQuoted_written cs ('\n' :: (pad k ++ body))
    have hleads :=
      leads_quoted .double allowed indents tokens k index line column body hbody hfits hread
    simpa using hleads

theorem sum_utf8Size (cs : List Char) :
    (cs.map Char.utf8Size).sum = (String.ofList cs).utf8ByteSize := by
  induction cs with
  | nil => rfl
  | cons c cs ih => simp [String.ofList_cons, String.utf8ByteSize_append, ih]

theorem length_flatMap_le (write : Char → List Char) (cs : List Char)
    (h : ∀ c, (write c).length ≤ 4 * c.utf8Size) :
    (cs.flatMap write).length ≤ 4 * (cs.map Char.utf8Size).sum := by
  induction cs with
  | nil => simp
  | cons c cs ih =>
    have hc := h c
    simp only [List.flatMap_cons, List.length_append, List.map_cons, List.sum_cons]
    omega

/-- A name in its line leads to its colon, before it has become too long. -/
theorem token_name {cs text : List Char} {style : ScalarStyle} {indent : Nat} (allowed : Bool)
    (indents : List Int) (tokens : List Token) (index line column : Nat) (rest : List Char)
    (h : Written true indent cs style text) (hindent : 0 < indent)
    (hname : isInlineName (String.ofList cs)) (hrest : atWordEnd rest) :
    (blockScan ⟨text ++ ':' :: rest, index, line, column⟩ allowed none indents tokens).token =
      some (blockScan ⟨':' :: rest, index + text.length, line, column + text.length⟩ false
        (savedKey ⟨text ++ ':' :: rest, index, line, column⟩ allowed indents tokens) indents
        (tokens ++ [.scalar style (String.ofList cs)])) ∧
      text.length ≤ keyLimit := by
  simp only [isInlineName, String.toList_ofList, Bool.and_eq_true, Bool.not_eq_true',
    List.any_eq_false, Bool.not_eq_true, nameLimit] at hname
  obtain ⟨hunbroken, hsize⟩ := hname
  have hsize := of_decide_eq_true hsize
  rw [← sum_utf8Size] at hsize
  have hlength (write : Char → List Char) (hwrite : ∀ c, (write c).length ≤ 4 * c.utf8Size) :
      (cs.flatMap write).length ≤ 512 := by
    have := length_flatMap_le write cs hwrite
    omega
  have hsingle (c : Char) : (singleQuotedChar c).length ≤ 4 * c.utf8Size := by
    have := c.utf8Size_pos
    unfold singleQuotedChar
    split <;> simp only [List.length_cons, List.length_nil] <;> omega
  have hends : endsInBreak cs = false := by
    rw [endsInBreak]
    cases hlast : cs.getLast? with
    | none => rfl
    | some c => exact hunbroken c (List.mem_of_getLast? hlast)
  cases h with
  | plain h =>
    refine ⟨token_plain_name h allowed indents tokens index line column rest hrest, ?_⟩
    have := hlength (fun c => [c]) fun c => by
      have := c.utf8Size_pos
      simp only [List.length_singleton]
      omega
    rw [keyLimit]
    simp only [List.flatMap_singleton'] at this
    omega
  | singleQuoted hfeed h =>
    have hinner : ∀ c ∈ indented indent singleQuotedChar false cs ++
        ((if endsInBreak cs then pad indent else []) ++ ['\'']), isBreak c = false := by
      intro c hc
      rw [indented_of_unbroken _ _ _ hunbroken, hends] at hc
      simp only [Bool.false_eq_true, if_false, List.nil_append, List.mem_append, List.mem_flatMap,
        List.mem_singleton] at hc
      rcases hc with ⟨d, hd, hc⟩ | rfl
      · have hbreak : isBreak d = false := by
          cases hbreak : isBreak d with
          | false => rfl
          | true => exact absurd (hunbroken d hd) (by simp [isAnyBreak_of_isBreak d hbreak])
        unfold singleQuotedChar at hc
        split at hc
        · simp only [List.mem_cons, List.not_mem_nil, or_false, or_self] at hc
          rw [hc]
          decide
        · rwa [List.mem_singleton.mp hc]
      · decide
    have hread := singleQuoted_written indent hindent cs (':' :: rest) (by simp) hfeed h
    have htoken := token_quoted_name .single allowed indents tokens index line column rest hinner
      (by simpa using hread)
    refine ⟨by simpa using htoken, ?_⟩
    have := hlength singleQuotedChar hsingle
    rw [indented_of_unbroken _ _ _ hunbroken, hends]
    simp only [Bool.false_eq_true, if_false, List.nil_append, List.length_cons, List.length_append,
      List.length_nil, keyLimit]
    omega
  | literal hinLine => simp at hinLine
  | doubleQuoted =>
    have hinner : ∀ c ∈ cs.flatMap escaped ++ ['"'], isBreak c = false := by
      intro c hc
      simp only [List.mem_append, List.mem_flatMap, List.mem_singleton] at hc
      rcases hc with ⟨d, -, hd⟩ | rfl
      · exact (isPrintable_escaped d c hd).2
      · decide
    have htoken := token_quoted_name .double allowed indents tokens index line column rest hinner
      (by simpa using doubleQuoted_written cs (':' :: rest))
    refine ⟨by simpa using htoken, ?_⟩
    have := hlength escaped length_escaped_le
    simp only [List.length_cons, List.length_append, List.length_nil, keyLimit]
    omega

end BenchCharts.Yaml
