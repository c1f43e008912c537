import Mathlib.Data.List.Basic
import BenchCharts.Proofs.Yaml.Literal
import BenchCharts.Proofs.Yaml.Plain
import BenchCharts.Proofs.Yaml.Quoted
import BenchCharts.Proofs.Yaml.Scanning

/-!
Tokens of written scalars. A scalar that ends its line leads to the next token behind it, and a name
within a line to its colon; the token holds the text that was written.
-/
namespace BenchCharts.Yaml

namespace TokenScan

section Token

variable (cursor : Cursor) (allowed : Bool) (key : Option PendingKey) (indents : List Int)
  (tokens : List Token)

/-- The key that is remembered where one may start. -/
def savedKey : Option PendingKey :=
  if allowed then
    some ⟨tokens.length, decide (indents.headD (-1) = (cursor.column : Int)), cursor.index,
      cursor.line, cursor.column⟩
  else none

@[simp] theorem removeKey_blockScan :
    (blockScan cursor allowed none indents tokens).removeKey =
      some (blockScan cursor allowed none indents tokens) := rfl

@[simp] theorem saveKey_blockScan :
    (blockScan cursor allowed none indents tokens).saveKey =
      some (blockScan cursor allowed (savedKey cursor allowed indents tokens) indents tokens) := by
  cases allowed
  · rfl
  · simp only [saveKey, inFlow_blockScan, indent_blockScan, Option.bind_eq_bind,
      removeKey_blockScan, Option.bind_some]
    rfl

theorem savedKey_line : ∀ pending ∈ savedKey cursor allowed indents tokens,
    pending.line = cursor.line := by
  intro pending hpending
  simp only [savedKey] at hpending
  split at hpending
  · cases hpending
    rfl
  · simp at hpending

/-- A key to the right of its block need not be one. -/
theorem savedKey_required (h : allowed → indents.headD (-1) ≠ (cursor.column : Int)) :
    ∀ pending ∈ savedKey cursor allowed indents tokens, pending.required = false := by
  intro pending hpending
  simp only [savedKey] at hpending
  split at hpending
  · rename_i hallowed
    cases hpending
    simpa using h hallowed
  · simp at hpending

theorem moveTo_append (cs rest : List Char) (index line column : Nat) :
    Cursor.moveTo ⟨cs ++ rest, index, line, column⟩ rest =
      Cursor.advance cs.length ⟨cs ++ rest, index, line, column⟩ := by
  simp [Cursor.moveTo]

/-- A scan whose token ended right before a break goes on in the next line. -/
theorem leads_of_lineEnd {s : TokenScan} (k index line column : Nat) (body : List Char)
    (hbody : ∀ c ∈ body.head?, StartsToken c)
    (hkey : ∀ pending ∈ key, pending.required = false ∧ pending.line ≤ line)
    (htoken : s.token =
      some (blockScan ⟨'\n' :: (pad k ++ body), index, line, column⟩ allowed key indents tokens))
    (hshort : ('\n' :: (pad k ++ body)).length < s.cursor.rest.length) :
    LeadsTo s body k indents tokens := by
  have hexpire : ∃ key', expireKey ⟨'\n' :: (pad k ++ body), index, line, column⟩ key = some key' ∧
      ∀ pending ∈ key', pending.required = false ∧ pending.line ≤ line := by
    cases key with
    | none => exact ⟨none, rfl, by simp⟩
    | some pending =>
      have hpending := hkey pending rfl
      simp only [expireKey, hpending.1]
      split
      · exact ⟨none, rfl, by simp⟩
      · exact ⟨some pending, rfl, by simpa using hpending⟩
  obtain ⟨key', hkey', hcond⟩ := hexpire
  refine ⟨index + 1 + k, line + 1, .step ?_ rfl hshort
    (settle_break allowed key' indents tokens k index line column body hbody hcond) (.refl _)⟩
  rw [htoken, Option.bind_some, expireKeys_blockScan, hkey']
  rfl

/-- A scan whose token ended behind its line goes on from there. -/
theorem leads_of_lineStart {s : TokenScan} (k index line : Nat) (body : List Char)
    (hbody : ∀ c ∈ body.head?, StartsToken c)
    (hkey : ∀ pending ∈ key, pending.required = false ∧ pending.line < line)
    (htoken : s.token = some (blockScan ⟨body, index, line, k⟩ allowed key indents tokens))
    (hshort : body.length < s.cursor.rest.length) :
    Leads s ((blockScan ⟨body, index, line, k⟩ allowed none indents tokens).closeBlocks k) := by
  have hexpire : expireKey ⟨body, index, line, k⟩ key = some none := by
    cases key with
    | none => rfl
    | some pending =>
      obtain ⟨hrequired, hline⟩ := hkey pending rfl
      simp [expireKey, hrequired, hline]
  refine .step ?_ rfl hshort (settle_start allowed none indents tokens index line k body hbody rfl)
    (.refl _)
  rw [htoken, Option.bind_some, expireKeys_blockScan, hexpire]
  rfl

end Token

/-- What is asked of the place where a scalar starts: a key that starts there need not be one. -/
structure Fits (allowed : Bool) (indents : List Int) (column : Nat) : Prop where
  key : allowed → indents.headD (-1) ≠ (column : Int)
  indent : -1 ≤ indents.headD (-1)

section Plain

variable {cs : List Char} (h : PlainText cs)
include h

theorem not_atDocumentMark (stop : List Char)
    (hstop : stop.head? = some '\n' ∨ stop.head? = some ':') :
    atDocumentMark (cs ++ stop) = false := by
  obtain ⟨d, rest, rfl, hd⟩ : ∃ d rest, stop = d :: rest ∧ (d = '\n' ∨ d = ':') := by
    cases stop with
    | nil => simp at hstop
    | cons d rest => exact ⟨d, rest, rfl, by simpa using hstop⟩
  have hhyphen : d ≠ '-' ∧ d ≠ '.' := by
    rcases hd with rfl | rfl <;> decide
  have hmarks := h.unmarked
  match cs with
  | [] => simp [atDocumentMark, hhyphen]
  | [a] => simp [atDocumentMark, hhyphen]
  | [a, b] => simp [atDocumentMark, hhyphen]
  | a :: b :: c :: _ =>
    simp only [List.take_succ_cons, List.take_zero] at hmarks
    simp [atDocumentMark, hmarks]

/-- A plain scalar starts like nothing else. -/
theorem token_plain (s : TokenScan) (stop : List Char) (hrest : s.cursor.rest = cs ++ stop)
    (hflow : s.inFlow = false) (hstop : stop.head? = some '\n' ∨ stop.head? = some ':') :
    s.token = s.plainToken := by
  have hmark := not_atDocumentMark h stop hstop
  obtain ⟨c, rest, rfl, hstart, hblocks⟩ := h.exists_cons
  simp only [blocksStart, Bool.or_eq_false_iff, Bool.and_eq_false_imp, Bool.or_eq_true,
    decide_eq_true_eq, List.contains_eq_mem, decide_eq_false_iff_not, List.mem_cons,
    List.not_mem_nil, or_false, not_or] at hblocks
  obtain ⟨hlist, hword⟩ := hblocks
  have hend : (c = '?' ∨ c = ':') ∨ c = '-' → atWordEnd (rest ++ stop) = false := by
    intro hc
    cases rest with
    | nil => exact absurd (hword hc) (by decide)
    | cons d rest => exact hword hc
  have hhead : c = '-' → (rest ++ stop).head?.any isBlank = false := by
    intro hc
    have hnot := hend (.inr hc)
    cases htail : rest ++ stop with
    | nil => rfl
    | cons d tail =>
      simp only [htail, atWordEnd, Bool.or_eq_false_iff] at hnot
      exact hnot.1
  have hplain : startsPlain false c (rest ++ stop) := by
    have hblank := hstart.blank
    by_cases hhyphen : c = '-'
    · simp only [startsPlain, hhead hhyphen, hhyphen, decide_true, Bool.not_false, Bool.and_self,
        Bool.or_true, Bool.true_or]
    · by_cases hmarkers : c = '?' ∨ c = ':'
      · simp [startsPlain, hmarkers, hend (.inl hmarkers)]
      · have hindicator : isIndicator c = false := by
          simp only [not_or] at hmarkers
          simp [isIndicator, hhyphen, hmarkers, hlist]
        simp [startsPlain, hblank, hindicator]
  unfold token
  rw [hrest, List.cons_append]
  rw [List.cons_append] at hmark
  simp only [hmark, hflow, hplain, hlist, Bool.and_false, Bool.false_eq_true, if_false, if_true,
    decide_false, Bool.false_and, Bool.false_or]
  have hnot (d : Char) (hd : c = d → atWordEnd (rest ++ stop) = false) :
      (decide (c = d) && atWordEnd (rest ++ stop)) = false := by
    by_cases hc : c = d
    · rw [hd hc, Bool.and_false]
    · rw [decide_eq_false hc, Bool.false_and]
  rw [hnot '-' fun hc => hend (.inr hc), hnot '?' fun hc => hend (.inl (.inl hc)),
    hnot ':' fun hc => hend (.inl (.inr hc))]
  rfl

theorem leads_plain (allowed : Bool) (indents : List Int) (tokens : List Token)
    (k index line column : Nat) (body : List Char) (hbody : Resumes (indents.headD (-1)) k body)
    (hfits : Fits allowed indents column) :
    LeadsTo
      (blockScan ⟨cs ++ '\n' :: (pad k ++ body), index, line, column⟩ allowed none indents tokens)
      body k indents (tokens ++ [.scalar .plain (String.ofList cs)]) := by
  obtain ⟨line', hmove, hline⟩ := Cursor.exists_advance_line cs body '\n' k index line column
    (by decide)
  have htoken : (blockScan ⟨cs ++ '\n' :: (pad k ++ body), index, line, column⟩ allowed none
      indents tokens).token = some (blockScan ⟨body, index + cs.length + 1 + k, line', k⟩ true
        (savedKey ⟨cs ++ '\n' :: (pad k ++ body), index, line, column⟩ allowed indents tokens)
        indents (tokens ++ [.scalar .plain (String.ofList cs)])) := by
    rw [token_plain h _ ('\n' :: (pad k ++ body)) rfl rfl (.inl rfl)]
    have hlength : (cs ++ '\n' :: (pad k ++ body)).length - body.length = cs.length + (1 + k) := by
      simp only [List.length_append, List.length_cons, Cursor.length_pad]
      omega
    simp only [plainToken, saveKey_blockScan, Option.bind_eq_bind, Option.bind_some,
      inFlow_blockScan, indent_blockScan, cursor_blockScan, h.read_break _ _ _ hbody,
      moveTo_blockScan, push_blockScan, Cursor.moveTo, hlength, hmove]
    rfl
  refine ⟨_, line', leads_of_lineStart _ _ _ _ k _ line' body hbody.start ?_ htoken ?_⟩
  · intro pending hpending
    refine ⟨savedKey_required _ _ _ _ hfits.key pending hpending, ?_⟩
    rw [savedKey_line _ _ _ _ pending hpending]
    exact hline
  · simp only [cursor_blockScan, List.length_append, List.length_cons]
    omega

/-- A plain name ends before its colon. -/
theorem token_plain_name (allowed : Bool) (indents : List Int) (tokens : List Token)
    (index line column : Nat) (rest : List Char) (hrest : atWordEnd rest) :
    (blockScan ⟨cs ++ ':' :: rest, index, line, column⟩ allowed none indents tokens).token =
      some (blockScan ⟨':' :: rest, index + cs.length, line, column + cs.length⟩ false
        (savedKey ⟨cs ++ ':' :: rest, index, line, column⟩ allowed indents tokens) indents
        (tokens ++ [.scalar .plain (String.ofList cs)])) := by
  have hmove :=
    Cursor.advance_within cs (':' :: rest) index line column fun c hc => (h.chars c hc).2
  rw [token_plain h _ (':' :: rest) rfl rfl (.inr rfl)]
  simp only [plainToken, saveKey_blockScan, Option.bind_eq_bind, Option.bind_some,
    inFlow_blockScan, indent_blockScan, cursor_blockScan, h.read_colon _ _ hrest,
    moveTo_blockScan, push_blockScan, moveTo_append, hmove]
  rfl

end Plain

section Quoted

/-- The mark of a quoted scalar, and its reader. -/
inductive Quotes : ScalarStyle → Char → (List Char → Option (List Char × List Char)) → Prop
  | single : Quotes .singleQuoted '\'' singleQuoted
  | double : Quotes .doubleQuoted '"' doubleQuoted

variable {style : ScalarStyle} {quote : Char} {read : List Char → Option (List Char × List Char)}
  (hquotes : Quotes style quote read) {inner text : List Char}
include hquotes

theorem token_quoted (allowed : Bool) (indents : List Int) (tokens : List Token)
    (cursor : Cursor) (rest : List Char) (hcursor : cursor.rest = quote :: inner ++ rest)
    (hread : read (inner ++ rest) = some (text, rest)) :
    (blockScan cursor allowed none indents tokens).token =
      some (blockScan (cursor.moveTo rest) false (savedKey cursor allowed indents tokens) indents
        (tokens ++ [.scalar style (String.ofList text)])) := by
  have hquoted : (blockScan cursor allowed none indents tokens).token =
      (blockScan cursor allowed none indents tokens).quotedToken style := by
    cases hquotes <;> simp [token, hcursor, atDocumentMark]
  rw [hquoted]
  cases hquotes <;>
    simp only [quotedToken, saveKey_blockScan, Option.bind_eq_bind, Option.bind_some,
      cursor_blockScan, hcursor, List.cons_append, List.drop_succ_cons, List.drop_zero, if_true,
      reduceCtorEq, if_false, hread, moveTo_blockScan, push_blockScan] <;>
    rfl

theorem leads_quoted (allowed : Bool) (indents : List Int) (tokens : List Token)
    (k index line column : Nat) (body : List Char) (hbody : Resumes (indents.headD (-1)) k body)
    (hfits : Fits allowed indents column)
    (hread : read (inner ++ '\n' :: (pad k ++ body)) = some (text, '\n' :: (pad k ++ body))) :
    LeadsTo
      (blockScan ⟨(quote :: inner) ++ '\n' :: (pad k ++ body), index, line, column⟩ allowed none
        indents tokens) body k indents (tokens ++ [.scalar style (String.ofList text)]) := by
  have htoken := token_quoted hquotes allowed indents tokens
    ⟨(quote :: inner) ++ '\n' :: (pad k ++ body), index, line, column⟩ _ rfl hread
  obtain ⟨line', column', hmove, hle⟩ := Cursor.exists_advance (quote :: inner)
    ('\n' :: (pad k ++ body)) index line column
  rw [moveTo_append, hmove] at htoken
  refine leads_of_lineEnd _ _ _ _ k _ line' column' body hbody.start ?_ htoken ?_
  · intro pending hpending
    refine ⟨savedKey_required _ _ _ _ hfits.key pending hpending, ?_⟩
    rw [savedKey_line _ _ _ _ pending hpending]
    exact hle
  · simp only [cursor_blockScan, List.length_append, List.length_cons]
    omega

/-- A quoted name in its line ends before its colon. -/
theorem token_quoted_name (allowed : Bool) (indents : List Int) (tokens : List Token)
    (index line column : Nat) (rest : List Char) (hinner : ∀ c ∈ inner, isBreak c = false)
    (hread : read (inner ++ ':' :: rest) = some (text, ':' :: rest)) :
    (blockScan ⟨(quote :: inner) ++ ':' :: rest, index, line, column⟩ allowed none indents
        tokens).token =
      some (blockScan ⟨':' :: rest, index + (quote :: inner).length, line,
          column + (quote :: inner).length⟩ false
        (savedKey ⟨(quote :: inner) ++ ':' :: rest, index, line, column⟩ allowed indents tokens)
        indents (tokens ++ [.scalar style (String.ofList text)])) := by
  have hquote : isBreak quote = false := by cases hquotes <;> decide
  have hmove := Cursor.advance_within (quote :: inner) (':' :: rest) index line column
    (by simpa [hquote] using hinner)
  rw [token_quoted hquotes allowed indents tokens _ _ rfl hread, moveTo_append, hmove]

end Quoted

section Literal

theorem token_literal (allowed : Bool) (indents : List Int) (tokens : List Token) (cursor : Cursor)
    (written text rest : List Char) (hcursor : cursor.rest = '|' :: written)
    (hread : blockScalar false (indents.headD (-1)) written = some (text, rest)) :
    (blockScan cursor allowed none indents tokens).token =
      some (blockScan (cursor.moveTo rest) true none indents
        (tokens ++ [.scalar .literal (String.ofList text)])) := by
  have hblock : (blockScan cursor allowed none indents tokens).token =
      (blockScan cursor allowed none indents tokens).blockScalarToken .literal := by
    simp [token, hcursor, atDocumentMark]
  rw [hblock]
  simp only [blockScalarToken, removeKey_blockScan, Option.bind_eq_bind, Option.bind_some,
    indent_blockScan, cursor_blockScan, hcursor, List.drop_succ_cons, List.drop_zero, reduceCtorEq,
    decide_false, hread, moveTo_blockScan, push_blockScan]
  rfl

/-- A literal block leads to the line behind it. -/
theorem leads_literal (allowed : Bool) (indents : List Int) (tokens : List Token)
    (k index line column : Nat) (cs body : List Char) (hne : cs ≠ [])
    (hchars : ∀ c ∈ cs, isPrintable c) (hbody : Resumes (indents.headD (-1)) k body)
    (hk : k ≤ (indents.headD (-1)).toNat + 2) (hindent : -1 ≤ indents.headD (-1)) :
    LeadsTo
      (blockScan ⟨literalHeader cs ++ '\n' ::
          (indented ((indents.headD (-1)).toNat + 2) (fun c => [c]) true cs ++
            ((if endsInBreak cs then [] else ['\n']) ++ (pad k ++ body))), index, line, column⟩
        allowed none indents tokens)
      body k indents (tokens ++ [.scalar .literal (String.ofList cs)]) := by
  have hread := blockScalar_written (indents.headD (-1)) k cs body hne hchars hindent hbody hk
  obtain ⟨header, hheader⟩ : ∃ header, literalHeader cs = '|' :: header := ⟨_, literalHeader_eq cs⟩
  obtain ⟨before, b, hb, hlines⟩ := exists_last_break ((indents.headD (-1)).toNat + 2) cs hchars
  have hwritten : header ++ '\n' ::
      (indented ((indents.headD (-1)).toNat + 2) (fun c => [c]) true cs ++
        ((if endsInBreak cs then [] else ['\n']) ++ (pad k ++ body))) =
      (header ++ '\n' :: before) ++ b :: (pad k ++ body) := by
    rw [← List.append_assoc (indented _ _ _ _), hlines]
    simp
  rw [hheader, List.tail_cons, hwritten] at hread
  rw [hheader, List.cons_append, hwritten]
  obtain ⟨index', line', hmove⟩ : ∃ index' line', Cursor.moveTo
      ⟨'|' :: ((header ++ '\n' :: before) ++ b :: (pad k ++ body)), index, line, column⟩ body =
        ⟨body, index', line', k⟩ := by
    obtain ⟨line', hmove, -⟩ :=
      Cursor.exists_advance_line ('|' :: (header ++ '\n' :: before)) body b k
      index line column hb
    refine ⟨_, line', Eq.trans ?_ hmove⟩
    rw [Cursor.moveTo]
    congr 1
    simp only [List.length_append, List.length_cons, Cursor.length_pad]
    omega
  have htoken := token_literal allowed indents tokens
    ⟨'|' :: ((header ++ '\n' :: before) ++ b :: (pad k ++ body)), index, line, column⟩ _ _ _ rfl
      hread
  rw [hmove] at htoken
  refine ⟨index', line', leads_of_lineStart true none _ _ k index' line' body hbody.start (by simp)
    htoken ?_⟩
  simp only [cursor_blockScan, List.length_append, List.length_cons]
  omega

end Literal

end TokenScan

end BenchCharts.Yaml
