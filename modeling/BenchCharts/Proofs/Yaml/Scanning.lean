import Mathlib.Data.List.Basic
import BenchCharts.Proofs.Yaml.Characters

/-!
Runs of the scanner over written texts. A scan is settled once it stands at the next token and the
blocks that end before it are closed; each token then leads from one settled scan to the next. A
run gives out the tokens of the last scan that it is led to.
-/
namespace BenchCharts.Yaml

namespace Cursor

theorem length_advance_le (n : Nat) (c : Cursor) : (c.advance n).rest.length ≤ c.rest.length := by
  induction n generalizing c with
  | zero => exact Nat.le_refl _
  | succ n ih =>
    obtain ⟨rest, index, line, column⟩ := c
    cases rest with
    | nil => exact Nat.le_refl _
    | cons x rest =>
      rw [advance]
      dsimp only
      split
      · exact Nat.le_succ_of_le (ih ⟨rest, index + 1, line + 1, 0⟩)
      · exact Nat.le_succ_of_le (ih ⟨rest, index + 1, line, column + 1⟩)

theorem advance_add (m n : Nat) (c : Cursor) : c.advance (m + n) = (c.advance m).advance n := by
  induction m generalizing c with
  | zero => rw [Nat.zero_add]; rfl
  | succ m ih =>
    obtain ⟨rest, index, line, column⟩ := c
    cases rest with
    | nil =>
      have hend (k : Nat) : advance k ⟨[], index, line, column⟩ = ⟨[], index, line, column⟩ := by
        cases k <;> rfl
      rw [hend, hend, hend]
    | cons x rest =>
      rw [Nat.succ_add, advance, advance]
      dsimp only
      split <;> exact ih _

theorem advance_within (cs rest : List Char) (index line column : Nat)
    (h : ∀ c ∈ cs, isBreak c = false) :
    advance cs.length ⟨cs ++ rest, index, line, column⟩ =
      ⟨rest, index + cs.length, line, column + cs.length⟩ := by
  induction cs generalizing index column with
  | nil => rfl
  | cons c cs ih =>
    rw [List.length_cons, List.cons_append, advance]
    simp only [h c (by simp), Bool.false_eq_true, if_false]
    rw [ih _ _ fun d hd => h d (List.mem_cons_of_mem _ hd)]
    congr 1 <;> omega

theorem exists_advance (cs rest : List Char) (index line column : Nat) :
    ∃ line' column', advance cs.length ⟨cs ++ rest, index, line, column⟩ =
      ⟨rest, index + cs.length, line', column'⟩ ∧ line ≤ line' := by
  induction cs generalizing index line column with
  | nil => exact ⟨line, column, rfl, Nat.le_refl _⟩
  | cons c cs ih =>
    have hlength : index + (c :: cs).length = index + 1 + cs.length := by
      rw [List.length_cons]
      omega
    rw [hlength, List.length_cons, List.cons_append, advance]
    dsimp only
    split
    · obtain ⟨line', column', hmove, hle⟩ := ih (index + 1) (line + 1) 0
      exact ⟨line', column', hmove, by omega⟩
    · exact ih (index + 1) line (column + 1)

theorem isBreak_pad (k : Nat) : ∀ c ∈ pad k, isBreak c = false := by
  intro c hc
  rw [List.eq_of_mem_replicate hc]
  decide

theorem length_pad (k : Nat) : (pad k).length = k := List.length_replicate

/-- Behind a break and blanks, the cursor stands at the column of the blanks. -/
theorem exists_advance_line (cs rest : List Char) (b : Char) (k index line column : Nat)
    (hb : isBreak b) :
    ∃ line', advance (cs.length + (1 + k)) ⟨cs ++ b :: (pad k ++ rest), index, line, column⟩ =
      ⟨rest, index + cs.length + 1 + k, line', k⟩ ∧ line < line' := by
  obtain ⟨line', column', hmove, hle⟩ := exists_advance cs (b :: (pad k ++ rest)) index line column
  have hpad := advance_within (pad k) rest (index + cs.length + 1) (line' + 1) 0 (isBreak_pad k)
  rw [length_pad] at hpad
  rw [advance_add, hmove, Nat.add_comm 1 k, advance]
  simp only [hb, if_true, hpad, Nat.zero_add]
  exact ⟨line' + 1, rfl, by omega⟩

end Cursor

namespace TokenScan

/-- Goes on to the next token and closes the blocks that end before it. -/
def settle (s : TokenScan) : Option TokenScan :=
  s.toNextToken.expireKeys.map fun s => s.closeBlocks s.cursor.column

theorem step_eq (s : TokenScan) :
    s.step = s.settle.bind fun t => t.token.bind expireKeys := by
  simp only [step, settle, Option.bind_eq_bind, Option.bind_map]
  cases s.toNextToken.expireKeys <;> rfl

theorem rest_expireKeys (s t : TokenScan) (h : s.expireKeys = some t) :
    t.cursor = s.cursor := by
  simp only [expireKeys, Option.map_eq_some_iff] at h
  obtain ⟨keys, -, rfl⟩ := h
  rfl

theorem cursor_closeBlocks (s : TokenScan) (column : Int) :
    (s.closeBlocks column).cursor = s.cursor := by
  unfold closeBlocks
  split <;> rfl

theorem length_settle_le (s t : TokenScan) (h : s.settle = some t) :
    t.cursor.rest.length ≤ s.cursor.rest.length := by
  have hnext : s.toNextToken.cursor.rest.length ≤ s.cursor.rest.length := by
    unfold toNextToken
    dsimp only
    refine Nat.le_trans (Cursor.length_advance_le _ _) ?_
    split
    · exact Cursor.length_advance_le _ _
    · exact Nat.le_refl _
  simp only [settle, Option.map_eq_some_iff] at h
  obtain ⟨u, hu, rfl⟩ := h
  rw [cursor_closeBlocks, rest_expireKeys _ _ hu]
  exact hnext

/-- The tokens from one settled scan to another. -/
inductive Leads : TokenScan → TokenScan → Prop
  | refl (s : TokenScan) : Leads s s
  | step {s next settled t : TokenScan} (htoken : s.token.bind expireKeys = some next)
      (hunfinished : next.finished = false)
      (hshort : next.cursor.rest.length < s.cursor.rest.length)
      (hsettle : next.settle = some settled) (h : Leads settled t) : Leads s t

theorem Leads.trans {s t u : TokenScan} (h : Leads s t) (h' : Leads t u) : Leads s u := by
  induction h with
  | refl => exact h'
  | step htoken hunfinished hshort hsettle _ ih =>
    exact .step htoken hunfinished hshort hsettle (ih h')

/-- There is a step for each character of the text, and one for its end. -/
theorem run_of_leads {settled last s done : TokenScan} (h : Leads settled last)
    (hlast : last.token.bind expireKeys = some done) (hdone : done.finished)
    (hsettle : s.settle = some settled) (hunfinished : s.finished = false) (fuel : Nat)
    (hfuel : s.cursor.rest.length + 2 ≤ fuel) : run fuel s = done.tokens.reverse := by
  induction h generalizing s fuel with
  | refl last =>
    obtain ⟨fuel, rfl⟩ : ∃ k, fuel = k + 1 + 1 := ⟨fuel - 2, by omega⟩
    have hstep : s.step = some done := by rw [step_eq, hsettle, Option.bind_some, hlast]
    rw [run, hunfinished, hstep]
    simp [run, hdone]
  | @step settled next settled' last htoken hnext hshort hsettle' _ ih =>
    obtain ⟨fuel, rfl⟩ : ∃ k, fuel = k + 1 := ⟨fuel - 1, by omega⟩
    have hstep : s.step = some next := by rw [step_eq, hsettle, Option.bind_some, htoken]
    have hle := length_settle_le s settled hsettle
    rw [run, hunfinished, hstep]
    simpa using ih hlast hsettle' hnext fuel (by omega)

/-- A scan outside of flow collections, with its tokens in their order. -/
def blockScan (cursor : Cursor) (allowed : Bool) (key : Option PendingKey) (indents : List Int)
    (tokens : List Token) : TokenScan :=
  { cursor, indents, keyAllowed := allowed, keys := [key], tokens := tokens.reverse,
    count := tokens.length, finished := false }

/-- A scan goes on at a token that starts its line, where no key is open and the blocks that end
before it are closed. -/
def LeadsTo (s : TokenScan) (body : List Char) (column : Nat) (indents : List Int)
    (tokens : List Token) : Prop :=
  ∃ index line, Leads s
    ((blockScan ⟨body, index, line, column⟩ true none indents tokens).closeBlocks column)

/-- The same from a scan that stands behind a token. -/
def ReachesTo (s : TokenScan) (body : List Char) (column : Nat) (indents : List Int)
    (tokens : List Token) : Prop :=
  ∃ settled, s.settle = some settled ∧ LeadsTo settled body column indents tokens

theorem Leads.leadsTo {s t : TokenScan} {body : List Char} {column : Nat} {indents : List Int}
    {tokens : List Token} (h : Leads s t) (h' : LeadsTo t body column indents tokens) :
    LeadsTo s body column indents tokens := by
  obtain ⟨index, line, hleads⟩ := h'
  exact ⟨index, line, h.trans hleads⟩

theorem leadsTo_of_token {s next : TokenScan} {body : List Char} {column : Nat}
    {indents : List Int} {tokens : List Token} (htoken : s.token.bind expireKeys = some next)
    (hunfinished : next.finished = false)
    (hshort : next.cursor.rest.length < s.cursor.rest.length)
    (h : ReachesTo next body column indents tokens) : LeadsTo s body column indents tokens := by
  obtain ⟨settled, hsettle, index, line, hleads⟩ := h
  exact ⟨index, line, .step htoken hunfinished hshort hsettle hleads⟩

section BlockScan

variable (cursor : Cursor) (allowed : Bool) (key : Option PendingKey) (indents : List Int)
  (tokens : List Token)

@[simp] theorem cursor_blockScan :
    (blockScan cursor allowed key indents tokens).cursor = cursor := rfl

@[simp] theorem finished_blockScan :
    (blockScan cursor allowed key indents tokens).finished = false := rfl

@[simp] theorem inFlow_blockScan :
    (blockScan cursor allowed key indents tokens).inFlow = false := rfl

@[simp] theorem keyAllowed_blockScan :
    (blockScan cursor allowed key indents tokens).keyAllowed = allowed := rfl

@[simp] theorem count_blockScan :
    (blockScan cursor allowed key indents tokens).count = tokens.length := rfl

@[simp] theorem currentKey_blockScan :
    (blockScan cursor allowed key indents tokens).currentKey = key := rfl

@[simp] theorem indent_blockScan :
    (blockScan cursor allowed key indents tokens).indent = indents.headD (-1) := rfl

@[simp] theorem push_blockScan (t : Token) :
    (blockScan cursor allowed key indents tokens).push t =
      blockScan cursor allowed key indents (tokens ++ [t]) := by
  simp [blockScan, push]

@[simp] theorem moveTo_blockScan (rest : List Char) :
    (blockScan cursor allowed key indents tokens).moveTo rest =
      blockScan (cursor.moveTo rest) allowed key indents tokens := rfl

@[simp] theorem skip_blockScan (n : Nat) :
    (blockScan cursor allowed key indents tokens).skip n =
      blockScan (cursor.advance n) allowed key indents tokens := rfl

@[simp] theorem setKey_blockScan (other : Option PendingKey) :
    (blockScan cursor allowed key indents tokens).setKey other =
      blockScan cursor allowed other indents tokens := rfl

theorem insertBehind_length (t : Token) (us ts : List Token) :
    insertBehind us.length t (us ++ ts) = us ++ t :: ts := by
  induction us with
  | nil => cases ts <;> rfl
  | cons u us ih => simp [insertBehind, ih]

@[simp] theorem insert_blockScan (later : List Token) (t : Token) :
    (blockScan cursor allowed key indents (tokens ++ later)).insert tokens.length t =
      blockScan cursor allowed key indents (tokens ++ t :: later) := by
  have hinsert := insertBehind_length t later.reverse tokens.reverse
  rw [List.length_reverse] at hinsert
  simp [blockScan, insert, hinsert, Nat.add_assoc]

theorem expireKeys_blockScan :
    (blockScan cursor allowed key indents tokens).expireKeys =
      (expireKey cursor key).map fun key => blockScan cursor allowed key indents tokens := by
  simp only [expireKeys, blockScan, List.mapM_cons, List.mapM_nil]
  cases expireKey cursor key <;> rfl

theorem closeBlocks_of_le (column : Int) (h : indents.headD (-1) ≤ column) :
    (blockScan cursor allowed key indents tokens).closeBlocks column =
      blockScan cursor allowed key indents tokens := by
  have hnone : indents.takeWhile (fun i => column < i) = [] := by
    cases indents with
    | nil => rfl
    | cons i indents =>
      have hle : i ≤ column := h
      simp [Int.not_lt.mpr hle]
  simp only [closeBlocks, inFlow_blockScan, Bool.false_eq_true, if_false]
  simp [blockScan, hnone]

/-- The innermost block ends before a token to the left of it. -/
theorem closeBlocks_cons (column inner : Int) (h : column < inner) :
    (blockScan cursor allowed key (inner :: indents) tokens).closeBlocks column =
      (blockScan cursor allowed key indents (tokens ++ [.blockEnd])).closeBlocks column := by
  simp only [closeBlocks, inFlow_blockScan, Bool.false_eq_true, if_false]
  simp only [blockScan, List.takeWhile_cons, h, decide_true, if_true, List.length_cons,
    List.drop_succ_cons, List.replicate_succ', List.reverse_append, List.length_append]
  congr 1
  · simp
  · simp only [List.length_nil]
    omega

theorem blanksBefore_pad (tabs broken inFlow : Bool) (n k : Nat) (body : List Char)
    (h : ∀ c ∈ body.head?, StartsToken c) :
    blanksBefore tabs false broken inFlow n (pad k ++ body) = (n + k, broken) := by
  induction k generalizing n with
  | zero =>
    cases body with
    | nil => rfl
    | cons c rest =>
      obtain ⟨-, hblank, hbreak, hcomment⟩ := h c rfl
      simp only [isBlank, Bool.or_eq_false_iff, decide_eq_false_iff_not] at hblank
      change blanksBefore tabs false broken inFlow n (c :: rest) = _
      rw [blanksBefore]
      simp [hbreak, hblank, hcomment]
  | succ k ih =>
    have hbreak : isBreak ' ' = false := by decide
    rw [pad_succ, List.cons_append, blanksBefore]
    simp [hbreak, ih, Nat.add_assoc, Nat.add_comm 1 k]

theorem head?_ne_mark (k : Nat) (body : List Char) (h : ∀ c ∈ body.head?, StartsToken c) :
    (pad k ++ body).head? ≠ some '\ufeff' := by
  cases k with
  | zero =>
    intro hmark
    exact absurd (h _ hmark).printable (by decide)
  | succ k => simp [pad_succ]

theorem toNextToken_blockScan (n : Nat) (broken : Bool)
    (hmark : cursor.rest.head? ≠ some '\ufeff')
    (hblanks : blanksBefore (!allowed) false false false 0 cursor.rest = (n, broken)) :
    (blockScan cursor allowed key indents tokens).toNextToken =
      blockScan (cursor.advance n) (allowed || broken) key indents tokens := by
  simp only [toNextToken, cursor_blockScan, hmark, and_false, if_false, inFlow_blockScan,
    Bool.false_or, keyAllowed_blockScan, hblanks]
  simp [skip, blockScan]

/-- Blanks in front of the next token are passed over. -/
theorem settle_pad (k index line column : Nat) (body : List Char)
    (hbody : ∀ c ∈ body.head?, StartsToken c)
    (hkey : expireKey ⟨body, index + k, line, column + k⟩ key = some key) :
    (blockScan ⟨pad k ++ body, index, line, column⟩ allowed key indents tokens).settle =
      some ((blockScan ⟨body, index + k, line, column + k⟩ allowed key indents tokens).closeBlocks
        (column + k : Nat)) := by
  have hmove := Cursor.advance_within (pad k) body index line column (Cursor.isBreak_pad k)
  rw [Cursor.length_pad] at hmove
  have hblanks := blanksBefore_pad (!allowed) false false 0 k body hbody
  rw [Nat.zero_add] at hblanks
  rw [settle, toNextToken_blockScan _ _ _ _ _ _ _ (head?_ne_mark k body hbody) hblanks, hmove,
    expireKeys_blockScan, hkey]
  simp

theorem settle_start (index line column : Nat) (body : List Char)
    (hbody : ∀ c ∈ body.head?, StartsToken c)
    (hkey : expireKey ⟨body, index, line, column⟩ key = some key) :
    (blockScan ⟨body, index, line, column⟩ allowed key indents tokens).settle =
      some
        ((blockScan ⟨body, index, line, column⟩ allowed key indents tokens).closeBlocks column) :=
  settle_pad allowed key indents tokens 0 index line column body hbody hkey

/-- A break ends the line of a key that need not be one, and a new one may start behind it. -/
theorem settle_break (k index line column : Nat) (body : List Char)
    (hbody : ∀ c ∈ body.head?, StartsToken c)
    (hkey : ∀ pending ∈ key, pending.required = false ∧ pending.line ≤ line) :
    (blockScan ⟨'\n' :: (pad k ++ body), index, line, column⟩ allowed key indents tokens).settle =
      some ((blockScan ⟨body, index + 1 + k, line + 1, k⟩ true none indents tokens).closeBlocks
        k) := by
  have hmove := Cursor.advance_within (pad k) body (index + 1) (line + 1) 0 (Cursor.isBreak_pad k)
  rw [Cursor.length_pad, Nat.zero_add] at hmove
  have hline : Cursor.advance (1 + k) ⟨'\n' :: (pad k ++ body), index, line, column⟩ =
      ⟨body, index + 1 + k, line + 1, k⟩ := by
    rw [Nat.add_comm 1 k, Cursor.advance, ← hmove]
    rfl
  have hblanks : blanksBefore (!allowed) false false false 0 ('\n' :: (pad k ++ body)) =
      (1 + k, true) := by
    rw [blanksBefore, if_pos (by decide), blanksBefore_pad _ _ _ _ _ _ hbody]
  have hexpire : expireKey ⟨body, index + 1 + k, line + 1, k⟩ key = some none := by
    cases key with
    | none => rfl
    | some pending =>
      obtain ⟨hrequired, hle⟩ := hkey pending rfl
      simp [expireKey, hrequired, show pending.line < line + 1 by omega]
  rw [settle, toNextToken_blockScan _ _ _ _ _ _ _ (by simp) hblanks, hline, expireKeys_blockScan,
    hexpire]
  simp

theorem closeBlocks_self (column : Nat) (outer : List Int) :
    (blockScan cursor allowed key ((column : Int) :: outer) tokens).closeBlocks column =
      blockScan cursor allowed key ((column : Int) :: outer) tokens :=
  closeBlocks_of_le cursor allowed key _ tokens column (Int.le_refl _)

/-- A token without an open key leads to where the scan behind it does. -/
theorem leadsTo_of_blockToken {s : TokenScan} {cursor : Cursor} {allowed : Bool}
    {indents outer : List Int} {tokens after : List Token} {body : List Char} {column : Nat}
    (htoken : s.token = some (blockScan cursor allowed none indents tokens))
    (hshort : cursor.rest.length < s.cursor.rest.length)
    (h : ReachesTo (blockScan cursor allowed none indents tokens) body column outer after) :
    LeadsTo s body column outer after :=
  leadsTo_of_token (by rw [htoken, Option.bind_some, expireKeys_blockScan]; rfl) rfl hshort h

/-- At its own column a block stays open, so the scan goes on from there. -/
theorem LeadsTo.trans {s : TokenScan} {between body : List Char} {middle column : Nat}
    {indents outer : List Int} {before after : List Token}
    (h : LeadsTo s between middle indents before) (hopen : indents.headD (-1) ≤ middle)
    (h' : ∀ index line, LeadsTo (blockScan ⟨between, index, line, middle⟩ true none indents before)
      body column outer after) : LeadsTo s body column outer after := by
  obtain ⟨index, line, hleads⟩ := h
  rw [closeBlocks_of_le _ _ _ _ _ _ hopen] at hleads
  exact hleads.leadsTo (h' index line)

theorem ReachesTo.trans {s : TokenScan} {between body : List Char} {middle column : Nat}
    {indents outer : List Int} {before after : List Token}
    (h : ReachesTo s between middle indents before) (hopen : indents.headD (-1) ≤ middle)
    (h' : ∀ index line, LeadsTo (blockScan ⟨between, index, line, middle⟩ true none indents before)
      body column outer after) : ReachesTo s body column outer after := by
  obtain ⟨settled, hsettle, hleads⟩ := h
  exact ⟨settled, hsettle, hleads.trans hopen h'⟩

/-- A line to the left of the innermost block ends it. -/
theorem LeadsTo.close {s : TokenScan} {body : List Char} {column : Nat} {inner : Int}
    {indents : List Int} {tokens : List Token} (h : LeadsTo s body column (inner :: indents) tokens)
    (hinner : column < inner) : LeadsTo s body column indents (tokens ++ [.blockEnd]) := by
  obtain ⟨index, line, hleads⟩ := h
  rw [closeBlocks_cons _ _ _ _ _ _ _ hinner] at hleads
  exact ⟨index, line, hleads⟩

end BlockScan

end TokenScan

end BenchCharts.Yaml
