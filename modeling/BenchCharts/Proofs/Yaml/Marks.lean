import Mathlib.Data.List.Basic
import BenchCharts.Proofs.Yaml.Texts

/-!
Marks of block collections. The mark of an entry opens its collection where none is open at the
column, and the colon behind a name puts the tokens of a key in front of the name.
-/
namespace BenchCharts.Yaml

namespace TokenScan

/-- Columns of the open blocks once an entry at a column has started. -/
def openedAt (indents : List Int) (column : Nat) : List Int :=
  if indents.headD (-1) < column then (column : Int) :: indents else indents

/-- The token in front of an entry that starts a block. -/
def openingAt (indents : List Int) (column : Nat) (t : Token) : List Token :=
  if indents.headD (-1) < column then [t] else []

theorem openedAt_of_lt (indents : List Int) (column : Nat) (h : indents.headD (-1) < column) :
    openedAt indents column = (column : Int) :: indents := if_pos h

theorem openingAt_of_lt (indents : List Int) (column : Nat) (t : Token)
    (h : indents.headD (-1) < column) : openingAt indents column t = [t] := if_pos h

@[simp] theorem openedAt_cons (indents : List Int) (column : Nat) :
    openedAt ((column : Int) :: indents) column = (column : Int) :: indents := by
  simp [openedAt]

@[simp] theorem openingAt_cons (indents : List Int) (column : Nat) (t : Token) :
    openingAt ((column : Int) :: indents) column t = [] := by
  simp [openingAt]

theorem exists_openedAt (indents : List Int) (column : Nat) (h : indents.headD (-1) ≤ column) :
    ∃ outer, openedAt indents column = (column : Int) :: outer := by
  by_cases hlt : indents.headD (-1) < column
  · exact ⟨indents, openedAt_of_lt indents column hlt⟩
  · have hhead : indents.headD (-1) = column := by omega
    rw [openedAt, if_neg hlt]
    cases indents with
    | nil => exact absurd (show (-1 : Int) = column from hhead) (by omega)
    | cons i outer => exact ⟨outer, by rw [show i = column from hhead]⟩

variable (allowed : Bool) (key : Option PendingKey) (indents : List Int) (tokens : List Token)
  (index line column : Nat) (rest : List Char)

theorem openBlock_blockScan (cursor : Cursor) (later : List Token) (t : Token) :
    (blockScan cursor allowed key indents (tokens ++ later)).openBlock column tokens.length t =
      blockScan cursor allowed key (openedAt indents column)
        (tokens ++ openingAt indents column t ++ later) := by
  by_cases h : indents.headD (-1) < column
  · rw [openedAt_of_lt _ _ h, openingAt_of_lt _ _ _ h]
    simp only [openBlock, inFlow_blockScan, indent_blockScan, h, Bool.not_false, decide_true,
      Bool.and_self, if_true, insert_blockScan]
    simp [blockScan]
  · rw [openedAt, openingAt, if_neg h, if_neg h]
    simp only [openBlock, inFlow_blockScan, indent_blockScan, h, decide_false, Bool.and_false,
      Bool.false_eq_true, if_false, List.append_nil]

theorem advance_one (c : Char) (hc : isBreak c = false) :
    Cursor.advance 1 ⟨c :: rest, index, line, column⟩ = ⟨rest, index + 1, line, column + 1⟩ := by
  simp [Cursor.advance, hc]

theorem not_atDocumentMark_hyphen (h : atWordEnd rest) : atDocumentMark ('-' :: rest) = false := by
  cases rest with
  | nil => rfl
  | cons c rest =>
    have hc : c ≠ '-' := by
      rintro rfl
      simp [atWordEnd, isBlank, isBreak, isSeparator] at h
    simp [atDocumentMark, hc]

/-- The mark of an item. -/
theorem token_entry (h : atWordEnd rest) :
    (blockScan ⟨'-' :: rest, index, line, column⟩ true none indents tokens).token =
      some (blockScan ⟨rest, index + 1, line, column + 1⟩ true none (openedAt indents column)
        (tokens ++ openingAt indents column .sequenceStart ++ [.blockEntry])) := by
  have hentry : (blockScan ⟨'-' :: rest, index, line, column⟩ true none indents tokens).token =
      (blockScan ⟨'-' :: rest, index, line, column⟩ true none indents tokens).blockEntry := by
    simp [token, not_atDocumentMark_hyphen rest h, h]
  have hopen := openBlock_blockScan true none indents tokens column
    ⟨'-' :: rest, index, line, column⟩ [] .sequenceStart
  rw [List.append_nil, List.append_nil] at hopen
  rw [hentry]
  simp only [blockEntry, inFlow_blockScan, keyAllowed_blockScan, Bool.not_true, Bool.and_false,
    Bool.false_eq_true, if_false, cursor_blockScan, count_blockScan, hopen, removeKey_blockScan,
    Option.bind_eq_bind, Option.bind_some, skip_blockScan, push_blockScan,
    advance_one _ _ _ _ '-' (by decide)]
  rfl

/-- The mark of a name that has lines of its own. -/
theorem token_keyMark (h : atWordEnd rest) :
    (blockScan ⟨'?' :: rest, index, line, column⟩ true none indents tokens).token =
      some (blockScan ⟨rest, index + 1, line, column + 1⟩ true none (openedAt indents column)
        (tokens ++ openingAt indents column .mappingStart ++ [.key])) := by
  have hkey : (blockScan ⟨'?' :: rest, index, line, column⟩ true none indents tokens).token =
      (blockScan ⟨'?' :: rest, index, line, column⟩ true none indents tokens).keyMark := by
    simp [token, atDocumentMark, h]
  have hopen := openBlock_blockScan true none indents tokens column
    ⟨'?' :: rest, index, line, column⟩ [] .mappingStart
  rw [List.append_nil, List.append_nil] at hopen
  rw [hkey]
  simp only [keyMark, inFlow_blockScan, keyAllowed_blockScan, Bool.not_true, Bool.and_false,
    Bool.false_eq_true, if_false, cursor_blockScan, count_blockScan, hopen, removeKey_blockScan,
    Option.bind_eq_bind, Option.bind_some, skip_blockScan, push_blockScan,
    advance_one _ _ _ _ '?' (by decide)]
  rfl

/-- The colon in a line of its own. -/
theorem token_valueMark (h : atWordEnd rest) :
    (blockScan ⟨':' :: rest, index, line, column⟩ true none indents tokens).token =
      some (blockScan ⟨rest, index + 1, line, column + 1⟩ true none (openedAt indents column)
        (tokens ++ openingAt indents column .mappingStart ++ [.value])) := by
  have hvalue : (blockScan ⟨':' :: rest, index, line, column⟩ true none indents tokens).token =
      (blockScan ⟨':' :: rest, index, line, column⟩ true none indents tokens).valueMark := by
    simp [token, atDocumentMark, h]
  have hopen := openBlock_blockScan true none indents tokens column
    ⟨':' :: rest, index, line, column⟩ [] .mappingStart
  rw [List.append_nil, List.append_nil] at hopen
  rw [hvalue]
  simp only [valueMark, currentKey_blockScan, inFlow_blockScan, keyAllowed_blockScan, Bool.not_true,
    Bool.and_false, Bool.false_eq_true, if_false, cursor_blockScan, count_blockScan, hopen,
    skip_blockScan, push_blockScan, advance_one _ _ _ _ ':' (by decide)]
  rfl

/-- The colon behind a name that is still open. -/
theorem token_colon (pending : PendingKey) (name : Token) (h : atWordEnd rest)
    (hnumber : pending.number = tokens.length) :
    (blockScan ⟨':' :: rest, index, line, column⟩ false (some pending) indents
        (tokens ++ [name])).token =
      some (blockScan ⟨rest, index + 1, line, column + 1⟩ false none
        (openedAt indents pending.column)
        (tokens ++ openingAt indents pending.column .mappingStart ++ [.key, name, .value])) := by
  have hvalue : (blockScan ⟨':' :: rest, index, line, column⟩ false (some pending) indents
      (tokens ++ [name])).token =
      (blockScan ⟨':' :: rest, index, line, column⟩ false (some pending) indents
        (tokens ++ [name])).valueMark := by
    simp [token, atDocumentMark, h]
  rw [hvalue]
  simp only [valueMark, currentKey_blockScan, hnumber, insert_blockScan, openBlock_blockScan,
    setKey_blockScan, skip_blockScan, push_blockScan, advance_one _ _ _ _ ':' (by decide),
    List.append_assoc, List.cons_append, List.nil_append]
  rfl

/-- The brackets of an empty collection with their tokens. -/
inductive Brackets : Char → Char → Token → Token → Prop
  | list : Brackets '[' ']' .flowSequenceStart .flowSequenceEnd
  | record : Brackets '\x7b' '\x7d' .flowMappingStart .flowMappingEnd

/-- A scan inside a collection in brackets that starts no entry yet. -/
def bracketScan (cursor : Cursor) : TokenScan :=
  { blockScan cursor true none indents tokens with keys := [none, key] }

theorem expireKey_savedKey (cursor next : Cursor) (hline : next.line = cursor.line)
    (hindex : next.index ≤ cursor.index + keyLimit) :
    expireKey next (savedKey cursor allowed indents tokens) =
      some (savedKey cursor allowed indents tokens) := by
  unfold savedKey
  split
  · simp [expireKey, hline, Nat.not_lt.mpr hindex]
  · rfl

section

variable {opening closing : Char} {first last : Token}
  (hbrackets : Brackets opening closing first last)
include hbrackets

theorem token_opening :
    (blockScan ⟨opening :: rest, index, line, column⟩ allowed none indents tokens).token =
      some (bracketScan (savedKey ⟨opening :: rest, index, line, column⟩ allowed indents tokens)
        indents (tokens ++ [first]) ⟨rest, index + 1, line, column + 1⟩) := by
  have hopen :
      (blockScan ⟨opening :: rest, index, line, column⟩ allowed none indents tokens).token =
      (blockScan ⟨opening :: rest, index, line, column⟩ allowed none indents tokens).openFlow
        first := by
    cases hbrackets <;> simp [token, atDocumentMark]
  have hbreak : isBreak opening = false := by cases hbrackets <;> decide
  rw [hopen]
  simp only [openFlow, saveKey_blockScan, Option.bind_eq_bind, Option.bind_some, skip_blockScan,
    push_blockScan, advance_one _ _ _ _ opening hbreak]
  rfl

theorem token_closing :
    (bracketScan key indents tokens ⟨closing :: rest, index, line, column⟩).token =
      some
        (blockScan ⟨rest, index + 1, line, column + 1⟩ false key indents (tokens ++ [last])) := by
  have hbreak : isBreak closing = false := by cases hbrackets <;> decide
  have hclose : (bracketScan key indents tokens ⟨closing :: rest, index, line, column⟩).token =
      (bracketScan key indents tokens ⟨closing :: rest, index, line, column⟩).closeFlow last := by
    cases hbrackets <;> simp [token, atDocumentMark, bracketScan]
  have hmove := advance_one index line column rest closing hbreak
  rw [hclose, closeFlow]
  simp [bracketScan, blockScan, removeKey, setKey, currentKey, inFlow, flowDepth, skip, push, hmove]

end

theorem expireKeys_bracketScan (cursor : Cursor) (hkey : expireKey cursor key = some key) :
    (bracketScan key indents tokens cursor).expireKeys =
      some (bracketScan key indents tokens cursor) := by
  have hnone : expireKey cursor none = some none := rfl
  simp [expireKeys, bracketScan, blockScan, hnone, hkey]

/-- Nothing stands between the brackets. -/
theorem settle_bracketScan (c : Char) (hstart : StartsToken c)
    (hkey : expireKey ⟨c :: rest, index, line, column⟩ key = some key) :
    (bracketScan key indents tokens ⟨c :: rest, index, line, column⟩).settle =
      some (bracketScan key indents tokens ⟨c :: rest, index, line, column⟩) := by
  have hmark : c ≠ '\ufeff' := ne_of_isPrintable c '\ufeff' hstart.printable (by decide)
  have hblanks := blanksBefore_pad true false true 0 0 (c :: rest)
    fun d hd => (Option.mem_some.mp hd) ▸ hstart
  have hnext : (bracketScan key indents tokens ⟨c :: rest, index, line, column⟩).toNextToken =
      bracketScan key indents tokens ⟨c :: rest, index, line, column⟩ := by
    change blanksBefore true false false true 0 (c :: rest) = (0, false) at hblanks
    simp [toNextToken, bracketScan, blockScan, hmark, inFlow, flowDepth, hblanks, skip,
      Cursor.advance]
  rw [settle, hnext, expireKeys_bracketScan _ _ _ _ hkey]
  rfl

/-- The brackets of an empty collection end their line. -/
theorem leads_brackets {opening closing : Char} {first last : Token}
    (hbrackets : Brackets opening closing first last) (k : Nat) (body : List Char)
    (hbody : Resumes (indents.headD (-1)) k body) (hfits : Fits allowed indents column) :
    LeadsTo (blockScan ⟨opening :: closing :: '\n' :: (pad k ++ body), index, line, column⟩ allowed
      none indents tokens) body k indents (tokens ++ [first, last]) := by
  have hclosing : StartsToken closing := by
    cases hbrackets <;> exact ⟨by decide, by decide, by decide, by decide⟩
  have hsaved (next : Cursor) := expireKey_savedKey allowed indents tokens
    ⟨opening :: closing :: '\n' :: (pad k ++ body), index, line, column⟩ next
  have hopen := token_opening allowed indents tokens index line column
    (closing :: '\n' :: (pad k ++ body)) hbrackets
  have hclose := token_closing
    (savedKey ⟨opening :: closing :: '\n' :: (pad k ++ body), index, line, column⟩ allowed indents
      tokens) indents (tokens ++ [first]) (index + 1) line (column + 1) ('\n' :: (pad k ++ body))
    hbrackets
  have hkey := hsaved ⟨closing :: '\n' :: (pad k ++ body), index + 1, line, column + 1⟩ rfl
    (by simp [keyLimit])
  have hlast : LeadsTo (bracketScan _ indents (tokens ++ [first]) _) body k indents
      (tokens ++ [first] ++ [last]) :=
    leads_of_lineEnd false _ indents (tokens ++ [first] ++ [last]) k (index + 1 + 1) line
      (column + 1 + 1) body hbody.start
      (fun pending hpending => ⟨savedKey_required _ _ _ _ hfits.key pending hpending,
        Nat.le_of_eq (savedKey_line _ _ _ _ pending hpending)⟩) hclose
      (by simp [bracketScan])
  rw [List.append_assoc] at hlast
  refine leadsTo_of_token ?_ rfl ?_ ⟨_, settle_bracketScan _ indents (tokens ++ [first]) (index + 1)
    line (column + 1) ('\n' :: (pad k ++ body)) closing hclosing hkey, hlast⟩
  · rw [hopen, Option.bind_some, expireKeys_bracketScan _ _ _ _ hkey]
  · simp [bracketScan]

end TokenScan

end BenchCharts.Yaml
