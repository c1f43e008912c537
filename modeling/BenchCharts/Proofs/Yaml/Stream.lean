import Mathlib.Data.List.Basic
import BenchCharts.Proofs.Yaml.Tokens

/-!
Written values are scanned to their end. Nothing but printable characters is written, so no
character is refused and no line break is replaced, and the tokens are those of the value between
those that begin and end its blocks.
-/
namespace BenchCharts.Yaml

open Format (Value)
open TokenScan

def Printable (cs : List Char) : Prop := ∀ c ∈ cs, isPrintable c

instance (cs : List Char) : Decidable (Printable cs) :=
  inferInstanceAs (Decidable (∀ c ∈ cs, isPrintable c))

namespace Printable

theorem append {cs ds : List Char} (h : Printable cs) (h' : Printable ds) : Printable (cs ++ ds) :=
  fun c hc => (List.mem_append.mp hc).elim (h c) (h' c)

theorem cons {c : Char} {cs : List Char} (hc : isPrintable c) (h : Printable cs) :
    Printable (c :: cs) := fun d hd => (List.mem_cons.mp hd).elim (fun heq => heq ▸ hc) (h d)

theorem nil : Printable [] := fun _ hc => absurd hc List.not_mem_nil

theorem pad (k : Nat) : Printable (pad k) := fun c hc => by
  rw [List.eq_of_mem_replicate hc]
  decide

theorem endLine {text : List Char} (h : Printable text) : Printable (endLine text) := by
  unfold Yaml.endLine
  split
  · exact h
  · exact h.append (.cons (by decide) .nil)

theorem scalar (place : Place) {text : List Char} (h : Printable text) :
    Printable (place.scalar text) := by
  unfold Place.scalar
  split
  · exact h.endLine
  · exact .cons (by decide) h.endLine

theorem opening (place : Place) (indent : Nat) : Printable (place.opening indent) := by
  cases place with
  | top => exact .nil
  | name => exact .cons (by decide) (.pad indent)
  | mark => exact .cons (by decide) .nil

theorem nameText (indent : Nat) (name : String) : Printable (nameText indent name) := by
  unfold Yaml.nameText
  split
  · exact (written_writeText true (indent + 2) name).isPrintable_of_mem
  · have hname : Printable (writeText false (indent + 2) name) :=
      (written_writeText false (indent + 2) name).isPrintable_of_mem
    exact .append (.cons (by decide) (.cons (by decide) hname.endLine)) (.pad indent)

theorem uniformBreaks_eq {cs : List Char} (h : Printable cs) : uniformBreaks cs = cs := by
  induction cs with
  | nil => rfl
  | cons c cs ih =>
    have hc := h c (by simp)
    rw [uniformBreaks_cons_of_ne c cs (ne_of_isPrintable c '\r' hc (by decide))
      (ne_of_isPrintable c '\x85' hc (by decide)), ih fun d hd => h d (List.mem_cons_of_mem _ hd)]

end Printable

mutual

/-- Nothing but printable characters is written. -/
theorem printable_writeAt (place : Place) (indent : Nat) (v : Value) :
    Printable (writeAt place indent v) := by
  match v with
  | .null =>
    rw [writeAt]
    exact .scalar _ (by decide)
  | .natural n =>
    rw [writeAt]
    exact .scalar _ fun c hc => ((plainText_natural n).chars c hc).1
  | .real x =>
    rw [writeAt]
    exact .scalar _ fun c hc => ((plainText_real x).chars c hc).1
  | .text s =>
    rw [writeAt]
    exact .scalar _ (written_writeText false (indent + 2) s).isPrintable_of_mem
  | .list items =>
    rw [writeAt]
    split
    · exact .scalar _ (by decide)
    · exact (Printable.opening _ _).append (printable_writeItems _ items)
  | .record members =>
    rw [writeAt]
    split
    · exact .scalar _ (by decide)
    · exact (Printable.opening _ _).append (printable_writeMembers _ members)

theorem printable_writeItems (indent : Nat) (items : List Value) :
    Printable (writeItems indent true items) := by
  match items with
  | [] => exact .nil
  | item :: rest =>
    have hrest : Printable (writeItems indent false rest) := by
      by_cases hne : rest = []
      · subst hne
        exact .nil
      · rw [writeItems_of_ne_nil indent rest hne]
        exact (Printable.pad indent).append (printable_writeItems indent rest)
    rw [writeItems]
    exact .append (.append .nil (.cons (by decide) (printable_writeAt .mark indent item))) hrest

theorem printable_writeMembers (indent : Nat) (members : List (String × Value)) :
    Printable (writeMembers indent true members) := by
  match members with
  | [] => exact .nil
  | (name, value) :: rest =>
    have hrest : Printable (writeMembers indent false rest) := by
      by_cases hne : rest = []
      · subst hne
        exact .nil
      · rw [writeMembers_of_ne_nil indent rest hne]
        exact (Printable.pad indent).append (printable_writeMembers indent rest)
    rw [writeMembers_cons]
    exact (Printable.nameText indent name).append
      (.cons (by decide) ((printable_writeAt _ indent value).append hrest))

end

/-- At the end of a text the blocks that are still open end, and the stream with them. -/
theorem run_of_leadsTo (cs : List Char) (indents : List Int) (tokens : List Token)
    (hstart : ∀ c ∈ cs.head?, StartsToken c)
    (hindents : indents = [] ∨ indents = [0])
    (h : LeadsTo (blockScan ⟨cs, 0, 0, 0⟩ true none [] []) [] 0 indents tokens) :
    run (cs.length + 2) (start cs) =
      tokens ++ (indents.map fun _ => Token.blockEnd) ++ [.streamEnd] := by
  have hsettle : (start cs).settle = some (blockScan ⟨cs, 0, 0, 0⟩ true none [] []) := by
    have := settle_start true none [] [] 0 0 0 cs hstart rfl
    rwa [closeBlocks_of_le _ _ _ _ _ _ (by decide)] at this
  obtain ⟨index, line, hleads⟩ := h
  have hopen : indents.headD (-1) ≤ ((0 : Nat) : Int) := by
    rcases hindents with rfl | rfl <;> decide
  rw [closeBlocks_of_le _ _ _ _ _ _ hopen] at hleads
  have hclosed : (blockScan ⟨[], index, line, 0⟩ true none indents tokens).closeBlocks (-1) =
      blockScan ⟨[], index, line, 0⟩ true none []
        (tokens ++ indents.map fun _ => Token.blockEnd) := by
    rcases hindents with rfl | rfl
    · rw [closeBlocks_of_le _ _ _ _ _ _ (by decide)]
      simp
    · rw [closeBlocks_cons _ _ _ _ _ _ _ (by decide), closeBlocks_of_le _ _ _ _ _ _ (by decide)]
      simp
  have hend : (blockScan ⟨[], index, line, 0⟩ true none indents tokens).token =
      some { blockScan ⟨[], index, line, 0⟩ false none []
        (tokens ++ (indents.map fun _ => Token.blockEnd) ++ [.streamEnd]) with
          finished := true } := by
    simp only [token, cursor_blockScan, streamEnd, if_true, hclosed, removeKey_blockScan,
      Option.bind_eq_bind, Option.bind_some, push_blockScan]
    rfl
  have hrun := run_of_leads hleads (by rw [hend]; rfl) rfl hsettle rfl (cs.length + 2)
    (Nat.le_refl _)
  rw [hrun]
  simp [blockScan]

theorem tokens_of_leadsTo (v : Value) (indents : List Int) (found : List Token)
    (hstart : ∀ c ∈ (writeAt .top 0 v).head?, StartsToken c)
    (hindents : indents = [] ∨ indents = [0])
    (h : LeadsTo (blockScan ⟨writeAt .top 0 v, 0, 0, 0⟩ true none [] []) [] 0 indents found) :
    Yaml.tokens (write v) = found ++ (indents.map fun _ => Token.blockEnd) ++ [.streamEnd] := by
  have hprintable := printable_writeAt .top 0 v
  have hallowed : (write v).toList.all isAllowed := by
    rw [write, String.toList_ofList, List.all_eq_true]
    exact fun c hc => isAllowed_of_isPrintable c (hprintable c hc)
  rw [Yaml.tokens, if_pos hallowed, write, String.toList_ofList, hprintable.uniformBreaks_eq]
  exact run_of_leadsTo _ indents found hstart hindents h

theorem resumes_nil (indent : Int) (column : Nat) : Resumes indent column [] where
  start := by simp
  column_le := .inl rfl

theorem fits_nil : Fits true [] 0 where
  key _ := by decide
  indent := by decide

/-- A scalar that is all of a text. -/
theorem tokens_scalar {cs text : List Char} {style : ScalarStyle} (v : Value)
    (h : Written false 2 cs style text) (hv : writeAt .top 0 v = Place.scalar .top text) :
    Yaml.tokens (write v) = [.scalar style (String.ofList cs)] ++ [.streamEnd] := by
  have htext : writeAt .top 0 v = endLine text := hv
  refine (tokens_of_leadsTo v [] [.scalar style (String.ofList cs)] ?_ (.inl rfl) ?_).trans
    (by simp)
  · rw [htext, h.endLine_eq]
    exact h.head_starts _
  · have hleads := leads_written true [] [] 0 0 0 0 [] h (resumes_nil _ _) (by decide) fits_nil
    rw [htext]
    simpa [pad] using hleads

theorem tokens_brackets {opening closing : Char} {first last : Token} (v : Value)
    (h : Brackets opening closing first last)
    (hv : writeAt .top 0 v = Place.scalar .top [opening, closing]) :
    Yaml.tokens (write v) = [first, last] ++ [.streamEnd] := by
  have htext : writeAt .top 0 v = [opening, closing, '\n'] := by
    rw [hv]
    cases h <;> rfl
  have hopening : StartsToken opening := by
    cases h <;> exact ⟨by decide, by decide, by decide, by decide⟩
  refine (tokens_of_leadsTo v [] [first, last] ?_ (.inl rfl) ?_).trans (by simp)
  · rw [htext]
    exact starts_cons _ hopening
  · have hleads := leads_brackets true [] [] 0 0 0 h 0 [] (resumes_nil _ _) fits_nil
    rw [htext]
    simpa [pad] using hleads

theorem tokens_items (item : Value) (rest : List Value) :
    Yaml.tokens (write (.list (item :: rest))) =
      .sequenceStart :: itemTokens (item :: rest) ++ [.blockEnd] ++ [.streamEnd] := by
  have hwritten : writeAt .top 0 (.list (item :: rest)) = writeItems 0 true (item :: rest) := by
    simp [writeAt, Place.opening, Place.listIndent]
  have hitems := leadsTo_items (item :: rest) (by simp) 0 0 0 0 [] [] [] (by decide)
    (resumes_nil _ _) (Nat.le_refl 0)
  refine tokens_of_leadsTo _ [0] (.sequenceStart :: itemTokens (item :: rest)) ?_ (.inr rfl) ?_
  · rw [hwritten]
    simpa [writeItems] using startsToken_of_mark '-' (by simp)
  · rw [hwritten]
    simpa [pad, openedAt, openingAt] using hitems

theorem tokens_members (member : String × Value) (rest : List (String × Value)) :
    Yaml.tokens (write (.record (member :: rest))) =
      .mappingStart :: memberTokens (member :: rest) ++ [.blockEnd] ++ [.streamEnd] := by
  have hwritten : writeAt .top 0 (.record (member :: rest)) =
      writeMembers 0 true (member :: rest) := by
    simp [writeAt, Place.opening, Place.recordIndent]
  have hmembers := leadsTo_members (member :: rest) (by simp) 0 0 0 0 [] [] [] (by decide)
    (resumes_nil _ _) (Nat.le_refl 0)
  refine tokens_of_leadsTo _ [0] (.mappingStart :: memberTokens (member :: rest)) ?_ (.inr rfl) ?_
  · rw [hwritten, writeMembers_cons]
    exact head_nameText _ _ _
  · rw [hwritten]
    simpa [pad, openedAt, openingAt] using hmembers

/-- The tokens of a written text are those of its value. -/
theorem tokens_write (v : Value) : Yaml.tokens (write v) = valueTokens .top v ++ [.streamEnd] := by
  cases v with
  | null =>
    have hnull : Written false 2 "null".toList .plain "null".toList :=
      .plain (plainText_of_isPlain _ (by decide))
    simpa [valueTokens] using tokens_scalar .null hnull rfl
  | natural n =>
    have htokens := tokens_scalar (.natural n) (.plain (plainText_natural n)) (by rw [writeAt])
    simpa [valueTokens] using htokens
  | real x =>
    simpa [valueTokens] using tokens_scalar (.real x) (.plain (plainText_real x)) (by rw [writeAt])
  | text s =>
    have htokens := tokens_scalar (.text s) (written_writeText false 2 s) (by rw [writeAt])
    simpa [valueTokens] using htokens
  | list items =>
    cases items with
    | nil => simpa [valueTokens] using tokens_brackets (.list []) .list (by simp [writeAt])
    | cons item rest => simpa [valueTokens] using tokens_items item rest
  | record members =>
    cases members with
    | nil => simpa [valueTokens] using tokens_brackets (.record []) .record (by simp [writeAt])
    | cons member rest => simpa [valueTokens] using tokens_members member rest

end BenchCharts.Yaml
