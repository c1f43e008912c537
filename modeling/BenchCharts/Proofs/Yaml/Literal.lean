import Mathlib.Data.List.Basic
import BenchCharts.Proofs.Yaml.Characters

/-!
Literal blocks read back. The reader keeps the breaks at the end of what it has read apart from its
text, and the header that was written says which of them belong to it. Lines follow that start to
the left of the block.
-/
namespace BenchCharts.Yaml

/-- What a literal block has read of a text, at the start of a line or within one. Breaks at the
end are kept apart: the one that ended the last line, and those after it. -/
inductive LiteralScan : Bool → List Char → BlockScan → Prop
  | empty (more : List Char) (blankStart : Bool) (hmore : ∀ c ∈ more, isBreak c) :
      LiteralScan true more.reverse ⟨[], [], more, blankStart⟩
  | ended (last lineBreak : Char) (text more : List Char) (blankStart : Bool)
      (hlast : isBreak last = false) (hbreak : isBreak lineBreak) (hmore : ∀ c ∈ more, isBreak c) :
      LiteralScan true (more ++ lineBreak :: last :: text).reverse
        ⟨last :: text, [lineBreak], more, blankStart⟩
  | line (last : Char) (text : List Char) (blankStart : Bool) (hlast : isBreak last = false) :
      LiteralScan false (last :: text).reverse ⟨last :: text, [], [], blankStart⟩

def blockPlace (atStart : Bool) : BlockPlace := if atStart then .margin 0 else .line

theorem blockFrom_pad (indent column k : Nat) (s : BlockScan) (rest : List Char)
    (h : column + k ≤ indent) :
    blockFrom false indent s (.margin column) (pad k ++ rest) =
      blockFrom false indent s (.margin (column + k)) rest := by
  induction k generalizing column with
  | zero => rfl
  | succ k ih =>
    have hlt : column < indent := by omega
    rw [pad_succ, List.cons_append, blockFrom]
    simp only [hlt, decide_true, Bool.and_self, if_true]
    rw [ih (column + 1) (by omega), Nat.add_assoc, Nat.add_comm 1 k]

/-- A line starts with its indentation, whatever its first character is. -/
theorem blockFrom_line (indent : Nat) (s : BlockScan) (c : Char) (rest : List Char)
    (hbreak : isBreak c = false) :
    blockFrom false indent s (.margin 0) (pad indent ++ c :: rest) =
      blockFrom false indent (s.startLine false c) .line rest := by
  rw [blockFrom_pad indent 0 indent s _ (by omega), Nat.zero_add, blockFrom]
  simp [hbreak]

theorem LiteralScan.reverse_eq {done : List Char} {s : BlockScan} (h : LiteralScan true done s) :
    done = (s.more ++ s.lineBreak ++ s.text).reverse := by
  cases h <;> simp

theorem LiteralScan.startLine {done : List Char} {s : BlockScan} (h : LiteralScan true done s)
    (c : Char) (hbreak : isBreak c = false) :
    LiteralScan false (done ++ [c]) (s.startLine false c) := by
  have hline := LiteralScan.line c (s.more ++ s.lineBreak ++ s.text) (isBlank c) hbreak
  simpa [h.reverse_eq, BlockScan.startLine] using hline

theorem blockFrom_startedChar (indent : Nat) (atStart : Bool) (done : List Char)
    (s : BlockScan) (c : Char) (rest : List Char) (hs : LiteralScan atStart done s)
    (hprintable : isPrintable c) :
    ∃ s', blockFrom false indent s (blockPlace atStart)
        (startedChar indent (fun c => [c]) atStart c ++ rest) =
        blockFrom false indent s' (blockPlace (isAnyBreak c)) rest ∧
      LiteralScan (isAnyBreak c) (done ++ [c]) s' := by
  have htab : c ≠ '\t' := ne_of_isPrintable c '\t' hprintable (by decide)
  rw [startedChar, isAnyBreak_of_isPrintable c hprintable]
  cases hbreak : isBreak c with
  | true =>
    have hspace : c ≠ ' ' := by
      rintro rfl
      exact absurd hbreak (by decide)
    cases hs with
    | empty more blankStart hmore =>
      refine ⟨⟨[], [], c :: more, blankStart⟩, ?_, ?_⟩
      · simp [blockPlace, blockFrom, hbreak, hspace, htab]
      · simpa using LiteralScan.empty (c :: more) blankStart (by simpa [hbreak] using hmore)
    | ended last lineBreak text more blankStart hlast hbreak' hmore =>
      refine ⟨⟨last :: text, [lineBreak], c :: more, blankStart⟩, ?_, ?_⟩
      · simp [blockPlace, blockFrom, hbreak, hspace, htab]
      · simpa using LiteralScan.ended last lineBreak text (c :: more) blankStart hlast hbreak'
          (by simpa [hbreak] using hmore)
    | line last text blankStart hlast =>
      refine ⟨⟨last :: text, [c], [], blankStart⟩, ?_, ?_⟩
      · simp [blockPlace, blockFrom, hbreak]
      · simpa using LiteralScan.ended last c text [] blankStart hlast hbreak (by simp)
  | false =>
    cases atStart with
    | true =>
      refine ⟨s.startLine false c, ?_, hs.startLine c hbreak⟩
      simpa [blockPlace] using blockFrom_line indent s c rest hbreak
    | false =>
      cases hs with
      | line last text blankStart hlast =>
        refine ⟨⟨c :: last :: text, [], [], blankStart⟩, ?_, ?_⟩
        · simp [blockPlace, blockFrom, hbreak]
        · simpa using LiteralScan.line c (last :: text) blankStart hbreak

theorem blockFrom_indented (indent : Nat) (cs rest : List Char) (atStart : Bool) (done : List Char)
    (s : BlockScan) (hs : LiteralScan atStart done s) (hchars : ∀ c ∈ cs, isPrintable c) :
    ∃ s', blockFrom false indent s (blockPlace atStart)
        (indented indent (fun c => [c]) atStart cs ++ rest) =
        blockFrom false indent s' (blockPlace ((cs.getLast?.map isAnyBreak).getD atStart)) rest ∧
      LiteralScan ((cs.getLast?.map isAnyBreak).getD atStart) (done ++ cs) s' := by
  induction cs generalizing atStart done s with
  | nil => exact ⟨s, rfl, by simpa using hs⟩
  | cons c cs ih =>
    obtain ⟨s₁, hread₁, hs₁⟩ := blockFrom_startedChar indent atStart done s c
      (indented indent (fun c => [c]) (isAnyBreak c) cs ++ rest) hs (hchars c (by simp))
    obtain ⟨s₂, hread₂, hs₂⟩ := ih (isAnyBreak c) (done ++ [c]) s₁ hs₁
      fun d hd => hchars d (List.mem_cons_of_mem _ hd)
    have hlast : (((c :: cs).getLast?).map isAnyBreak).getD atStart =
        (cs.getLast?.map isAnyBreak).getD (isAnyBreak c) := by
      cases cs with
      | nil => rfl
      | cons d cs => simp [List.getLast?_cons]
    rw [hlast]
    refine ⟨s₂, ?_, by simpa using hs₂⟩
    rw [indented_cons, List.append_assoc, hread₁, hread₂]

/-- A line to the left of the indentation ends the block. -/
theorem blockFrom_resumes (parent : Int) (indent k : Nat) (s : BlockScan) (body : List Char)
    (h : Resumes parent k body) (hindent : parent.toNat < indent) (hk : k ≤ indent) :
    blockFrom false indent s (.margin 0) (pad k ++ body) = some (s, body) := by
  rw [blockFrom_pad indent 0 k s _ (by omega), Nat.zero_add]
  rcases h.cases with rfl | ⟨c, rest, rfl, hstart, hle⟩
  · rfl
  · have hspace : c ≠ ' ' ∧ c ≠ '\t' := by simpa [isBlank] using hstart.blank
    have hcolumn : k ≠ indent := by omega
    rw [blockFrom]
    simp [hspace, hstart.break_, hcolumn]

/-- What becomes of the breaks at the end of a text. -/
def chompingOf (cs : List Char) : Chomping :=
  match cs.reverse with
  | [] => .strip
  | [last] => if isAnyBreak last then .keep else .strip
  | last :: before :: _ =>
      if !isAnyBreak last then .strip else if isAnyBreak before then .keep else .clip

def chompingMark : Chomping → List Char
  | .strip => ['-']
  | .clip => []
  | .keep => ['+']

def needsHint (cs : List Char) : Bool := cs.head?.any fun c => c = ' ' || isAnyBreak c

theorem literalHeader_eq (cs : List Char) :
    literalHeader cs =
      '|' :: ((if needsHint cs then ['2'] else []) ++ chompingMark (chompingOf cs)) := by
  unfold literalHeader chompingOf needsHint
  dsimp only
  rw [List.cons_append]
  congr 2
  rcases cs.reverse with _ | ⟨last, _ | ⟨before, _⟩⟩
  · rfl
  · dsimp only
    split <;> rfl
  · dsimp only
    split
    · rfl
    · split <;> rfl

theorem blockHeader_written (hint : Bool) (chomping : Chomping) (rest : List Char) :
    blockHeader (((if hint then ['2'] else []) ++ chompingMark chomping) ++ '\n' :: rest) =
      some (⟨if hint then some 2 else none, chomping⟩, '\n' :: rest) := by
  cases hint <;> cases chomping <;> rfl

theorem finish_empty (more : List Char) (blankStart : Bool) (hne : more ≠ [])
    (hmore : ∀ c ∈ more, isBreak c) :
    BlockScan.finish (chompingOf more.reverse) ⟨[], [], more, blankStart⟩ = more.reverse := by
  have hkeep : chompingOf more.reverse = .keep := by
    rw [chompingOf, List.reverse_reverse]
    rcases more with _ | ⟨last, _ | ⟨before, more⟩⟩
    · exact absurd rfl hne
    · simp [isAnyBreak_of_isBreak last (hmore last (by simp))]
    · simp [isAnyBreak_of_isBreak last (hmore last (by simp)),
        isAnyBreak_of_isBreak before (hmore before (by simp))]
  simp [hkeep, BlockScan.finish]

theorem finish_ended (last lineBreak : Char) (text more : List Char) (blankStart : Bool)
    (hlast : isAnyBreak last = false) (hbreak : isBreak lineBreak) (hmore : ∀ c ∈ more, isBreak c) :
    BlockScan.finish (chompingOf (more ++ lineBreak :: last :: text).reverse)
      ⟨last :: text, [lineBreak], more, blankStart⟩ =
        (more ++ lineBreak :: last :: text).reverse := by
  have hend := isAnyBreak_of_isBreak lineBreak hbreak
  rw [chompingOf, List.reverse_reverse]
  rcases more with _ | ⟨m, _ | ⟨m', more⟩⟩
  · simp [hend, hlast, BlockScan.finish]
  · simp [isAnyBreak_of_isBreak m (hmore m (by simp)), hend, BlockScan.finish]
  · simp [isAnyBreak_of_isBreak m (hmore m (by simp)),
      isAnyBreak_of_isBreak m' (hmore m' (by simp)), BlockScan.finish]

theorem finish_line (last : Char) (text : List Char) (lineBreak : List Char) (blankStart : Bool)
    (hlast : isAnyBreak last = false) :
    BlockScan.finish (chompingOf (last :: text).reverse) ⟨last :: text, lineBreak, [], blankStart⟩ =
      (last :: text).reverse := by
  rw [chompingOf, List.reverse_reverse]
  cases text <;> simp [hlast, BlockScan.finish]

/-- A block is read up to its end, where a break is added if there is none. -/
theorem blockFrom_written (indent k : Nat) (parent : Int) (cs body : List Char) (hne : cs ≠ [])
    (hchars : ∀ c ∈ cs, isPrintable c) (h : Resumes parent k body)
    (hindent : parent.toNat < indent) (hk : k ≤ indent) :
    ∃ s, blockFrom false indent .start (.margin 0) (indented indent (fun c => [c]) true cs ++
        ((if endsInBreak cs then [] else ['\n']) ++ (pad k ++ body))) = some (s, body) ∧
      s.finish (chompingOf cs) = cs := by
  obtain ⟨s, hread, hs⟩ := blockFrom_indented indent cs
    ((if endsInBreak cs then [] else ['\n']) ++ (pad k ++ body)) true [] .start
    (.empty [] false (by simp)) hchars
  have hends : (cs.getLast?.map isAnyBreak).getD true = endsInBreak cs := by
    rw [endsInBreak, List.getLast?_eq_some_getLast hne]
    rfl
  have hanyBreak (c : Char) (hc : c ∈ cs) (hbreak : isBreak c = false) : isAnyBreak c = false :=
    (isAnyBreak_of_isPrintable c (hchars c hc)).trans hbreak
  rw [hends, List.nil_append] at hs
  rw [hends] at hread
  change blockFrom false indent .start (blockPlace true) _ = _ at hread
  cases hend : endsInBreak cs with
  | true =>
    rw [hend] at hs hread
    have hstop := blockFrom_resumes parent indent k s body h hindent hk
    refine ⟨s, by simpa [blockPlace] using hread.trans (by simpa [blockPlace] using hstop), ?_⟩
    cases hs with
    | empty more blankStart hmore => exact finish_empty more blankStart (by simpa using hne) hmore
    | ended last lineBreak text more blankStart hlast hbreak hmore =>
      exact finish_ended last lineBreak text more blankStart (hanyBreak last (by simp) hlast) hbreak
        hmore
  | false =>
    rw [hend] at hs hread
    cases hs with
    | line last text blankStart hlast =>
      have hstop := blockFrom_resumes parent indent k ⟨last :: text, ['\n'], [], blankStart⟩ body h
        hindent hk
      refine ⟨_, ?_, finish_line last text ['\n'] blankStart (hanyBreak last (by simp) hlast)⟩
      refine (by simpa [blockPlace] using hread : _ = _).trans ?_
      rw [blockFrom, if_pos (by decide)]
      exact hstop

/-- The first line of a block that needs no hint shows its indentation. -/
theorem deepestMargin_indented (indent : Nat) (cs rest : List Char) (hne : cs ≠ [])
    (hchars : ∀ c ∈ cs, isPrintable c) (hhint : needsHint cs = false) :
    deepestMargin 0 0 (indented indent (fun c => [c]) true cs ++ rest) = some indent := by
  have hpad (k column : Nat) (rest : List Char) :
      deepestMargin column 0 (pad k ++ rest) = deepestMargin (column + k) 0 rest := by
    induction k generalizing column with
    | zero => rfl
    | succ k ih =>
      rw [pad_succ, List.cons_append, deepestMargin, if_pos rfl, ih, Nat.add_assoc, Nat.add_comm 1]
  cases cs with
  | nil => exact absurd rfl hne
  | cons c cs =>
    have hprintable := hchars c (by simp)
    have htab := ne_of_isPrintable c '\t' hprintable (by decide)
    simp only [needsHint, List.head?_cons, Option.any_some, Bool.or_eq_false_iff,
      decide_eq_false_iff_not] at hhint
    obtain ⟨hspace, hbreak⟩ := hhint
    have hbreak' := (isAnyBreak_of_isPrintable c hprintable).symm.trans hbreak
    rw [indented_cons, startedChar, hbreak]
    simp only [Bool.false_eq_true, if_false, if_true, List.append_assoc]
    rw [hpad, List.singleton_append, deepestMargin]
    simp [hspace, htab, hbreak']

/-- A literal block inside a collection is read as the text that was written. -/
theorem blockScalar_written (parent : Int) (k : Nat) (cs body : List Char) (hne : cs ≠ [])
    (hchars : ∀ c ∈ cs, isPrintable c) (hparent : -1 ≤ parent) (h : Resumes parent k body)
    (hk : k ≤ parent.toNat + 2) :
    blockScalar false parent ((literalHeader cs).tail ++ '\n' ::
        (indented (parent.toNat + 2) (fun c => [c]) true cs ++
          ((if endsInBreak cs then [] else ['\n']) ++ (pad k ++ body)))) = some (cs, body) := by
  obtain ⟨s, hread, hfinish⟩ := blockFrom_written (parent.toNat + 2) k parent cs body hne hchars h
    (by omega) hk
  have hheader := blockHeader_written (needsHint cs) (chompingOf cs)
    (indented (parent.toNat + 2) (fun c => [c]) true cs ++
      ((if endsInBreak cs then [] else ['\n']) ++ (pad k ++ body)))
  rw [literalHeader_eq, List.tail_cons, blockScalar, hheader]
  have hend (cs : List Char) : headerEnd ('\n' :: cs) = some cs := rfl
  simp only [Option.bind_eq_bind, Option.bind_some, hend]
  cases hhint : needsHint cs with
  | true =>
    simp [hread, hfinish]
  | false =>
    have hdeepest := deepestMargin_indented (parent.toNat + 2) cs
      ((if endsInBreak cs then [] else ['\n']) ++ (pad k ++ body)) hne hchars hhint
    have hmax : max (parent.toNat + 2) (max (parent + 1).toNat 1) = parent.toNat + 2 := by omega
    simp only [Bool.false_eq_true, if_false, hdeepest, Option.map_some, Option.bind_some, hmax,
      hread]
    simp [hfinish]

theorem getLast?_indented (indent : Nat) (cs : List Char) (atStart : Bool) :
    (indented indent (fun c => [c]) atStart cs).getLast? = cs.getLast? := by
  induction cs generalizing atStart with
  | nil => rfl
  | cons c cs ih =>
    have hchar : (startedChar indent (fun c => [c]) atStart c).getLast? = some c := by
      unfold startedChar
      split <;> simp
    rw [indented_cons, List.getLast?_append, ih, hchar, List.getLast?_cons]
    cases cs.getLast? <;> rfl

/-- A block ends with a break. -/
theorem exists_last_break (indent : Nat) (cs : List Char) (hchars : ∀ c ∈ cs, isPrintable c) :
    ∃ before b, isBreak b ∧ indented indent (fun c => [c]) true cs ++
      (if endsInBreak cs then [] else ['\n']) = before ++ [b] := by
  cases hends : endsInBreak cs with
  | false => exact ⟨_, '\n', by decide, rfl⟩
  | true =>
    have hlast := getLast?_indented indent cs true
    rw [endsInBreak] at hends
    cases hcs : cs.getLast? with
    | none => simp [hcs] at hends
    | some b =>
      rw [hcs] at hlast hends
      obtain ⟨before, heq⟩ := List.getLast?_eq_some_iff.mp hlast
      refine ⟨before, b, ?_, by simpa using heq⟩
      rw [← isAnyBreak_of_isPrintable b (hchars b (List.mem_of_getLast? hcs))]
      simpa using hends

end BenchCharts.Yaml
