import BenchCharts.Proofs.Results.Durations

/-!
Which row a malformed file of durations is blamed on. Without quotes, the records of a text are its
lines in their order, but for the empty ones. Rows are counted in records, so the number of a row is
the number of its line as long as no empty line stands before it.
-/
namespace BenchCharts.Csv

/-- Lines end at a line feed, at a carriage return or at both of them together. -/
def lines : List Char → List (List Char)
  | [] => [[]]
  | '\r' :: '\n' :: rest => [] :: lines rest
  | c :: rest => if State.isBreak c then [] :: lines rest else (lines rest).modifyHead (c :: ·)

/-- The cells of a line without quotes. -/
def cells (line : List Char) : Record := (line.splitOn ',').map Text.trim

/-- The lines that are not empty. -/
def filled (ls : List (List Char)) : List (List Char) := ls.filter fun line => !line.isEmpty

theorem WritesCells.push {written text : List Char} {texts : List (List Char)}
    (h : WritesCells written (text :: texts)) (hquote : '"' ∉ written) {c : Char}
    (hc : State.isBreak c = false ∧ c ≠ ',') (hc' : c ≠ '"') :
    WritesCells (c :: written) ((c :: text) :: texts) := by
  have hcell : ∀ {cell}, WritesCell cell text → '"' ∉ cell →
      WritesCell (c :: cell) (c :: text) := by
    intro cell hcell hcell'
    cases hcell with
    | plain hchars _ => exact .plain (List.forall_mem_cons.mpr ⟨hc, hchars⟩) (by simpa using hc')
    | quoted => simp at hcell'
  cases h with
  | last hlast => exact .last (hcell hlast hquote)
  | cons hfirst hrest => exact .cons (hcell hfirst fun hmem => hquote (by simp [hmem])) hrest

theorem writesCells_splitOn {line : List Char} (hquote : '"' ∉ line)
    (hbreak : ∀ c ∈ line, State.isBreak c = false) : WritesCells line (line.splitOn ',') := by
  induction line with
  | nil => exact .last (.plain (by simp) (by simp))
  | cons c rest ih =>
    rw [List.mem_cons, not_or] at hquote
    rw [List.forall_mem_cons] at hbreak
    have hrest := ih hquote.2 hbreak.2
    rw [List.splitOn_cons_eq_if_modifyHead]
    split
    · next hcomma =>
      obtain rfl : c = ',' := by simpa using hcomma
      have hempty : WritesCell [] [] := .plain (by simp) (by simp)
      exact .cons hempty hrest
    · next hcomma =>
      obtain ⟨text, texts, hsplit⟩ := List.exists_cons_of_ne_nil (List.splitOn_ne_nil ',' rest)
      rw [hsplit] at hrest ⊢
      exact hrest.push hquote.2 ⟨hbreak.1, by simpa using hcomma⟩ (Ne.symm hquote.1)

/-- A line up to its end is a record if it is not empty. -/
theorem read_append_of_endsLine {line rest : List Char} {ls : List (List Char)}
    (hquote : '"' ∉ line) (hbreak : ∀ c ∈ line, State.isBreak c = false) (hends : EndsLine rest)
    (hrest : read rest = (filled ls).map cells) :
    read (line ++ rest) = (filled (line :: ls)).map cells := by
  cases line with
  | nil => simpa [filled] using hrest
  | cons c line =>
    rw [read_line (writesCells_splitOn hquote hbreak) (by simp) hends, hrest]
    simp [filled, cells]

theorem modifyHead_nil_append (ls : List (List Char)) : ls.modifyHead ([] ++ ·) = ls := by
  cases ls <;> rfl

/-- In a text without quotes the line that has begun, and each one after it, is a record if it is
not empty. -/
theorem read_append {before cs : List Char} (hbefore : '"' ∉ before)
    (hbreak : ∀ c ∈ before, State.isBreak c = false) (h : '"' ∉ cs) :
    read (before ++ cs) = (filled ((lines cs).modifyHead (before ++ ·))).map cells := by
  fun_induction lines cs generalizing before with
  | case1 =>
    have hnil : read [] = (filled []).map cells := rfl
    simpa using read_append_of_endsLine hbefore hbreak (by simp [EndsLine]) hnil
  | case2 rest ih =>
    have hrest := ih List.not_mem_nil (by simp) (by simpa using h)
    rw [List.nil_append, modifyHead_nil_append] at hrest
    rw [List.modifyHead_cons, List.append_nil]
    refine read_append_of_endsLine hbefore hbreak (endsLine_cons.mpr (by decide)) ?_
    rw [read_break (by decide), read_break (by decide), hrest]
  | case3 c rest _ hc ih =>
    have hrest := ih List.not_mem_nil (by simp) fun hmem => h (List.mem_cons_of_mem c hmem)
    rw [List.nil_append, modifyHead_nil_append] at hrest
    rw [List.modifyHead_cons, List.append_nil]
    refine read_append_of_endsLine hbefore hbreak (endsLine_cons.mpr hc) ?_
    rw [read_break hc, hrest]
  | case4 c rest _ hc ih =>
    rw [List.mem_cons, not_or] at h
    have hquote : '"' ∉ before ++ [c] := by simp [hbefore, h.1]
    have hnext := ih hquote (by simpa [or_imp, forall_and, hc] using hbreak) h.2
    rw [List.append_assoc, List.singleton_append] at hnext
    rw [hnext, List.modifyHead_modifyHead]
    simp only [Function.comp_def, List.append_assoc, List.singleton_append]

/-- The records of a text without quotes are its lines that are not empty. -/
theorem read_eq_map_lines {cs : List Char} (h : '"' ∉ cs) :
    read cs = (filled (lines cs)).map cells := by
  have hread := read_append List.not_mem_nil (by simp) h
  rwa [List.nil_append, modifyHead_nil_append] at hread

end BenchCharts.Csv

namespace BenchCharts.Results

open Csv (cells filled lines unmarked)

instance (record : Csv.Record) : Decidable (∃ n, HasDuration record n) :=
  decidable_of_iff ((PhaseDeltas.readDuration record).toOption.isSome = true) (by
    simp only [Option.isSome_iff_exists, toOption_eq_some_iff, readDuration_eq_ok_iff])

/-- A line that is not empty and has no duration. -/
def Faulty (line : List Char) : Prop := line ≠ [] ∧ ¬∃ n, HasDuration (cells line) n

instance (line : List Char) : Decidable (Faulty line) := inferInstanceAs (Decidable (_ ∧ _))

namespace PhaseDeltas

theorem records_eq_map_lines {text : String} (h : '"' ∉ text.toList) :
    Csv.records text = (filled (lines (unmarked text.toList))).map cells := by
  rw [Csv.records_eq_read, Csv.read_eq_map_lines (Csv.not_mem_unmarked h)]

/-- The first record without a duration decides, and its row is its place among the records. -/
theorem split_of_addRecords_eq_error {records : List Csv.Record} {d : PhaseDeltas} {row : Nat}
    {e : RowError} (h : addRecords d row records = .error e) :
    ∃ before record after, records = before ++ record :: after ∧
      (∀ b ∈ before, ∃ n, HasDuration b n) ∧ (¬∃ n, HasDuration record n) ∧
      e.row = row + before.length := by
  induction records generalizing d row with
  | nil => simp [addRecords] at h
  | cons record rest ih =>
    unfold addRecords at h
    split at h
    · next cause hread =>
      obtain rfl := Except.error.inj h
      refine ⟨[], record, rest, rfl, by simp, ?_, rfl⟩
      rintro ⟨n, hn⟩
      rw [(readDuration_eq_ok_iff record n).mpr hn] at hread
      contradiction
    · next n hread =>
      have hn := (readDuration_eq_ok_iff record n).mp hread
      obtain ⟨before, fault, after, rfl, hbefore, hfault, hrow⟩ :
          ∃ before fault after, rest = before ++ fault :: after ∧
            (∀ b ∈ before, ∃ n, HasDuration b n) ∧ (¬∃ n, HasDuration fault n) ∧
            e.row = row + 1 + before.length := by
        split at h <;> exact ih h
      refine ⟨record :: before, fault, after, rfl,
        List.forall_mem_cons.mpr ⟨⟨n, hn⟩, hbefore⟩, hfault, ?_⟩
      rw [hrow, List.length_cons]
      omega

end PhaseDeltas

/-- Among the records of lines, the first one without a duration is the first line at fault. -/
theorem split_of_filled {ls : List (List Char)} {before after : List Csv.Record}
    {record : Csv.Record} (h : (filled ls).map cells = before ++ record :: after)
    (hbefore : ∀ b ∈ before, ∃ n, HasDuration b n) (hrecord : ¬∃ n, HasDuration record n) :
    ∃ above line below, ls = above ++ line :: below ∧ (∀ l ∈ above, ¬Faulty l) ∧ Faulty line ∧
      before.length = (filled above).length := by
  obtain ⟨left, right, hsplit, rfl, hright⟩ := List.map_eq_append_iff.mp h
  obtain ⟨line, rest, rfl, rfl, -⟩ := List.map_eq_cons_iff.mp hright
  obtain ⟨above, below, rfl, rfl, hbelow⟩ := List.filter_eq_append_iff.mp hsplit
  obtain ⟨skipped, below, rfl, hskipped, hline, -⟩ := List.filter_eq_cons_iff.mp hbelow
  have hempty : ∀ l ∈ skipped, l = [] := by simpa using hskipped
  refine ⟨above ++ skipped, line, below, by simp, ?_, ⟨by simpa using hline, hrecord⟩, ?_⟩
  · intro l hl hfaulty
    rcases List.mem_append.mp hl with habove | hskip
    · have hmem : l ∈ filled above := List.mem_filter.mpr ⟨habove, by simpa using hfaulty.1⟩
      exact hfaulty.2 (hbefore _ (List.mem_map_of_mem hmem))
    · exact hfaulty.1 (hempty l hskip)
  · have hnone : filled skipped = [] := List.filter_eq_nil_iff.mpr hskipped
    rw [List.length_map, filled, List.filter_append]
    exact congrArg List.length (by rw [← filled, ← filled, hnone, List.append_nil])

/-- A file without quotes is malformed if some line is at fault, and the first such line is blamed.
It is called by its place among the lines that are not empty, which is its place among all lines if
no line above it is empty. -/
theorem faults_located (text : String) (h : '"' ∉ text.toList) :
    ((∃ e, PhaseDeltas.parse text = .error e) ↔
      ∃ line ∈ lines (unmarked text.toList), Faulty line) ∧
    ∀ e, PhaseDeltas.parse text = .error e →
      ∃ above line below, lines (unmarked text.toList) = above ++ line :: below ∧
        (∀ l ∈ above, ¬Faulty l) ∧ Faulty line ∧
        e.message = "line " ++ toString ((filled above).length + 1) ++ ": " ++ e.cause.message ∧
        ((filled above).length + 1 = above.length + 1 ↔ [] ∉ above) := by
  have hrecords := PhaseDeltas.records_eq_map_lines h
  have hlocated : ∀ e, PhaseDeltas.parse text = .error e →
      ∃ above line below, lines (unmarked text.toList) = above ++ line :: below ∧
        (∀ l ∈ above, ¬Faulty l) ∧ Faulty line ∧ e.row = (filled above).length + 1 := by
    intro e herror
    obtain ⟨before, record, after, hsplit, hbefore, hrecord, hrow⟩ :=
      PhaseDeltas.split_of_addRecords_eq_error herror
    obtain ⟨above, line, below, hlines, habove, hline, hlength⟩ :=
      split_of_filled (hrecords.symm.trans hsplit) hbefore hrecord
    exact ⟨above, line, below, hlines, habove, hline, by rw [hrow, hlength, Nat.add_comm]⟩
  refine ⟨⟨?_, ?_⟩, ?_⟩
  · rintro ⟨e, herror⟩
    obtain ⟨above, line, below, hlines, -, hline, -⟩ := hlocated e herror
    exact ⟨line, by simp [hlines], hline⟩
  · rintro ⟨line, hmem, hne, hnone⟩
    cases hparse : PhaseDeltas.parse text with
    | error e => exact ⟨e, rfl⟩
    | ok d =>
      have hfilled : line ∈ filled (lines (unmarked text.toList)) :=
        List.mem_filter.mpr ⟨hmem, by simpa using hne⟩
      have hrecord : cells line ∈ Csv.records text := hrecords ▸ List.mem_map_of_mem hfilled
      exact absurd ((PhaseDeltas.parse_eq hparse).1 _ hrecord) hnone
  · intro e herror
    obtain ⟨above, line, below, hlines, habove, hline, hrow⟩ := hlocated e herror
    refine ⟨above, line, below, hlines, habove, hline, by rw [RowError.message, hrow], ?_⟩
    rw [Nat.add_right_cancel_iff, filled, List.length_filter_eq_length_iff]
    constructor
    · exact fun hall hmem => by simpa using hall [] hmem
    · rintro hnil line hmem
      simpa using ne_of_mem_of_not_mem hmem hnil

/-- Breaks of all three kinds, and a last line without one. -/
theorem faults_located_mixed :
    let text := "connect,5\r\n\r\n\rrecover,7\n,x"
    let e : RowError := ⟨3, .unreadable "x" .invalidDigit⟩
    '"' ∉ text.toList ∧ PhaseDeltas.parse text = .error e ∧
      ∃ above line below, lines (unmarked text.toList) = above ++ line :: below ∧
        (∀ l ∈ above, ¬Faulty l) ∧ Faulty line ∧
        e.message = "line " ++ toString ((filled above).length + 1) ++ ": " ++ e.cause.message ∧
        ((filled above).length + 1 = above.length + 1 ↔ [] ∉ above) := by
  intro text e
  have hquote : '"' ∉ text.toList := by decide
  have herror : PhaseDeltas.parse text = .error e := by decide +kernel
  exact ⟨hquote, herror, (faults_located text hquote).2 e herror⟩

/-- The second line is the first one at fault, but the first row. -/
theorem row_after_empty_line :
    PhaseDeltas.parse "\nconnect,fast\n" = .error ⟨1, .unreadable "fast" .invalidDigit⟩ ∧
      lines "\nconnect,fast\n".toList = [[], "connect,fast".toList, []] ∧ ¬Faulty [] ∧
      Faulty "connect,fast".toList := by
  decide +kernel

end BenchCharts.Results
