import Mathlib.Data.List.DropRight
import BenchCharts.Csv

/-!
Tables read line by line. A line break outside quotes leaves the reader as it started, so what comes
before it and what comes after it are read apart; and a line of cells, each as it is or in quotes,
is read as their texts without the blanks around them.
-/
namespace BenchCharts.Text

/-- A text that neither starts nor ends in a blank. -/
structure IsTrimmed (cs : List Char) : Prop where
  head_not_blank : ∀ c ∈ cs.head?, isBlank c = false
  last_not_blank : ∀ c ∈ cs.getLast?, isBlank c = false

theorem dropWhile_blanks_append {pad : List Char} (hpad : ∀ c ∈ pad, isBlank c = true)
    {cs : List Char} (hhead : ∀ c ∈ cs.head?, isBlank c = false) :
    (pad ++ cs).dropWhile isBlank = cs := by
  rw [List.dropWhile_append_of_pos hpad]
  cases cs with
  | nil => rfl
  | cons c rest => exact List.dropWhile_cons_of_neg (by simp [hhead c rfl])

namespace IsTrimmed
variable {cs : List Char}

theorem trim_padded (h : IsTrimmed cs) {before after : List Char}
    (hbefore : ∀ c ∈ before, isBlank c = true) (hafter : ∀ c ∈ after, isBlank c = true) :
    trim (before ++ cs ++ after) = cs := by
  cases cs with
  | nil =>
    have hblank : ∀ c ∈ before ++ [] ++ after, isBlank c = true := by
      simpa [or_imp, forall_and] using ⟨hbefore, hafter⟩
    rw [trim, List.dropWhile_eq_nil_iff.mpr hblank]
    rfl
  | cons c rest =>
    have hlast : ∀ last ∈ (c :: rest).reverse.head?, isBlank last = false := by
      rw [List.head?_reverse]
      exact h.last_not_blank
    rw [trim, List.append_assoc,
      dropWhile_blanks_append hbefore (by simpa using h.head_not_blank), List.reverse_append,
      dropWhile_blanks_append (by simpa using hafter) hlast, List.reverse_reverse]

theorem trim_eq (h : IsTrimmed cs) : trim cs = cs := by
  have hnil : ∀ c ∈ ([] : List Char), isBlank c = true := by simp
  simpa using h.trim_padded hnil hnil

end IsTrimmed

theorem isTrimmed_trim (cs : List Char) : IsTrimmed (trim cs) where
  head_not_blank := by
    intro c hc
    obtain ⟨rest, hrest⟩ : trim cs <+: cs.dropWhile isBlank := List.rdropWhile_prefix _ _
    have hhead : (cs.dropWhile isBlank).head? = some c := by
      rw [← hrest, List.head?_append, Option.mem_def.mp hc, Option.some_or]
    have hnot := List.head?_dropWhile_not isBlank cs
    rw [hhead] at hnot
    simpa using hnot
  last_not_blank := by
    intro c hc
    obtain ⟨hne, rfl⟩ := List.mem_getLast?_eq_getLast hc
    exact Bool.eq_false_iff.mpr (List.rdropWhile_last_not isBlank _ hne)

theorem trim_trim (cs : List Char) : trim (trim cs) = trim cs := (isTrimmed_trim cs).trim_eq

end BenchCharts.Text

namespace BenchCharts.Csv

namespace State

/-- A state in which no cell is quoted and every open cell belongs to an open record. -/
structure Unquoted (s : State) : Prop where
  not_quoted : s.place ≠ .quoted
  not_closing : s.place ≠ .closing
  cells_eq : s.place = .recordStart → s.cells = [] ∧ s.cell = []

theorem unquoted_start : start.Unquoted := ⟨by simp [start], by simp [start], fun _ => ⟨rfl, rfl⟩⟩

theorem unquoted_plainStep (s : State) (c : Char) : (s.plainStep c).Unquoted := by
  unfold plainStep
  split
  · exact ⟨by simp [closeRecord], by simp [closeRecord],
      fun _ => ⟨rfl, rfl⟩⟩
  · split
    · exact ⟨by simp [closeCell], by simp [closeCell], by simp [closeCell]⟩
    · exact ⟨by simp [push], by simp [push], by simp [push]⟩

theorem Unquoted.step_eq {s : State} (h : s.Unquoted) {c : Char} (hc : c ≠ '"') :
    s.step c = if s.place = .recordStart ∧ isBreak c then s else s.plainStep c := by
  obtain ⟨place, records, cells, cell⟩ := s
  cases place
  case recordStart => simp [step, hc]
  case cellStart => simp [step, hc]
  case plain => simp [step]
  case quoted => exact absurd rfl h.not_quoted
  case closing => exact absurd rfl h.not_closing

theorem Unquoted.step {s : State} (h : s.Unquoted) {c : Char} (hc : c ≠ '"') :
    (s.step c).Unquoted := by
  rw [h.step_eq hc]
  split
  · exact h
  · exact unquoted_plainStep s c

theorem Unquoted.foldl {s : State} (h : s.Unquoted) {cs : List Char} (hcs : '"' ∉ cs) :
    (cs.foldl State.step s).Unquoted := by
  induction cs generalizing s with
  | nil => exact h
  | cons c rest ih =>
    have hc : c ≠ '"' := fun heq => hcs (heq ▸ List.mem_cons_self)
    exact ih (h.step hc) fun hmem => hcs (List.mem_cons_of_mem c hmem)

/-- A break ends the records read so far, and reading starts over. -/
theorem Unquoted.step_break {s : State} (h : s.Unquoted) :
    s.step '\n' = ⟨.recordStart, s.finish.reverse, [], []⟩ := by
  obtain ⟨place, records, cells, cell⟩ := s
  rw [h.step_eq (by decide)]
  cases place
  case recordStart =>
    obtain ⟨rfl, rfl⟩ := h.cells_eq rfl
    simp [isBreak, finish]
  case cellStart => simp [isBreak, plainStep, finish, closeRecord, closeCell]
  case plain => simp [isBreak, plainStep, finish, closeRecord, closeCell]
  case quoted => exact absurd rfl h.not_quoted
  case closing => exact absurd rfl h.not_closing

/-- A state with further records before its own. -/
def after (earlier : List Record) (s : State) : State :=
  { s with records := s.records ++ earlier }

theorem step_after (earlier : List Record) (s : State) (c : Char) :
    (s.after earlier).step c = (s.step c).after earlier := by
  obtain ⟨place, records, cells, cell⟩ := s
  cases place <;> simp only [step, after, plainStep, closeRecord, closeCell, push] <;>
    (repeat' split) <;> rfl

theorem foldl_after (earlier : List Record) (s : State) (cs : List Char) :
    cs.foldl State.step (s.after earlier) = (cs.foldl State.step s).after earlier := by
  induction cs generalizing s with
  | nil => rfl
  | cons c rest ih => rw [List.foldl_cons, List.foldl_cons, step_after, ih]

theorem finish_after (earlier : List Record) (s : State) :
    (s.after earlier).finish = earlier.reverse ++ s.finish := by
  obtain ⟨place, records, cells, cell⟩ := s
  cases place <;> simp [finish, after, closeRecord, closeCell]

end State

/-- What stands before a break and what stands after it are read apart. -/
theorem read_append_break {left : List Char} (h : '"' ∉ left) (right : List Char) :
    read (left ++ '\n' :: right) = read left ++ read right := by
  have hleft := State.unquoted_start.foldl h
  have hstart : (left.foldl State.step State.start).step '\n' =
      State.start.after (read left).reverse := by
    rw [hleft.step_break]
    simp [State.start, State.after, read]
  rw [read, foldl_step_append, List.foldl_cons, hstart, State.foldl_after, State.finish_after,
    List.reverse_reverse]
  rfl

/-- The characters of a text after its byte order mark. -/
def unmarked : List Char → List Char
  | '\ufeff' :: rest => rest
  | cs => cs

theorem records_eq_read (text : String) : records text = read (unmarked text.toList) := by
  unfold records
  cases text.toList with
  | nil => rfl
  | cons c rest =>
    by_cases hc : c = '\ufeff'
    · subst hc
      rfl
    · simp [unmarked, hc]

theorem not_mem_unmarked {c : Char} {cs : List Char} (h : c ∉ cs) : c ∉ unmarked cs := by
  unfold unmarked
  split
  · exact fun hmem => h (List.mem_cons_of_mem _ hmem)
  · exact h

theorem unmarked_of_ne {cs : List Char} (h : cs.head? ≠ some '\ufeff') : unmarked cs = cs := by
  unfold unmarked
  split
  · simp at h
  · rfl

theorem records_mark_append {text : String} (h : text.toList.head? ≠ some '\ufeff') :
    records ("\ufeff" ++ text) = records text := by
  rw [records_eq_read, records_eq_read, unmarked_of_ne h]
  simp [unmarked]

/-- A line is read apart from the lines after it. -/
theorem records_append_break {line text : String} (hquote : '"' ∉ line.toList)
    (htext : text.toList.head? ≠ some '\ufeff') :
    records (line ++ "\n" ++ text) = records line ++ records text := by
  have hsplit : ∀ cs rest : List Char,
      unmarked (cs ++ '\n' :: rest) = unmarked cs ++ '\n' :: rest := by
    intro cs rest
    cases cs with
    | nil => rfl
    | cons c cs =>
      by_cases hc : c = '\ufeff'
      · subst hc
        rfl
      · rw [unmarked_of_ne (by simp [hc]), unmarked_of_ne (by simp [hc])]
  rw [records_eq_read, records_eq_read line, records_eq_read text, unmarked_of_ne htext,
    String.append_assoc, String.toList_append, String.toList_append]
  have hread := congrArg read (hsplit line.toList text.toList)
  exact hread.trans (read_append_break (not_mem_unmarked hquote) _)

/-- A text that ends in a break is read apart from what follows it. -/
theorem records_append {s₁ s₂ : String} (hquote : '"' ∉ s₁.toList)
    (hend : s₁ = "" ∨ s₁.toList.getLast? = some '\n') (hmark : s₂.toList.head? ≠ some '\ufeff') :
    records (s₁ ++ s₂) = records s₁ ++ records s₂ := by
  rcases hend with rfl | hend
  · simp [records, read_nil]
  · obtain ⟨cs, hcs⟩ := List.getLast?_eq_some_iff.mp hend
    have hline : s₁ = String.ofList cs ++ "\n" := by
      rw [← String.toList_inj, hcs]
      simp
    have hcs : '"' ∉ (String.ofList cs).toList := by
      rw [hline] at hquote
      simpa using hquote
    have hfirst :
        records (String.ofList cs ++ "\n" ++ "") = records (String.ofList cs) ++ records "" :=
      records_append_break hcs (by simp)
    rw [hline, records_append_break hcs hmark,
      ← String.append_empty (s := String.ofList cs ++ "\n"),
      hfirst]
    simp [records, read_nil]

/-- How a cell with a certain text may be written: as it is, or in quotes with those inside it
doubled. -/
inductive WritesCell : List Char → List Char → Prop
  | plain {text : List Char} :
      (∀ c ∈ text, State.isBreak c = false ∧ c ≠ ',') → text.head? ≠ some '"' → WritesCell text text
  | quoted (text : List Char) :
      WritesCell ('"' :: (text.flatMap fun c => if c = '"' then ['"', '"'] else [c]) ++ ['"']) text

/-- How the cells of one record are written. -/
inductive WritesCells : List Char → List (List Char) → Prop
  | last {written text : List Char} : WritesCell written text → WritesCells written [text]
  | cons {written text rest : List Char} {texts : List (List Char)} :
      WritesCell written text → WritesCells rest texts →
        WritesCells (written ++ ',' :: rest) (text :: texts)

namespace State

theorem step_comma {s : State} (h : s.place ≠ .quoted) : s.step ',' = s.closeCell := by
  obtain ⟨place, records, cells, cell⟩ := s
  cases place <;> simp_all [step, plainStep, isBreak]

theorem step_isBreak {s : State} (hstart : s.place ≠ .recordStart) (hquoted : s.place ≠ .quoted)
    {c : Char} (h : isBreak c = true) : s.step c = s.closeRecord := by
  have hc : c ≠ '"' := by
    rintro rfl
    simp [isBreak] at h
  obtain ⟨place, records, cells, cell⟩ := s
  cases place <;> simp_all [step, plainStep]

theorem finish_of_open {s : State} (h : s.place ≠ .recordStart) :
    s.finish = s.closeRecord.records.reverse := by
  obtain ⟨place, records, cells, cell⟩ := s
  cases place <;> simp_all [finish]

theorem foldl_plain {text : List Char} (h : ∀ c ∈ text, isBreak c = false ∧ c ≠ ',')
    (records : List Record) (cells : List Cell) (cell : List Char) :
    text.foldl State.step ⟨.plain, records, cells, cell⟩ =
      ⟨.plain, records, cells, text.reverse ++ cell⟩ := by
  induction text generalizing cell with
  | nil => rfl
  | cons c rest ih =>
    obtain ⟨⟨hbreak, hcomma⟩, hrest⟩ := List.forall_mem_cons.mp h
    have hstep : step ⟨.plain, records, cells, cell⟩ c = ⟨.plain, records, cells, c :: cell⟩ := by
      simp [step, plainStep, push, hbreak, hcomma]
    rw [List.foldl_cons, hstep, ih hrest, List.reverse_cons, List.append_assoc,
      List.singleton_append]

theorem foldl_quoted (text : List Char) (records : List Record) (cells : List Cell)
    (cell : List Char) :
    (text.flatMap fun c => if c = '"' then ['"', '"'] else [c]).foldl State.step
        ⟨.quoted, records, cells, cell⟩ =
      ⟨.quoted, records, cells, text.reverse ++ cell⟩ := by
  induction text generalizing cell with
  | nil => rfl
  | cons c rest ih =>
    rw [List.flatMap_cons, List.foldl_append]
    have hchar : (if c = '"' then ['"', '"'] else [c]).foldl State.step
        ⟨.quoted, records, cells, cell⟩ = ⟨.quoted, records, cells, c :: cell⟩ := by
      split
      · next hquote => simp [step, push, hquote]
      · next hquote => simp [step, push, hquote]
    rw [hchar, ih, List.reverse_cons, List.append_assoc, List.singleton_append]

/-- A cell is read from its start to its end; only an empty one leaves the reader in place. -/
theorem foldl_cell {written text : List Char} (h : WritesCell written text) {place : Place}
    (hplace : place = .recordStart ∨ place = .cellStart) (records : List Record)
    (cells : List Cell) :
    ∃ ending, written.foldl State.step ⟨place, records, cells, []⟩ =
        ⟨ending, records, cells, text.reverse⟩ ∧
      ending ≠ .quoted ∧ (ending = .recordStart → written = [] ∧ place = .recordStart) := by
  cases h with
  | plain hchars hquote =>
    cases written with
    | nil =>
      refine ⟨place, rfl, ?_, fun hstart => ⟨rfl, hstart⟩⟩
      rcases hplace with rfl | rfl <;> simp
    | cons c rest =>
      obtain ⟨⟨hbreak, hcomma⟩, hrest⟩ := List.forall_mem_cons.mp hchars
      have hne : c ≠ '"' := by simpa using hquote
      have hstep : step ⟨place, records, cells, []⟩ c = ⟨.plain, records, cells, [c]⟩ := by
        rcases hplace with rfl | rfl <;> simp [step, plainStep, push, hbreak, hcomma, hne]
      refine ⟨.plain, ?_, by simp, by simp⟩
      rw [List.foldl_cons, hstep, foldl_plain hrest, List.reverse_cons]
  | quoted text =>
    have hopen : step ⟨place, records, cells, []⟩ '"' = ⟨.quoted, records, cells, []⟩ := by
      rcases hplace with rfl | rfl <;> simp [step, isBreak]
    refine ⟨.closing, ?_, by simp, by simp⟩
    rw [List.cons_append, List.foldl_cons, hopen, List.foldl_append, foldl_quoted]
    simp [step]

/-- The cells of a line are read up to the last, which stays open. -/
theorem foldl_cells {written : List Char} {texts : List (List Char)} (h : WritesCells written texts)
    {place : Place} (hplace : place = .recordStart ∨ place = .cellStart) (records : List Record)
    (cells : List Cell) :
    ∃ s, written.foldl State.step ⟨place, records, cells, []⟩ = s ∧ s.place ≠ .quoted ∧
      (s.place = .recordStart → written = [] ∧ place = .recordStart) ∧
      s.closeRecord =
        ⟨.recordStart, (cells.reverse ++ texts.map Text.trim) :: records, [], []⟩ := by
  induction h generalizing place cells with
  | last hcell =>
    obtain ⟨ending, hread, hquoted, hstart⟩ := foldl_cell hcell hplace records cells
    exact ⟨_, hread, hquoted, hstart, by simp [closeRecord, closeCell]⟩
  | @cons written text rest texts hcell hrest ih =>
    obtain ⟨ending, hread, hquoted, -⟩ := foldl_cell hcell hplace records cells
    obtain ⟨s, hlast, hquoted', hstart, hclose⟩ := ih (.inr rfl) (Text.trim text :: cells)
    refine ⟨s, ?_, hquoted', fun heq => absurd (hstart heq).2 (by simp), ?_⟩
    · rw [List.foldl_append, hread, List.foldl_cons, step_comma hquoted, closeCell,
        List.reverse_reverse, hlast]
    · rw [hclose]
      simp

end State

theorem read_break {c : Char} (h : State.isBreak c = true) (rest : List Char) :
    read (c :: rest) = read rest := by
  rw [read, List.foldl_cons]
  simp [State.step, State.start, h, read]

/-- Nothing more comes on a line. -/
def EndsLine (rest : List Char) : Prop := ∀ c ∈ rest.head?, State.isBreak c = true

theorem endsLine_cons {c : Char} {rest : List Char} :
    EndsLine (c :: rest) ↔ State.isBreak c = true := by
  simp [EndsLine]

/-- A line is read as one record, and what follows it as the records after it. -/
theorem read_line {written : List Char} {texts : List (List Char)} (h : WritesCells written texts)
    (hne : written ≠ []) {rest : List Char} (hrest : EndsLine rest) :
    read (written ++ rest) = texts.map Text.trim :: read rest := by
  obtain ⟨s, hread, hquoted, hstart, hclose⟩ := State.foldl_cells h (.inl rfl) [] []
  have hopen : s.place ≠ .recordStart := fun heq => hne (hstart heq).1
  rw [read, List.foldl_append, State.start, hread]
  cases rest with
  | nil =>
    rw [List.foldl_nil, State.finish_of_open hopen, hclose]
    rfl
  | cons c rest =>
    have hbreak := endsLine_cons.mp hrest
    have hnext : s.step c = State.start.after [texts.map Text.trim] := by
      rw [State.step_isBreak hopen hquoted hbreak, hclose]
      rfl
    rw [List.foldl_cons, hnext, State.foldl_after, State.finish_after, read_break hbreak]
    rfl

end BenchCharts.Csv
