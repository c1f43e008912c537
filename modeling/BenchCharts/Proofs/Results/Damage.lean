import BenchCharts.Series.SizeBuckets
import BenchCharts.Proofs.Csv

/-!
Corrupt rows in size sweeps. A text without double quotes is read line by line, so a line whose
records give no rows can be put between any two others without changing the rows.
-/
namespace BenchCharts.Results

/-- A record has no row: a cell is missing, is no number or is not finite, there are no operations,
or the latency with the time spent in recovery is past every double. -/
def RowFormat.Refuses : RowFormat → Csv.Record → Prop
  | plain, record => wholeCell record 0 = none ∨ realCell record 1 = none
  | recoveryAccounted, record =>
      wholeCell record 0 = none ∨ wholeCell record 1 = none ∨ wholeCell record 2 = none ∨
        wholeCell record 2 = some 0 ∨ realCell record 3 = none ∨
        ∃ recovery operations latency, wholeCell record 1 = some recovery ∧
          wholeCell record 2 = some operations ∧ realCell record 3 = some latency ∧
          (latency + wordToFloat recovery / wordToFloat operations).isFinite = false

theorem RowFormat.readRow_eq_none_iff (format : RowFormat) (record : Csv.Record) :
    format.readRow record = none ↔ format.Refuses record := by
  cases format
  case plain =>
    cases hsize : wholeCell record 0 <;> cases hlatency : realCell record 1 <;>
      simp [readRow, Refuses, hsize, hlatency]
  case recoveryAccounted =>
    cases hsize : wholeCell record 0 with
    | none => simp [readRow, Refuses, hsize]
    | some size =>
      cases hrecovery : wholeCell record 1 with
      | none => simp [readRow, Refuses, hsize, hrecovery]
      | some recovery =>
        cases hoperations : wholeCell record 2 with
        | none => simp [readRow, Refuses, hsize, hrecovery, hoperations]
        | some operations =>
          cases hlatency : realCell record 3 with
          | none => simp [readRow, Refuses, hsize, hrecovery, hoperations, hlatency]
          | some latency =>
            simp only [readRow, Refuses, hsize, hrecovery, hoperations, hlatency,
              Option.bind_eq_bind, Option.bind_some, Option.pure_def, reduceCtorEq, false_or,
              Option.some.injEq]
            by_cases hzero : operations = 0 <;> simp [hzero]

instance (format : RowFormat) (record : Csv.Record) : Decidable (format.Refuses record) :=
  decidable_of_iff ((format.readRow record).isNone = true)
    (Option.isNone_iff_eq_none.trans (format.readRow_eq_none_iff record))

theorem realCell_isFinite {record : Csv.Record} {column : Nat} {x : Float}
    (h : realCell record column = some x) : x.isFinite = true :=
  (Option.filter_eq_some_iff.mp h).2

theorem RowFormat.latency_isFinite {format : RowFormat} {record : Csv.Record} {row : SizeRow}
    (h : format.readRow record = some row) : row.latency.isFinite = true := by
  cases format
  case plain =>
    simp only [readRow, Option.bind_eq_bind, Option.bind_eq_some_iff, Option.pure_def,
      Option.some.injEq] at h
    obtain ⟨size, -, latency, hlatency, rfl⟩ := h
    exact realCell_isFinite hlatency
  case recoveryAccounted =>
    simp only [readRow, Option.bind_eq_bind, Option.bind_eq_some_iff, Option.pure_def] at h
    obtain ⟨size, -, recovery, -, operations, -, latency, -, h⟩ := h
    split at h
    · simp at h
    · split at h
      · next hfinite =>
        obtain rfl := Option.some.inj h
        exact hfinite
      · simp at h

namespace SizeRows

theorem parse_eq (format : RowFormat) (text : String) :
    parse format text = ofRecords format (Csv.records text) := rfl

theorem latency_isFinite_of_mem {format : RowFormat} {text : String} {row : SizeRow}
    (h : row ∈ (parse format text).rows) : row.latency.isFinite = true := by
  obtain ⟨read, hread, hrow⟩ := List.mem_filterMap.mp h
  obtain ⟨record, -, rfl⟩ := List.mem_map.mp hread
  exact RowFormat.latency_isFinite hrow

/-- Records that are all refused give no rows. -/
theorem rows_of_refused {format : RowFormat} {records : List Csv.Record}
    (h : ∀ record ∈ records, format.Refuses record) : (ofRecords format records).rows = [] := by
  rw [ofRecords, List.filterMap_map, List.filterMap_eq_nil_iff]
  intro record hrecord
  exact (format.readRow_eq_none_iff record).mpr (h record hrecord)

end SizeRows

/-- A line without double quotes that does not start with a byte order mark. -/
structure PlainLine (line : String) : Prop where
  no_quote : '"' ∉ line.toList
  no_mark : line.toList.head? ≠ some '\ufeff'

instance (line : String) : Decidable (PlainLine line) :=
  decidable_of_iff ('"' ∉ line.toList ∧ line.toList.head? ≠ some '\ufeff')
    ⟨fun h => ⟨h.1, h.2⟩, fun h => ⟨h.1, h.2⟩⟩

/-- The lines of a file with further lines between them, all of whose records are refused. -/
inductive Damaged (format : RowFormat) : List String → List String → Prop
  | nil : Damaged format [] []
  | keep {line : String} {before after : List String} :
      PlainLine line → Damaged format before after → Damaged format (line :: before) (line :: after)
  | insert {line : String} {before after : List String} :
      PlainLine line → (∀ record ∈ Csv.records line, format.Refuses record) →
        Damaged format before after → Damaged format before (line :: after)

/-- A file of lines, the last of which may go without a break. -/
def fileOf (lines : List String) (last : String) : String :=
  lines.foldr (fun line rest => line ++ "\n" ++ rest) last

theorem no_mark_fileOf {lines : List String} {last : String}
    (hlines : ∀ line ∈ lines, PlainLine line) (hlast : PlainLine last) :
    (fileOf lines last).toList.head? ≠ some '\ufeff' := by
  cases lines with
  | nil => exact hlast.no_mark
  | cons line rest =>
    have hline := (hlines line List.mem_cons_self).no_mark
    simp only [fileOf, List.foldr_cons, String.toList_append]
    cases hcs : line.toList with
    | nil => simp
    | cons c cs => simpa [hcs] using hline

theorem Damaged.plainLine {format : RowFormat} {before after : List String}
    (h : Damaged format before after) :
    (∀ line ∈ before, PlainLine line) ∧ ∀ line ∈ after, PlainLine line := by
  induction h with
  | nil => simp
  | keep hline _ ih =>
    exact ⟨List.forall_mem_cons.mpr ⟨hline, ih.1⟩, List.forall_mem_cons.mpr ⟨hline, ih.2⟩⟩
  | insert hline _ _ ih => exact ⟨ih.1, List.forall_mem_cons.mpr ⟨hline, ih.2⟩⟩

/-- A line comes before the rows of the lines after it with its own rows. -/
theorem rows_fileOf_cons {format : RowFormat} {line last : String} {lines : List String}
    (hline : PlainLine line) (hlines : ∀ line ∈ lines, PlainLine line) (hlast : PlainLine last) :
    (SizeRows.parse format (fileOf (line :: lines) last)).rows =
      (SizeRows.parse format line).rows ++ (SizeRows.parse format (fileOf lines last)).rows := by
  have hrecords := Csv.records_append_break hline.no_quote (no_mark_fileOf hlines hlast)
  rw [SizeRows.parse_eq, fileOf, List.foldr_cons]
  exact (congrArg (fun records => (SizeRows.ofRecords format records).rows) hrecords).trans
    (congrArg SizeRows.rows (SizeRows.ofRecords_append format _ _))

theorem Damaged.rows_eq {format : RowFormat} {before after : List String} {last : String}
    (h : Damaged format before after) (hlast : PlainLine last) :
    (SizeRows.parse format (fileOf after last)).rows =
      (SizeRows.parse format (fileOf before last)).rows := by
  induction h with
  | nil => rfl
  | keep hline hrest ih =>
    rw [rows_fileOf_cons hline hrest.plainLine.2 hlast,
      rows_fileOf_cons hline hrest.plainLine.1 hlast, ih]
  | insert hline hrefused hrest ih =>
    rw [rows_fileOf_cons hline hrest.plainLine.2 hlast, ih, SizeRows.parse_eq,
      SizeRows.rows_of_refused hrefused, List.nil_append]

end BenchCharts.Results

namespace BenchCharts.Series

open Results (Damaged PlainLine RowFormat SizeRows fileOf)

/-- Corrupt rows are left out one by one. Every row that is read is finite, and every record is a
row or counted; a text that ends in a break is read apart from what follows it; and lines that give
no rows change nothing in the buckets, wherever they stand. -/
theorem sizes_withstand_damage (format : RowFormat) :
    (∀ text, (∀ row ∈ (SizeRows.parse format text).rows, row.latency.isFinite = true) ∧
      (SizeRows.parse format text).rows.length + (SizeRows.parse format text).malformed =
        (Csv.records text).length) ∧
    (∀ s₁ s₂ : String, '"' ∉ s₁.toList → s₁ = "" ∨ s₁.toList.getLast? = some '\n' →
      s₂.toList.head? ≠ some '\ufeff' →
      SizeRows.parse format (s₁ ++ s₂) =
        ⟨(SizeRows.parse format s₁).rows ++ (SizeRows.parse format s₂).rows,
          (SizeRows.parse format s₁).malformed + (SizeRows.parse format s₂).malformed⟩) ∧
    ∀ (mark last : String) (before after : List String), mark = "" ∨ mark = "\ufeff" →
      PlainLine last → Damaged format before after →
      SizeSeries.ofRows (SizeRows.parse format (mark ++ fileOf after last)).rows =
        SizeSeries.ofRows (SizeRows.parse format (mark ++ fileOf before last)).rows := by
  refine ⟨?_, ?_, ?_⟩
  · intro text
    exact ⟨fun row => SizeRows.latency_isFinite_of_mem,
      SizeRows.length_add_malformed format (Csv.records text)⟩
  · intro s₁ s₂ hquote hend hmark
    rw [SizeRows.parse_eq, Csv.records_append hquote hend hmark, SizeRows.ofRecords_append]
    rfl
  · intro mark last before after hmark hlast hdamaged
    have hrecords : ∀ lines, (∀ line ∈ lines, PlainLine line) →
        SizeRows.parse format (mark ++ fileOf lines last) =
          SizeRows.parse format (fileOf lines last) := by
      intro lines hlines
      rcases hmark with rfl | rfl
      · rw [String.empty_append]
      · rw [SizeRows.parse_eq, Csv.records_mark_append (Results.no_mark_fileOf hlines hlast)]
        rfl
    rw [hrecords after hdamaged.plainLine.2, hrecords before hdamaged.plainLine.1,
      hdamaged.rows_eq hlast]

/-- Lines without a size, without a latency, with a latency that is no number and without any
operations, all within the bucket of one size. -/
theorem sizes_withstand_damage_in_bucket :
    let before := ["128,1000,10,2.5", "128,0,4,1e1", "256,8,2,3"]
    let after := ["128,1000,10,2.5", "x,1,1,1", "128,1000,10", "128,0,1,nan", "128,0,0,7", "",
      "128,0,4,1e1", "256,8,2,3"]
    Damaged .recoveryAccounted before after ∧ PlainLine "512,1,1,1" ∧
      '"' ∉ (fileOf after "").toList ∧ (fileOf after "").toList.getLast? = some '\n' ∧
      SizeRows.parse .recoveryAccounted (fileOf after "" ++ "512,1,1,1") =
        ⟨(SizeRows.parse .recoveryAccounted (fileOf after "")).rows ++
            (SizeRows.parse .recoveryAccounted "512,1,1,1").rows,
          (SizeRows.parse .recoveryAccounted (fileOf after "")).malformed +
            (SizeRows.parse .recoveryAccounted "512,1,1,1").malformed⟩ ∧
      SizeSeries.ofRows (SizeRows.parse .recoveryAccounted
        ("\ufeff" ++ fileOf after "512,1,1,1")).rows =
        SizeSeries.ofRows (SizeRows.parse .recoveryAccounted
          ("\ufeff" ++ fileOf before "512,1,1,1")).rows := by
  intro before after
  have hdamaged : Damaged .recoveryAccounted before after :=
    .keep (by decide) (.insert (by decide) (by decide +kernel) (.insert (by decide)
      (by decide +kernel) (.insert (by decide) (by decide +kernel) (.insert (by decide)
        (by decide +kernel) (.insert (by decide) (by decide +kernel)
          (.keep (by decide) (.keep (by decide) .nil)))))))
  have hlast : PlainLine "512,1,1,1" := by decide
  have hquote : '"' ∉ (fileOf after "").toList := by decide
  have hend : (fileOf after "").toList.getLast? = some '\n' := by decide
  obtain ⟨-, happend, hbuckets⟩ := sizes_withstand_damage .recoveryAccounted
  exact ⟨hdamaged, hlast, hquote, hend,
    happend (fileOf after "") "512,1,1,1" hquote (Or.inr hend) hlast.no_mark,
    hbuckets "\ufeff" "512,1,1,1" before after (Or.inr rfl) hlast hdamaged⟩

end BenchCharts.Series
