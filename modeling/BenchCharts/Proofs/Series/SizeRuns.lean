import Mathlib.Algebra.Ring.Nat
import Mathlib.Data.List.SplitBy
import BenchCharts.Series.SizeBuckets

/-!
Buckets are the runs of a size sweep. The rows fall into maximal runs of one size, in one way only.
The scan holds the open run and closes it where the next one starts, so its buckets are those of
the runs with finite latencies, in order.
-/
namespace BenchCharts.Series

open Results (SizeRow)

/-- The maximal runs of rows of one size. -/
structure SizeRuns (rows : List SizeRow) (runs : List (List SizeRow)) : Prop where
  flatten_eq : runs.flatten = rows
  ne_nil : ∀ run ∈ runs, run ≠ []
  one_size : ∀ run ∈ runs, ∀ a ∈ run, ∀ b ∈ run, a.size = b.size
  maximal : runs.IsChain fun run next => ∀ a ∈ run, ∀ b ∈ next, a.size ≠ b.size

def hasFiniteLatencies (run : List SizeRow) : Bool := run.all (·.latency.isFinite)

/-- What a bucket says about a run of rows. -/
structure Summarises (run : List SizeRow) (bucket : SizeBucket) : Prop where
  size_eq : ∀ row ∈ run, row.size = bucket.size
  rows_eq : bucket.rows = run.length
  latency_eq : bucket.latency = (run.map (·.latency)).foldl (· + ·) (-0) / wordToFloat run.length

def sameSize (a b : SizeRow) : Bool := a.size = b.size

theorem isChain_sameSize_iff (run : List SizeRow) :
    run.IsChain (fun a b => sameSize a b) ↔ ∀ a ∈ run, ∀ b ∈ run, a.size = b.size := by
  simp only [sameSize, decide_eq_true_eq]
  have htrans : IsTrans SizeRow fun a b => a.size = b.size := ⟨fun _ _ _ => Eq.trans⟩
  have hsymm : Std.Symm fun a b : SizeRow => a.size = b.size := ⟨fun _ _ => Eq.symm⟩
  rw [List.isChain_iff_pairwise]
  exact ⟨List.Pairwise.forall_of_forall fun _ _ => rfl, List.pairwise_of_forall_mem_list⟩

namespace SizeRuns

variable {rows : List SizeRow} {run : List SizeRow} {runs : List (List SizeRow)}

theorem tail (h : SizeRuns rows (run :: runs)) : SizeRuns runs.flatten runs where
  flatten_eq := rfl
  ne_nil other hother := h.ne_nil other (List.mem_cons_of_mem run hother)
  one_size other hother := h.one_size other (List.mem_cons_of_mem run hother)
  maximal := h.maximal.tail

/-- Runs of one size are apart if the last row of one and the first row of the next one are. -/
theorem apart_iff {run next : List SizeRow} (hrun : run ≠ []) (hnext : next ≠ [])
    (hsize : ∀ a ∈ run, ∀ b ∈ run, a.size = b.size)
    (hsize' : ∀ a ∈ next, ∀ b ∈ next, a.size = b.size) :
    (∃ hrun hnext, sameSize (run.getLast hrun) (next.head hnext) = false) ↔
      ∀ a ∈ run, ∀ b ∈ next, a.size ≠ b.size := by
  simp only [sameSize, decide_eq_false_iff_not]
  constructor
  · rintro ⟨_, _, hapart⟩ a ha b hb
    rw [hsize a ha _ (List.getLast_mem hrun), hsize' b hb _ (List.head_mem hnext)]
    exact hapart
  · intro hapart
    exact ⟨hrun, hnext, hapart _ (List.getLast_mem hrun) _ (List.head_mem hnext)⟩

theorem iff_splitBy : SizeRuns rows runs ↔ rows.splitBy sameSize = runs := by
  rw [List.splitBy_eq_iff]
  simp only [isChain_sameSize_iff]
  constructor
  · intro h
    refine ⟨h.flatten_eq.symm, fun hnil => h.ne_nil [] hnil rfl, h.one_size, ?_⟩
    refine h.maximal.imp_of_mem_imp fun run next hrun hnext => ?_
    exact (apart_iff (h.ne_nil run hrun) (h.ne_nil next hnext) (h.one_size run hrun)
      (h.one_size next hnext)).mpr
  · rintro ⟨hflatten, hnil, hsize, hmaximal⟩
    have hne : ∀ run ∈ runs, run ≠ [] := fun run hrun heq => hnil (heq ▸ hrun)
    refine ⟨hflatten.symm, hne, hsize, ?_⟩
    refine hmaximal.imp_of_mem_imp fun run next hrun hnext => ?_
    exact (apart_iff (hne run hrun) (hne next hnext) (hsize run hrun) (hsize next hnext)).mp

end SizeRuns

namespace SizeScan

/-- The bucket of a run of one size. -/
def bucketOfRun? (run : List SizeRow) : Option SizeBucket :=
  run.head?.bind fun row => bucketOf? row.size (run.map (·.latency))

theorem bucketOfRun?_eq_some_iff {run : List SizeRow} (hne : run ≠ [])
    (hsize : ∀ a ∈ run, ∀ b ∈ run, a.size = b.size) (bucket : SizeBucket) :
    bucketOfRun? run = some bucket ↔
      (∀ row ∈ run, row.latency.isFinite = true) ∧ Summarises run bucket := by
  obtain ⟨row, rest, rfl⟩ := List.exists_cons_of_ne_nil hne
  have hmean := mean?_eq_some_iff ((row :: rest).map (·.latency))
  simp only [bucketOfRun?, List.head?_cons, Option.bind_some, bucketOf?, Option.map_eq_some_iff,
    hmean]
  constructor
  · rintro ⟨m, ⟨⟨-, hfinite⟩, rfl⟩, rfl⟩
    refine ⟨List.forall_mem_map.mp hfinite, ?_, by simp, by simp; rfl⟩
    exact fun other hother => hsize other hother row List.mem_cons_self
  · rintro ⟨hfinite, hbucket⟩
    refine ⟨bucket.latency, ⟨⟨by simp, List.forall_mem_map.mpr hfinite⟩, ?_⟩, ?_⟩
    · rw [hbucket.latency_eq, List.length_map]
      rfl
    · obtain ⟨size, latency, count⟩ := bucket
      simpa using ⟨hbucket.size_eq row List.mem_cons_self, hbucket.rows_eq.symm⟩

theorem exists_bucketOfRun? {run : List SizeRow} (hne : run ≠ [])
    (hsize : ∀ a ∈ run, ∀ b ∈ run, a.size = b.size) (hfinite : hasFiniteLatencies run = true) :
    ∃ bucket, bucketOfRun? run = some bucket := by
  refine ⟨⟨(run.head hne).size, total (run.map (·.latency)) / wordToFloat run.length,
    run.length⟩, (bucketOfRun?_eq_some_iff hne hsize _).mpr ⟨List.all_eq_true.mp hfinite, ?_⟩⟩
  exact ⟨fun row hrow => hsize row hrow _ (List.head_mem hne), rfl, rfl⟩

/-- The next row starts another run. -/
def Parts (s : SizeScan) (row : SizeRow) : Prop := ∀ reading ∈ s.current, reading.1 ≠ row.size

theorem push_of_parts {s : SizeScan} {row : SizeRow} (h : s.Parts row) :
    s.push row = ⟨some (row.size, [row.latency]), s.close⟩ := by
  obtain ⟨_ | ⟨size, latencies⟩, closed⟩ := s
  · rfl
  · exact if_neg (h (size, latencies) rfl)

theorem foldl_push_of_size {size : Nat} {run : List SizeRow} (h : ∀ row ∈ run, row.size = size)
    (latencies : List Float) (closed : List SizeBucket) :
    run.foldl push ⟨some (size, latencies), closed⟩ =
      ⟨some (size, (run.map (·.latency)).reverse ++ latencies), closed⟩ := by
  induction run generalizing latencies with
  | nil => rfl
  | cons row rest ih =>
    rw [List.forall_mem_cons] at h
    have hpush : push ⟨some (size, latencies), closed⟩ row =
        ⟨some (size, row.latency :: latencies), closed⟩ := if_pos h.1.symm
    rw [List.foldl_cons, hpush, ih h.2]
    simp

/-- Reading a whole run closes the one before it and leaves this one open. -/
theorem foldl_push_run {s : SizeScan} {row : SizeRow} {rest : List SizeRow} (h : s.Parts row)
    (hsize : ∀ other ∈ rest, other.size = row.size) :
    (row :: rest).foldl push s =
      ⟨some (row.size, ((row :: rest).map (·.latency)).reverse), s.close⟩ := by
  rw [List.foldl_cons, push_of_parts h, foldl_push_of_size hsize]
  simp

/-- Reading whole runs adds their buckets. -/
theorem close_foldl_push {s : SizeScan} {runs : List (List SizeRow)}
    (h : SizeRuns runs.flatten runs) (hparts : ∀ run ∈ runs.head?, ∀ row ∈ run, s.Parts row) :
    (runs.flatten.foldl push s).close = (runs.filterMap bucketOfRun?).reverse ++ s.close := by
  induction runs generalizing s with
  | nil => simp
  | cons run runs ih =>
    obtain ⟨row, rest, rfl⟩ := List.exists_cons_of_ne_nil (h.ne_nil run List.mem_cons_self)
    have hsize : ∀ other ∈ rest, other.size = row.size := fun other hother =>
      h.one_size _ List.mem_cons_self other (List.mem_cons_of_mem row hother) row List.mem_cons_self
    rw [List.flatten_cons, List.foldl_append,
      foldl_push_run (hparts _ rfl row List.mem_cons_self) hsize, ih h.tail]
    · simp only [close, List.reverse_reverse, List.filterMap_cons, bucketOfRun?, List.head?_cons,
        Option.bind_some]
      cases bucketOf? row.size ((row :: rest).map (·.latency)) <;> simp
    · intro next hnext other hother reading hreading
      obtain rfl := Option.some.inj hreading
      exact h.maximal.rel_head? hnext row List.mem_cons_self other hother

end SizeScan

/-- The buckets are those of the runs that have one, in order. -/
theorem SizeRuns.buckets_eq {rows : List SizeRow} {runs : List (List SizeRow)}
    (h : SizeRuns rows runs) :
    (SizeSeries.ofRows rows).buckets = runs.filterMap SizeScan.bucketOfRun? := by
  obtain rfl := h.flatten_eq
  have hclose := SizeScan.close_foldl_push (s := .start) h
    fun run hrun row hrow => by simp [SizeScan.Parts, SizeScan.start]
  simp only [SizeSeries.ofRows, SizeScan.finish, hclose]
  simp [SizeScan.start, SizeScan.close]

/-- Every run with finite latencies has its bucket, and no other run has one. -/
theorem SizeRuns.summarised {rows : List SizeRow} {runs : List (List SizeRow)}
    (h : SizeRuns rows runs) :
    List.Forall₂ Summarises (runs.filter hasFiniteLatencies) (SizeSeries.ofRows rows).buckets := by
  rw [h.buckets_eq]
  have hne := h.ne_nil
  have hsize := h.one_size
  clear h
  induction runs with
  | nil => exact .nil
  | cons run runs ih =>
    rw [List.forall_mem_cons] at hne hsize
    have hbucket := SizeScan.bucketOfRun?_eq_some_iff hne.1 hsize.1
    rw [List.filterMap_cons]
    by_cases hfinite : hasFiniteLatencies run = true
    · obtain ⟨bucket, hsome⟩ := SizeScan.exists_bucketOfRun? hne.1 hsize.1 hfinite
      rw [List.filter_cons_of_pos hfinite, hsome]
      exact .cons ((hbucket bucket).mp hsome).2 (ih hne.2 hsize.2)
    · have hnone : SizeScan.bucketOfRun? run = none := by
        rw [Option.eq_none_iff_forall_ne_some]
        intro bucket hsome
        exact hfinite (List.all_eq_true.mpr ((hbucket bucket).mp hsome).1)
      rw [List.filter_cons_of_neg hfinite, hnone]
      exact ih hne.2 hsize.2

theorem SizeRuns.filter_eq {rows : List SizeRow} {runs : List (List SizeRow)}
    (h : SizeRuns rows runs) (hfinite : ∀ row ∈ rows, row.latency.isFinite = true) :
    runs.filter hasFiniteLatencies = runs := by
  rw [List.filter_eq_self]
  intro run hrun
  refine List.all_eq_true.mpr fun row hrow => hfinite row ?_
  rw [← h.flatten_eq]
  exact List.mem_flatten.mpr ⟨run, hrun, hrow⟩

/-- Buckets that summarise all runs count every row once. -/
theorem sum_rows_of_summarised {runs : List (List SizeRow)} {buckets : List SizeBucket}
    (h : List.Forall₂ Summarises runs buckets) :
    (buckets.map (·.rows)).sum = runs.flatten.length := by
  induction h with
  | nil => rfl
  | cons hbucket _ ih => simp [hbucket.rows_eq, ih]

/-- Neighbouring buckets have different sizes where neighbouring runs have. -/
theorem isChain_size_of_summarised {runs : List (List SizeRow)} {buckets : List SizeBucket}
    (h : List.Forall₂ Summarises runs buckets) (hne : ∀ run ∈ runs, run ≠ [])
    (hmaximal : runs.IsChain fun run next => ∀ a ∈ run, ∀ b ∈ next, a.size ≠ b.size) :
    buckets.IsChain fun bucket next => bucket.size ≠ next.size := by
  induction h with
  | nil => exact .nil
  | @cons run bucket runs buckets hbucket hrest ih =>
    rw [List.forall_mem_cons] at hne
    refine List.isChain_cons.mpr ⟨?_, ih hne.2 hmaximal.tail⟩
    intro next hnext
    cases hrest with
    | nil => simp at hnext
    | @cons other _ _ _ hother _ =>
      obtain rfl := Option.some.inj hnext
      obtain ⟨a, ha⟩ := List.exists_mem_of_ne_nil run hne.1
      obtain ⟨b, hb⟩ := List.exists_mem_of_ne_nil other (hne.2 other List.mem_cons_self)
      rw [← hbucket.size_eq a ha, ← hother.size_eq b hb]
      exact hmaximal.rel_head? rfl a ha b hb

/-- Where no run goes across a split, both sides have their own buckets. -/
theorem buckets_append {left right : List SizeRow}
    (h : ∀ a ∈ left.getLast?, ∀ b ∈ right.head?, a.size ≠ b.size) :
    (SizeSeries.ofRows (left ++ right)).buckets =
      (SizeSeries.ofRows left).buckets ++ (SizeSeries.ofRows right).buckets := by
  have hruns : ∀ rows, SizeRuns rows (rows.splitBy sameSize) := fun _ =>
    SizeRuns.iff_splitBy.mpr rfl
  have happend : (left ++ right).splitBy sameSize =
      left.splitBy sameSize ++ right.splitBy sameSize :=
    List.splitBy_append fun a ha b hb => decide_eq_false (h a ha b hb)
  rw [(hruns (left ++ right)).buckets_eq, (hruns left).buckets_eq, (hruns right).buckets_eq,
    happend, List.filterMap_append]

/-- Buckets are run-length grouping. The rows have one division into maximal runs of one size, and
the buckets are in order those of the runs without a latency that is not finite. So where all
latencies are finite, every row is counted once, and neighbouring buckets have different sizes. The
buckets of a list are those of its two parts, unless the split cuts a run. -/
theorem buckets_group_runs (rows : List SizeRow) :
    ∃ runs, (∀ others, SizeRuns rows others ↔ others = runs) ∧
      List.Forall₂ Summarises (runs.filter hasFiniteLatencies) (SizeSeries.ofRows rows).buckets ∧
      ((∀ row ∈ rows, row.latency.isFinite = true) →
        List.Forall₂ Summarises runs (SizeSeries.ofRows rows).buckets ∧
        ((SizeSeries.ofRows rows).buckets.map (·.rows)).sum = rows.length ∧
        (SizeSeries.ofRows rows).buckets.IsChain fun bucket next => bucket.size ≠ next.size) ∧
      ∀ left right, left ++ right = rows →
        (∀ a ∈ left.getLast?, ∀ b ∈ right.head?, a.size ≠ b.size) →
        (SizeSeries.ofRows rows).buckets =
          (SizeSeries.ofRows left).buckets ++ (SizeSeries.ofRows right).buckets := by
  have hruns : SizeRuns rows (rows.splitBy sameSize) := SizeRuns.iff_splitBy.mpr rfl
  refine ⟨rows.splitBy sameSize, ?_, hruns.summarised, ?_, ?_⟩
  · intro others
    rw [SizeRuns.iff_splitBy, eq_comm]
  · intro hfinite
    have hsummarised := hruns.summarised
    rw [hruns.filter_eq hfinite] at hsummarised
    refine ⟨hsummarised, ?_, isChain_size_of_summarised hsummarised hruns.ne_nil hruns.maximal⟩
    rw [sum_rows_of_summarised hsummarised, hruns.flatten_eq]
  · rintro left right rfl h
    exact buckets_append h

/-- A size whose rows are all finite, then one that is not, then the first size again. -/
theorem buckets_group_runs_interleaved :
    let left : List SizeRow := [⟨100, 5⟩, ⟨100, 7⟩]
    let right : List SizeRow := [⟨200, 1⟩, ⟨200, 0 / 0⟩, ⟨100, 4⟩]
    (∀ a ∈ left.getLast?, ∀ b ∈ right.head?, a.size ≠ b.size) ∧
      (SizeSeries.ofRows (left ++ right)).buckets =
        (SizeSeries.ofRows left).buckets ++ (SizeSeries.ofRows right).buckets ∧
      (∀ row ∈ left, row.latency.isFinite = true) ∧
      ((SizeSeries.ofRows left).buckets.map (·.rows)).sum = 2 := by
  intro left right
  have hsplit : ∀ a ∈ left.getLast?, ∀ b ∈ right.head?, a.size ≠ b.size := by simp [left, right]
  have hfinite : ∀ row ∈ left, row.latency.isFinite = true := by decide +kernel
  obtain ⟨-, -, -, -, happend⟩ := buckets_group_runs (left ++ right)
  obtain ⟨runs, -, -, hcounts, -⟩ := buckets_group_runs left
  exact ⟨hsplit, happend left right rfl hsplit, hfinite, (hcounts hfinite).2.1⟩

end BenchCharts.Series
