import BenchCharts.Csv
import BenchCharts.Decimal.Numeral
import BenchCharts.Quantity

/-!
The rows of a size sweep. A row gives a payload size and a latency; rows of one layout also give
the time spent in recovery, which is spread over the operations. A row that cannot be read, or
whose latency is not finite, is counted and left out.
-/
namespace BenchCharts.Results

structure SizeRow where
  size : Nat
  latency : Float
  deriving Repr, BEq

/-- The columns of a row. -/
inductive RowFormat
  /-- Size and latency. -/
  | plain
  /-- Size, recovery time in nanoseconds, number of operations and latency. -/
  | recoveryAccounted
  deriving DecidableEq, Repr, Inhabited

namespace RowFormat

def named : List (String × RowFormat) :=
  [("plain", plain), ("recovery_accounted", recoveryAccounted)]

def name : RowFormat → String
  | plain => "plain"
  | recoveryAccounted => "recovery_accounted"

theorem lookup_name (f : RowFormat) : named.lookup f.name = some f := by cases f <;> rfl

end RowFormat

def wholeCell (record : Csv.Record) (column : Nat) : Option Nat :=
  record[column]?.bind fun cell =>
    (Decimal.readNatural 10 Decimal.maxWord cell).toOption

def realCell (record : Csv.Record) (column : Nat) : Option Float :=
  (record[column]?.bind fun cell => (Decimal.readReal cell).toOption).filter Float.isFinite

namespace RowFormat

def readRow (format : RowFormat) (record : Csv.Record) : Option SizeRow :=
  match format with
  | plain => do
      let size ← wholeCell record 0
      let latency ← realCell record 1
      return ⟨size, latency⟩
  | recoveryAccounted => do
      let size ← wholeCell record 0
      let recovery ← wholeCell record 1
      let operations ← wholeCell record 2
      let latency ← realCell record 3
      if operations = 0 then none
      else
        let corrected := latency + wordToFloat recovery / wordToFloat operations
        if corrected.isFinite then return ⟨size, corrected⟩ else none

end RowFormat

structure SizeRows where
  rows : List SizeRow
  malformed : Nat
  deriving Repr

def SizeRows.ofRecords (format : RowFormat) (records : List Csv.Record) : SizeRows :=
  let read := records.map format.readRow
  ⟨read.filterMap id, (read.filter Option.isNone).length⟩

def SizeRows.parse (format : RowFormat) (text : String) : SizeRows :=
  ofRecords format (Csv.records text)

/-- Every record gives a row or is counted. -/
theorem SizeRows.length_add_malformed (format : RowFormat) (records : List Csv.Record) :
    (ofRecords format records).rows.length + (ofRecords format records).malformed =
      records.length := by
  induction records with
  | nil => rfl
  | cons r rest ih =>
    cases h : format.readRow r <;>
      simp only [ofRecords, List.map_cons, h, List.filterMap_cons, List.filter_cons, id,
        Option.isNone_none, Option.isNone_some, List.length_cons] at ih ⊢
    · simp only [if_true, List.length_cons]
      omega
    · simp only [Bool.false_eq_true, if_false]
      omega

theorem SizeRows.ofRecords_append (format : RowFormat) (left right : List Csv.Record) :
    ofRecords format (left ++ right) =
      ⟨(ofRecords format left).rows ++ (ofRecords format right).rows,
        (ofRecords format left).malformed + (ofRecords format right).malformed⟩ := by
  simp [ofRecords]

end BenchCharts.Results
