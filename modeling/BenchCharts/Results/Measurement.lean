import BenchCharts.Results.Configuration
import BenchCharts.Yaml.Reading

/-!
The record that one trial leaves behind. A load trial records its throughput and the mean latency of
its inserts, a run trial its throughput alone; everything else in the record is passed over. Values
that are not finite are refused.
-/
namespace BenchCharts.Results

open Format (DecodeError Decoded Field Source)

structure Measurement where
  /-- Operations per second. -/
  throughput : Float
  /-- Mean latency of an insert in microseconds. -/
  latency : Option Float
  deriving DecidableEq, Repr

inductive MeasurementError
  | undecodable (phase : TrialPhase) (cause : DecodeError)
  | notFinite (name : String) (value : Float)
  deriving Repr

/-- The word for a value that is infinite or no number. -/
def nonFiniteWord (x : Float) : String :=
  if x.isNaN then "NaN" else if x < 0 then "-inf" else "inf"

def MeasurementError.message : MeasurementError → String
  | undecodable phase cause => "decoding " ++ phase.name ++ " record YAML: " ++ cause.message
  | notFinite name value => name ++ " is not a finite number: " ++ nonFiniteWord value

namespace Measurement

section
variable {ν : Type} [Source ν]

def latencyFields : List (Field ν Float) :=
  [.of "avg" Source.real fun _ value => value]

def throughputField : Field ν Measurement :=
  .of "throughput" Source.real fun m value => { m with throughput := value }

def insertField : Field ν Measurement :=
  .of "INSERT" (Format.readRecord latencyFields .ignore 0) fun m value =>
    { m with latency := some value }

def read (phase : TrialPhase) (node : ν) : Decoded Measurement :=
  let fields := match phase with
    | .load => [throughputField, insertField]
    | .run => [throughputField]
  Format.readRecord fields .ignore ⟨0, none⟩ node

end

/-- The first value that is not finite. -/
def check (m : Measurement) : Except MeasurementError Measurement :=
  if !m.throughput.isFinite then .error (.notFinite "throughput" m.throughput)
  else match m.latency with
    | some latency =>
        if latency.isFinite then .ok m else .error (.notFinite "INSERT.avg" latency)
    | none => .ok m

def parse (phase : TrialPhase) (text : String) : Except MeasurementError Measurement :=
  match Yaml.decode (read phase) text with
  | .error cause => .error (.undecodable phase cause)
  | .ok m => m.check

theorem isFinite_of_check (m n : Measurement) (h : m.check = .ok n) :
    n.throughput.isFinite = true ∧
      ∀ latency, n.latency = some latency → latency.isFinite = true := by
  unfold check at h
  split at h
  · simp at h
  · next hfinite =>
    split at h
    · split at h
      · simp only [Except.ok.injEq] at h
        subst h
        simp_all
      · simp at h
    · simp only [Except.ok.injEq] at h
      subst h
      simp_all

end Measurement

end BenchCharts.Results
