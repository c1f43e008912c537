import BenchCharts.Geometry.Scale

/-!
The range that an axis takes from its data: from the least to the greatest position with a margin
of a twentieth of the span on both sides. Where all values fall together the margin is a twentieth
of the value but at least one half, and a tenth of a decade on a logarithmic axis.
-/
namespace BenchCharts.Geometry

section
variable {α : Type} [Analytic α]

/-- The least and the greatest of some values. -/
def extremes : List α → Option (α × α)
  | [] => none
  | v :: rest =>
      some (rest.foldl (fun (low, high) x =>
        (if x < low then x else low, if high < x then x else high)) (v, v))

def margin (scale : Scale) (low high : α) : α :=
  if low < high then (high - low) * 0.05
  else match scale with
    | .linear => Quantity.larger (Quantity.absolute low * 0.05) 0.5
    | .log => 0.1

def paddedExtent (scale : Scale) (values : List α) : Option (AxisRange α) :=
  (extremes (values.filterMap scale.position?)).map fun (low, high) =>
    let pad := margin scale low high
    ⟨scale.value (low - pad), scale.value (high + pad)⟩

theorem paddedExtent_eq_none_iff (scale : Scale) (values : List α) :
    paddedExtent scale values = none ↔ ∀ v ∈ values, scale.position? v = none := by
  simp only [paddedExtent, Option.map_eq_none_iff]
  constructor
  · intro h v hv
    cases hl : values.filterMap scale.position? with
    | nil => exact List.filterMap_eq_nil_iff.mp hl v hv
    | cons x rest => simp [hl, extremes] at h
  · intro h
    rw [List.filterMap_eq_nil_iff.mpr h]
    rfl

end

end BenchCharts.Geometry
