import BenchCharts.Geometry.Clip
import BenchCharts.Style.Hatch

/-!
Hatching a rectangle. Lines and dots belong to one pattern over the whole plane, of which each
rectangle shows its part, so that neighbouring rectangles line up. A denser stroke has a
proportionally smaller distance between its lines.
-/
namespace BenchCharts.Geometry

open Style (Stroke)

/-- A rectangle in pixels. -/
structure PixelRect (α : Type) where
  left : α
  top : α
  right : α
  bottom : α
  deriving Repr

section
variable {α : Type}

/-- The rectangle with two given corners. -/
def PixelRect.spanning [Quantity α] (a b : Int × Int) : PixelRect α :=
  ⟨(min a.1 b.1 : Int), (min a.2 b.2 : Int), (max a.1 b.1 : Int), (max a.2 b.2 : Int)⟩

/-- Base distance between hatch lines. -/
def hatchSpacing [Quantity α] (density : Nat) : α := ((8 : Nat) : α) / ((max density 1 : Nat) : α)

/-- The whole numbers from `first` to `last`. -/
def wholeRange (first last : Int) : List Int :=
  (List.range (last - first + 1).toNat).map fun (n : Nat) => first + (n : Int)

theorem mem_wholeRange (first last k : Int) :
    k ∈ wholeRange first last ↔ first ≤ k ∧ k ≤ last := by
  simp only [wholeRange, List.mem_map, List.mem_range]
  constructor
  · rintro ⟨n, hn, rfl⟩
    omega
  · rintro ⟨hlow, hhigh⟩
    exact ⟨(k - first).toNat, by omega, by omega⟩

/-- The multiples of `step` from `low` to `high`. -/
def multiples [Quantity α] (low high step : α) : List α :=
  (wholeRange (Quantity.ceil (low / step)) (Quantity.floor (high / step))).map
    fun (k : Int) => (k : α) * step

/-- The lines of a stroke that may meet the rectangle. Forward lines keep the sum of their
coordinates and back lines the difference. -/
def hatchLines [Analytic α] (r : PixelRect α) (stroke : Stroke) (density : Nat) :
    List ((α × α) × (α × α)) :=
  let spacing : α := hatchSpacing density
  let diagonal := spacing * Analytic.sqrt ((2 : Nat) : α)
  match stroke with
  | .vertical => (multiples r.left r.right spacing).map fun x => ((x, r.top), (x, r.bottom))
  | .horizontal => (multiples r.top r.bottom spacing).map fun y => ((r.left, y), (r.right, y))
  | .forward =>
      (multiples (r.left + r.top) (r.right + r.bottom) diagonal).map fun c =>
        ((c - r.bottom, r.bottom), (c - r.top, r.top))
  | .back =>
      (multiples (r.top - r.right) (r.bottom - r.left) diagonal).map fun c =>
        ((r.left, r.left + c), (r.right, r.right + c))
  | .dots => []
  | .stars => []

/-- The part of each line inside the rectangle. -/
def hatchSegments [Analytic α] (r : PixelRect α) (stroke : Stroke) (density : Nat) :
    List ((α × α) × (α × α)) :=
  (hatchLines r stroke density).filterMap fun (a, b) =>
    (clipParameters a b (r.left, r.top) (r.right, r.bottom)).map fun (t0, t1) =>
      (along a b t0, along a b t1)

/-- Centers of dots or stars on a staggered grid: odd rows are shifted by half the distance. -/
def hatchPoints [Quantity α] (r : PixelRect α) (density : Nat) : List (α × α) :=
  let spacing : α := hatchSpacing density
  let rows := wholeRange (Quantity.ceil (r.top / spacing)) (Quantity.floor (r.bottom / spacing))
  rows.flatMap fun (row : Int) =>
    let offset : α := if row % 2 = 0 then 0 else spacing / ((2 : Nat) : α)
    let columns := wholeRange (Quantity.ceil ((r.left - offset) / spacing))
      (Quantity.floor ((r.right - offset) / spacing))
    columns.map fun (column : Int) => ((column : α) * spacing + offset, (row : α) * spacing)

end

end BenchCharts.Geometry
