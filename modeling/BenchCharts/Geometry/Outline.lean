import BenchCharts.Quantity
import BenchCharts.Style.Marker

/-!
Shapes with a fixed form: the outlines of markers around their center, the stroke that marks a
broken axis, and the place of a bar within its group. A circle is a ring of sixteen corners, so
every marker is a polygon.
-/
namespace BenchCharts.Geometry

open Style (Marker)

section
variable {α : Type} [Quantity α]

/-- A quantity rounded to a pixel. -/
def toPixel (x : α) : Int := Quantity.round x

def pixelPoint (p : α × α) : Int × Int := (toPixel p.1, toPixel p.2)

end

def halfTurn : Float := 3.14159265358979323846

def quarterTurn : Float := 1.57079632679489661923

/-- Corners around the origin, starting at the top and going with the clock. -/
def ring (corners : Nat) (radius : Nat → Float) : List (Float × Float) :=
  (List.range corners).map fun i =>
    let angle := -quarterTurn + wordToFloat i * 2.0 * halfTurn / wordToFloat corners
    (radius i * angle.cos, radius i * angle.sin)

private def third : Float := 1.0 / 3.0

private def plusShape : List (Float × Float) :=
  [(-third, -1.0), (third, -1.0), (third, -third), (1.0, -third), (1.0, third), (third, third),
    (third, 1.0), (-third, 1.0), (-third, third), (-1.0, third), (-1.0, -third), (-third, -third)]

/-- The shape of a marker of radius one. -/
def unitShape : Marker → List (Float × Float)
  | .circle => ring 16 fun _ => 1.0
  | .triangleUp =>
      let h := Float.sqrt 3.0 / 2.0
      [(0.0, -1.0), (h, 0.5), (-h, 0.5)]
  | .triangleDown =>
      let h := Float.sqrt 3.0 / 2.0
      [(0.0, 1.0), (h, -0.5), (-h, -0.5)]
  | .square => [(-0.8, -0.8), (0.8, -0.8), (0.8, 0.8), (-0.8, 0.8)]
  | .star => ring 10 fun i => if i % 2 = 0 then 1.1 else 0.45
  | .plus => plusShape
  | .cross =>
      let turn : Float := 0.707106781186547524400844362104849039
      plusShape.map fun (x, y) => (turn * (x - y), turn * (x + y))

/-- The outline of a marker of a given diameter. -/
def markerOutline (marker : Marker) (size : Nat) : List (Int × Int) :=
  let radius := wordToFloat size / 2.0
  (unitShape marker).map fun (x, y) => (toPixel (x * radius), toPixel (y * radius))

section
variable {α : Type} [Quantity α]

/-- One stroke of the mark at a broken axis. -/
def breakMark (center : α × α) (size : α) : (α × α) × (α × α) :=
  let half := size / ((2 : Nat) : α)
  ((center.1 - size, center.2 + half), (center.1 + size, center.2 - half))

/-- How far the center of a bar lies from the center of its group. -/
def groupOffset (index count : Nat) (width : α) : α :=
  ((index : α) - ((count : α) - 1) / ((2 : Nat) : α)) * width

end

end BenchCharts.Geometry
