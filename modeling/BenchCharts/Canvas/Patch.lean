import BenchCharts.Canvas.Area
import BenchCharts.Geometry.Hatching
import BenchCharts.Text.Lines

/-!
Composed elements: hatched rectangles, the marks at a broken axis, labels under a place and
descriptions that read upwards.
-/
namespace BenchCharts.Canvas

open BenchCharts.Geometry (PixelRect)
open Style (Color Hatch Stroke)

/-- The looks of a rectangle. The hatch is drawn in the color of the edge, or in black. -/
structure Patch where
  fill : Option Color
  hatch : Hatch
  edge : Option Color
  deriving Repr

namespace Patch

/-- A shape moved to a place. -/
def moved (shape : List Pixel) (p : Pixel) : Sketch (List Pixel) :=
  shape.mapM fun (dx, dy) => return (← fit (p.1 + dx), ← fit (p.2 + dy))

def strokeElements (r : PixelRect Float) (ink : Color) (stroke : Stroke) (density : Nat) :
    Sketch (List Element) :=
  match stroke with
  | .dots =>
      return (Geometry.hatchPoints r density).map fun p =>
        .circle (Geometry.pixelPoint p) 1 ink true
  | .stars =>
      (Geometry.hatchPoints r density).mapM fun p =>
        return .polygon (← moved (Geometry.markerOutline .star 5) (Geometry.pixelPoint p)) ink
  | stroke =>
      return (Geometry.hatchSegments r stroke density).map fun (p, q) =>
        .line (Geometry.pixelPoint p) (Geometry.pixelPoint q) ink

/-- The rectangle between two places of the canvas. -/
def elements (patch : Patch) (a b : Pixel) : Sketch (List Element) := do
  let r : PixelRect Float := .spanning a b
  let side (color : Option Color) (filled : Bool) : Sketch (List Element) :=
    color.toList.mapM fun c => box (Geometry.pixelPoint (r.left, r.top))
      (Geometry.pixelPoint (r.right, r.bottom)) (.solid c) filled
  let fill ← side patch.fill true
  let hatch ← patch.hatch.strokes.flatMapM fun (stroke, density) =>
    strokeElements r (patch.edge.getD .black) stroke density
  return fill ++ hatch ++ (← side patch.edge false)

end Patch

/-- A line through places of the canvas, cut off at the edges of an area. -/
def pathOn (a : Area) (places : List Pixel) : Sketch Element :=
  return .polyline (← places.mapM fun p => do a.place (← a.relative p)) .black 1

/-- The marks at both ends of an edge where an axis is broken. -/
def breakMarks (a : Area) (left right : Int) (y : Int) : Sketch (List Element) :=
  [left, right].mapM fun x =>
    let (p, q) := Geometry.breakMark (Float.ofInt x, Float.ofInt y) 6.0
    pathOn a [Geometry.pixelPoint p, Geometry.pixelPoint q]

/-- The distance of lines in a label. -/
def lineHeight (fontSize : Nat) : Int := Geometry.toPixel (wordToFloat fontSize * 1.2)

/-- A label of several lines, centered under a place of the canvas. -/
def labelBelow (a : Area) (label : String) (p : Pixel) (fontSize : Nat) :
    Sketch (List Element) := do
  let (x, y) ← a.relative p
  (Text.lines label).zipIdx.mapM fun (line, i) => do
    let first ← fit (y + 6)
    let below ← fit ((i : Int) * lineHeight fontSize)
    let place ← a.place (x, ← fit (first + below))
    return .text line place ⟨fontSize, .middle, .top, .none⟩

/-- A description that reads upwards, centered on a place of the area. -/
def verticalText (a : Area) (description : String) (p : Pixel) (fontSize : Nat) : Sketch Element :=
  return .text description (← a.place p) ⟨fontSize, .middle, .center, .threeQuarters⟩

end BenchCharts.Canvas
