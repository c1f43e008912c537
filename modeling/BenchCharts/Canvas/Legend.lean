import BenchCharts.Canvas.Dash
import BenchCharts.Canvas.Patch

/-!
Legends. The entries stand below one another in the upper left corner of an area, each with a
swatch before its label, and the box around them is as wide as the widest label demands.
-/
namespace BenchCharts.Canvas

open Style (Color)

inductive Swatch
  /-- A piece of a line with a marker on its middle. The outline is the one around the origin. -/
  | line (color : Color) (width : Nat) (dash : Nat × Nat) (outline : List Pixel)
  | patch (look : Patch)
  deriving Repr

structure LegendEntry where
  label : String
  swatch : Swatch
  deriving Repr

/-- The length of the line in a swatch. -/
def swatchLength : Nat := 24

namespace Swatch

/-- The swatch at a place relative to an area. -/
def elements (s : Swatch) (a : Area) (p : Pixel) : Sketch (List Element) := do
  match s with
  | .line color width (dash, gap) outline =>
      let outline ← Patch.moved outline ((swatchLength / 2 : Nat), 0)
      let p ← a.place p
      let dashes := dashed dash gap [p, (← fit (p.1 + swatchLength), p.2)]
      return dashes.map (fun places => .polyline places color width) ++
        [.polygon (← Patch.moved outline p) color]
  | .patch look =>
      let upperLeft ← a.place (p.1, ← fit (p.2 - 6))
      look.elements upperLeft (← a.place (← fit (p.1 + 18), ← fit (p.2 + 6)))

end Swatch

namespace Legend

/-- The box of a legend stands this far from the corner. -/
def distance : Int := 5

/-- The room between the box and what is in it. -/
def padding : Int := 10

/-- The room for swatches. -/
def swatchRoom : Int := 30

/-- The top of a line in a block of text whose first line is at `top`. -/
def lineTop (fontSize : Nat) (top : Int) (i : Nat) : Int :=
  Geometry.toPixel (Float.ofInt top + wordToFloat i * (wordToFloat fontSize * 1.25))

/-- The bottom of such a line. -/
def lineBottom (fontSize : Nat) (top : Int) (i : Nat) : Sketch Int := do
  fit (lineTop fontSize top i + (← textHeight fontSize))

/-- Width and height of the labels. -/
def extent (fontSize : Nat) (labels : List String) : Sketch (Int × Int) :=
  labels.zipIdx.foldlM (fun (w, h) (label, i) =>
    return (max w (textWidth fontSize label), max h (← lineBottom fontSize 0 i))) (0, 0)

/-- The box around the labels, in a thin frame over a veil. -/
def frame (a : Area) (labels : Int × Int) : Sketch (List Element) := do
  let width ← fit (labels.1 + swatchRoom + 2 * padding)
  let height ← fit (labels.2 + 2 * padding)
  let upperLeft ← a.place (distance, distance)
  let lowerRight ← a.place (← fit (distance + width), ← fit (distance + height))
  [(Ink.veil, true), (Ink.black, false)].mapM fun (ink, filled) =>
    box upperLeft lowerRight ink filled

/-- The labels below a place of the canvas. -/
def labels (p : Pixel) (entries : List LegendEntry) (fontSize : Nat) : List Element :=
  entries.mapIdx fun i entry =>
    .text entry.label (p.1, lineTop fontSize p.2 i) ⟨fontSize, .start, .top, .none⟩

/-- The swatches beside the labels, each at half the height of its line. -/
def swatches (a : Area) (entries : List LegendEntry) (fontSize : Nat) : Sketch (List Element) :=
  entries.zipIdx.flatMapM fun (entry, i) => do
    let top := lineTop fontSize (distance + padding) i
    let ends ← fit (top + (← lineBottom fontSize (distance + padding) i))
    entry.swatch.elements a (distance + padding, ends.tdiv 2)

def elements (a : Area) (entries : List LegendEntry) (fontSize : Nat) (framed : Bool) :
    Sketch (List Element) := do
  let around ← frame a (← extent fontSize (entries.map (·.label)))
  let first ← a.place (distance + swatchRoom + padding, distance + padding)
  let beside ← swatches a entries fontSize
  return (if framed then around else []) ++ (labels first entries fontSize ++ beside)

end Legend

end BenchCharts.Canvas
