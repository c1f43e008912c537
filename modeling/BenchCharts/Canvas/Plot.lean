import BenchCharts.Canvas.Area
import BenchCharts.Canvas.TickLabel
import BenchCharts.Canvas.Ticks

/-!
Plots: two axes over a part of an area, with room for their labels around it. On an area that is
too small for the room set apart, the plot is left with nothing, and labels also stand on its far
sides.
-/
namespace BenchCharts.Canvas


/-- The sides of a plot, in the order in which they are drawn. -/
inductive Side
  | above
  | left
  | below
  | right
  deriving DecidableEq, Repr

def Side.all : List Side := [above, left, below, right]

/-- The x axis runs along this side. -/
def Side.isLevel : Side → Bool
  | above => true
  | below => true
  | left => false
  | right => false

structure Plot where
  x : Axis
  y : Axis
  area : Area
  above : Area
  left : Area
  below : Area
  right : Area
  deriving Repr

/-- What is kept free around a plot. -/
structure Surroundings where
  margins : Margins
  leftLabels : Nat
  lowerLabels : Nat
  deriving Repr

namespace Plot

/-- The edges of the plot and of its labels stay in order where there is not enough room. -/
def layout (root : Area) (s : Surroundings) (x y : Axis) : Sketch Plot := do
  let inner ← root.shrink s.margins
  let right ← fit (inner.left + s.leftLabels)
  let bottom ← fit ((← fit ((← inner.height) - s.lowerLabels)) + inner.top)
  let x0 := min inner.left inner.right
  let x1 := min inner.right right
  let x2 := max inner.left inner.right
  let x3 := max inner.right right
  let y0 := min inner.top bottom
  let y1 := min inner.top inner.bottom
  let y2 := max inner.top bottom
  let y3 := max inner.top inner.bottom
  return { x, y
           area := ⟨x1, y1, x2, y2⟩
           above := ⟨x1, y0, x2, y1⟩
           left := ⟨x0, y1, x1, y2⟩
           below := ⟨x1, y2, x2, y3⟩
           right := ⟨x2, y1, x3, y2⟩ }

/-- The pixels at which the x axis starts and ends. -/
def xLimits (p : Plot) : Sketch (Int × Int) := return (p.area.left, ← fit (p.area.right - 1))

/-- The pixels at which the y axis starts and ends; it runs upwards. -/
def yLimits (p : Plot) : Sketch (Int × Int) := return (← fit (p.area.bottom - 1), p.area.top)

/-- The pixel of a point, wherever it lies. -/
def pixel (p : Plot) (v : Float × Float) : Sketch Pixel :=
  return (← p.x.pixel (← p.xLimits) v.1, ← p.y.pixel (← p.yLimits) v.2)

/-- The pixel of a point, moved to the edge of the plot from outside. -/
def place (p : Plot) (v : Float × Float) : Sketch Pixel := return p.area.clamp (← p.pixel v)

/-- The room for labels at a side, if there is any. -/
def labelArea? (p : Plot) (side : Side) : Sketch (Option Area) := do
  let a := match side with
    | .above => p.above
    | .left => p.left
    | .below => p.below
    | .right => p.right
  return if (← a.width) = 0 ∨ (← a.height) = 0 then none else some a

/-- The length of tick marks. -/
def tickLength (p : Plot) : Sketch Int :=
  return min 5 (Geometry.toPixel (0.05 * Float.ofInt (min (← p.area.width) (← p.area.height))))

end Plot

/-- What is written along the axes of a plot. An axis that shows no ticks is not drawn, while its
description still is. -/
structure Mesh where
  xTicks : Option Nat
  yTicks : Nat
  xDescription : Option String
  yDescription : Option String
  fontSize : Nat
  deriving Repr

/-- A tick by its pixel along the axis, and its label. -/
abbrev Tick := Int × String

namespace Plot

def ticksOf (axis : Axis) (limits : Int × Int) (most : Nat) : Sketch (List Tick) :=
  (axis.ticks most).mapM fun v => return (← axis.pixel limits v, tickLabel v)

/-- The first pixel of the plot along a side. -/
def origin (p : Plot) (side : Side) : Int := if side.isLevel then p.area.left else p.area.top

/-- The least and the greatest pixel of an axis, relative to the plot. -/
def axisSpan (p : Plot) (side : Side) : Sketch (Int × Int) := do
  let limits ← if side.isLevel then p.xLimits else p.yLimits
  let start ← fit (limits.1 - p.origin side)
  let finish ← fit (limits.2 - p.origin side)
  return (min start finish, max start finish)

def axisLine (p : Plot) (side : Side) (a : Area) : Sketch Element := do
  let (low, high) ← p.axisSpan side
  let right ← fit ((← a.width) - 1)
  let bottom ← fit ((← a.height) - 1)
  let places := match side with
    | .above => [(low, bottom), (high, bottom)]
    | .left => [(right, low), (right, high)]
    | .below => [(low, 0), (high, 0)]
    | .right => [(0, low), (0, high)]
  return .polyline (← places.mapM a.place) .black 1

/-- Labels on the right are aligned at their right ends, unless some are much longer. -/
def alignment (fontSize : Nat) (ticks : List Tick) : Sketch Int := do
  let widths := ticks.map fun t => textWidth fontSize t.2
  let least := max ((widths.min?).getD 1) 1
  let most ← fit (least * 2)
  return min most (((widths.filter (· < most)).max?).getD least)

/-- The place of a label relative to the room for labels, and its anchor. -/
def labelPlace (side : Side) (a : Area) (fontSize : Nat) (ticks : List Tick) (label : String)
    (along length : Int) : Sketch (Pixel × Anchor × Level) := do
  let away ← fit (length * 2)
  match side with
  | .above => return ((along, ← fit ((← a.height) - away)), .middle, .bottom)
  | .left => return ((← fit ((← a.width) - away), along), .finish, .center)
  | .below => return ((along, away), .middle, .top)
  | .right =>
      let align ← alignment fontSize ticks
      if align ≤ textWidth fontSize label then return ((away, along), .start, .center)
      else return ((← fit (away + align), along), .finish, .center)

def tickMark (side : Side) (a : Area) (along length : Int) : Sketch (List Pixel) := do
  let right ← fit ((← a.width) - 1)
  let bottom ← fit ((← a.height) - 1)
  match side with
  | .above => return [(along, ← fit (bottom - length)), (along, bottom)]
  | .left => return [(← fit (right - length), along), (right, along)]
  | .below => return [(along, 0), (along, length)]
  | .right => return [(0, along), (length, along)]

/-- A tick within the span of its axis, with its mark if marks have a length. -/
def tickElements (p : Plot) (side : Side) (a : Area) (fontSize : Nat) (ticks : List Tick)
    (tick : Tick) : Sketch (List Element) := do
  let along ← fit (tick.1 - p.origin side)
  let (low, high) ← p.axisSpan side
  if along < low ∨ high < along then return []
  else
    let length ← p.tickLength
    let (place, anchor, level) ← labelPlace side a fontSize ticks tick.2 along length
    let label := .text tick.2 (← a.offset place) ⟨fontSize, anchor, level, .none⟩
    let mark ← (← tickMark side a along length).mapM a.place
    return label :: if length = 0 then [] else [.polyline mark .black 1]

def axisElements (p : Plot) (mesh : Mesh) (side : Side) (a : Area) : Sketch (List Element) := do
  let draw (axis : Axis) (limits : Int × Int) (most : Nat) : Sketch (List Element) := do
    let ticks ← ticksOf axis limits most
    let line ← p.axisLine side a
    return line :: (← ticks.flatMapM (p.tickElements side a mesh.fontSize ticks))
  if side.isLevel then
    match mesh.xTicks with
    | none => return []
    | some most => draw p.x (← p.xLimits) most
  else draw p.y (← p.yLimits) mesh.yTicks

/-- The description of the axis at a side; those at the left and the right are turned. -/
def descriptionElements (mesh : Mesh) (side : Side) (a : Area) : Sketch (List Element) := do
  let width ← a.width
  let height ← a.height
  let description := if side.isLevel then mesh.xDescription else mesh.yDescription
  let (place, level, turn) : Pixel × Level × Turn := match side with
    | .above => ((width.tdiv 2, 0), .top, .none)
    | .left => ((0, height.tdiv 2), .top, .threeQuarters)
    | .below => ((width.tdiv 2, height), .bottom, .none)
    | .right => ((width, height.tdiv 2), .top, .quarter)
  description.toList.mapM fun s =>
    return .text s (← a.offset place) ⟨mesh.fontSize, .middle, level, turn⟩

def meshElements (p : Plot) (mesh : Mesh) : Sketch (List Element) := do
  let sides ← Side.all.flatMapM fun side =>
    return ((← p.labelArea? side).map fun a => (side, a)).toList
  let descriptions ← sides.flatMapM fun (side, a) => descriptionElements mesh side a
  return descriptions ++ (← sides.flatMapM fun (side, a) => p.axisElements mesh side a)

/-- A thin line through points of the plot. -/
def outline (p : Plot) (points : List (Float × Float)) : Sketch Element :=
  return .polyline (← points.mapM p.place) .black 1

/-- A box around everything that the axes span. -/
def frame (p : Plot) : Sketch Element :=
  let x := p.x.range
  let y := p.y.range
  p.outline [(x.min, y.min), (x.max, y.min), (x.max, y.max), (x.min, y.max), (x.min, y.min)]

end Plot

end BenchCharts.Canvas
