import BenchCharts.Canvas.Sketch
import BenchCharts.Canvas.Element
import BenchCharts.Canvas.Size

/-!
Rectangular parts of a canvas. A place relative to an area counts from its upper left corner.
What is drawn on an area is moved to its nearest edge where it would lie outside.
-/
namespace BenchCharts.Canvas


structure Area where
  left : Int
  top : Int
  right : Int
  bottom : Int
  deriving DecidableEq, Repr

/-- A length as a signed number of 32 bits. -/
def toLength (n : Nat) : Int := (n : Int).bmod UInt32.size

/-- Distances from the four edges. -/
structure Margins where
  top : Nat
  bottom : Nat
  left : Nat
  right : Nat
  deriving DecidableEq, Repr

def Margins.all (n : Nat) : Margins := ⟨n, n, n, n⟩

/-- A box with two given corners. -/
def box (p q : Pixel) (ink : Ink) (filled : Bool) : Sketch Element := do
  let upperLeft := (min p.1 q.1, min p.2 q.2)
  let width ← fit (max p.1 q.1 - upperLeft.1)
  let height ← fit (max p.2 q.2 - upperLeft.2)
  return .rectangle upperLeft (width, height) ink filled

namespace Area

def ofSize (size : CanvasSize) : Area := ⟨0, 0, toLength size.width, toLength size.height⟩

/-- The nearest place that is not outside. -/
def clamp (a : Area) (p : Pixel) : Pixel :=
  (max (min p.1 a.right) a.left, max (min p.2 a.bottom) a.top)

def width (a : Area) : Sketch Int := fit (a.right - a.left)

def height (a : Area) : Sketch Int := fit (a.bottom - a.top)

/-- A place relative to the area, wherever it is. -/
def offset (a : Area) (p : Pixel) : Sketch Pixel :=
  return (← fit (p.1 + a.left), ← fit (p.2 + a.top))

/-- A place relative to the area, moved to its edge from outside. -/
def place (a : Area) (p : Pixel) : Sketch Pixel := return a.clamp (← a.offset p)

/-- A place of the canvas relative to the area. -/
def relative (a : Area) (p : Pixel) : Sketch Pixel :=
  return (← fit (p.1 - a.left), ← fit (p.2 - a.top))

def shrink (a : Area) (margins : Margins) : Sketch Area := do
  let pixels (n : Nat) : Int := max 0 (toLength n)
  return ⟨← fit (a.left + pixels margins.left), ← fit (a.top + pixels margins.top),
    ← fit (a.right - pixels margins.right), ← fit (a.bottom - pixels margins.bottom)⟩

/-- The parts above and below a line that lies `height` under the upper edge. -/
def splitBelow (a : Area) (height : Nat) : Sketch (Area × Area) := do
  let middle ← fit (a.top + toLength height)
  return (⟨a.left, a.top, a.right, middle⟩, ⟨a.left, middle, a.right, a.bottom⟩)

/-- The parts on the two sides of a line that lies `width` right of the left edge. -/
def splitBeside (a : Area) (width : Nat) : Sketch (Area × Area) := do
  let middle ← fit (a.left + toLength width)
  return (⟨a.left, a.top, middle, a.bottom⟩, ⟨middle, a.top, a.right, a.bottom⟩)

/-- The left edge of the column at an index; the first columns take the pixels left over. A width
below zero is taken for a number of 64 bits without a sign. -/
def columnEdge (a : Area) (columns index : Nat) : Sketch Int := do
  let size := ((← a.width) % UInt64.size).toNat
  let whole ← fit ((index : Int) * toLength (size / columns))
  let below ← fit (a.left + whole)
  fit (below + (min index (size % columns) : Nat))

/-- Equal columns from left to right. -/
def columns (a : Area) (count : Nat) : Sketch (List Area) :=
  (List.range count).mapM fun i =>
    return ⟨← a.columnEdge count i, a.top, ← a.columnEdge count (i + 1), a.bottom⟩

theorem clamp_inside (a : Area) (p : Pixel) (hx : a.left ≤ a.right) (hy : a.top ≤ a.bottom) :
    a.left ≤ (a.clamp p).1 ∧ (a.clamp p).1 ≤ a.right ∧ a.top ≤ (a.clamp p).2 ∧
      (a.clamp p).2 ≤ a.bottom := by
  simp only [clamp]
  omega

end Area

/-- The whole canvas in white. -/
def background (size : CanvasSize) : Element :=
  .rectangle (0, 0) (toLength size.width, toLength size.height) (.solid .white) true

end BenchCharts.Canvas
