import BenchCharts.Canvas.Sketch
import BenchCharts.Geometry.Outline
import BenchCharts.Style.Color

/-!
Elements of a drawing. Places are whole pixels, counted to the right and downwards from the upper
left corner, and later elements are painted over earlier ones. Texts are black and have a place
that their anchor refers to.
-/
namespace BenchCharts.Canvas

open Style (Color)

abbrev Pixel := Int × Int

/-- A color with an opacity from zero to one. -/
structure Ink where
  color : Color
  opacity : Float
  deriving Repr

namespace Ink

def solid (color : Color) : Ink := ⟨color, 1.0⟩

def black : Ink := solid .black

/-- White that leaves a fifth of what lies under it. -/
def veil : Ink := ⟨.white, 0.8⟩

end Ink

/-- The part of a line of text that stands at its place. -/
inductive Anchor
  | start
  | middle
  | finish
  deriving DecidableEq, Repr

/-- The height of a line of text that stands at its place. -/
inductive Level
  | top
  | center
  | bottom
  deriving DecidableEq, Repr

/-- How far a text is turned around its place, with the clock. -/
inductive Turn
  | none
  | quarter
  | threeQuarters
  deriving DecidableEq, Repr

structure TextStyle where
  size : Nat
  anchor : Anchor
  level : Level
  turn : Turn
  deriving DecidableEq, Repr

inductive Element
  | rectangle (upperLeft : Pixel) (extent : Int × Int) (ink : Ink) (filled : Bool)
  | polyline (points : List Pixel) (color : Color) (width : Nat)
  | polygon (points : List Pixel) (color : Color)
  | line (first last : Pixel) (color : Color)
  | circle (center : Pixel) (radius : Nat) (color : Color) (filled : Bool)
  | text (content : String) (place : Pixel) (style : TextStyle)
  deriving Repr

/-- The width of a letter's square, from which the measures of a text are estimated. -/
private def letter (size : Nat) : Float := wordToFloat size / 1.24 / 1.24

/-- The width of a line of text, estimated from its length in bytes. -/
def textWidth (size : Nat) (content : String) : Int :=
  Geometry.toPixel (letter size * 0.7 * wordToFloat content.utf8ByteSize)

/-- The height of a line of text, from a little below its base line to the top of its letters. -/
def textHeight (size : Nat) : Sketch Int :=
  fit (Geometry.toPixel (letter size * 0.24) - Geometry.toPixel (-letter size))

end BenchCharts.Canvas
