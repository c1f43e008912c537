import BenchCharts.Canvas.Element
import BenchCharts.Canvas.Size
import BenchCharts.Decimal.NumberForm

/-!
Drawings as SVG documents. Every element is on a line of its own, except that a text has a line
for its content between its tags. Nothing is written for an element that cannot be seen.
-/
namespace BenchCharts.Canvas

/-- The word for an anchor in a document. -/
def Anchor.name : Anchor → String
  | .start => "start"
  | .middle => "middle"
  | .finish => "end"

/-- How far the first line is moved down from its place. -/
def Level.shift : Level → String
  | .top => "0.76em"
  | .center => "0.5ex"
  | .bottom => "-0.5ex"

def Turn.degrees? : Turn → Option Nat
  | .none => Option.none
  | .quarter => some 90
  | .threeQuarters => some 270

namespace Svg

/-- Characters with a meaning in markup are written as entities. -/
def escaped (c : Char) : List Char :=
  if c = '<' then ['&', 'l', 't', ';']
  else if c = '>' then ['&', 'g', 't', ';']
  else if c = '&' then ['&', 'a', 'm', 'p', ';']
  else if c = '"' then ['&', 'q', 'u', 'o', 't', ';']
  else if c = '\'' then ['&', 'a', 'p', 'o', 's', ';']
  else [c]

def escape (s : String) : String := String.ofList (s.toList.flatMap escaped)

/-- Numbers are written without an exponent. -/
def number (x : Float) : String :=
  Decimal.NumberForm.write ⟨-400, 400, false, false, "NaN", "inf", "-inf"⟩ x

private def hexPair (n : Nat) : List Char :=
  [Nat.digitChar (n / 16 % 16), Nat.digitChar (n % 16)].map Char.toUpper

def color (c : Style.Color) : String :=
  String.ofList ('#' :: hexPair c.red ++ hexPair c.green ++ hexPair c.blue)

def assignment (a : String × String) : String := " " ++ a.1 ++ "=\"" ++ escape a.2 ++ "\""

/-- A tag that stays open. -/
def opening (name : String) (attributes : List (String × String)) : String :=
  "<" ++ name ++ String.join (attributes.map assignment) ++ ">\n"

/-- A tag that closes itself. -/
def closed (name : String) (attributes : List (String × String)) : String :=
  "<" ++ name ++ String.join (attributes.map assignment) ++ "/>\n"

def points (places : List Pixel) : String :=
  String.join (places.map fun (x, y) => toString x ++ "," ++ toString y ++ " ")

def textAttributes (place : Pixel) (style : TextStyle) : List (String × String) :=
  let turn := match style.turn.degrees? with
    | none => []
    | some degrees =>
        [("transform", "rotate(" ++ toString degrees ++ ", " ++ toString place.1 ++ ", " ++
          toString place.2 ++ ")")]
  [("x", toString place.1), ("y", toString place.2), ("dy", style.level.shift),
    ("text-anchor", style.anchor.name), ("font-family", "sans-serif"),
    ("font-size", number (wordToFloat style.size / 1.24)), ("opacity", "1"),
    ("fill", color .black)] ++ turn

def element : Element → String
  | .rectangle (x, y) (width, height) ink filled =>
      if ink.opacity == 0 then ""
      else
        let paint := color ink.color
        closed "rect" [("x", toString x), ("y", toString y), ("width", toString width),
          ("height", toString height), ("opacity", number ink.opacity),
          ("fill", if filled then paint else "none"),
          ("stroke", if filled then "none" else paint)]
  | .polyline places c width =>
      closed "polyline" [("fill", "none"), ("opacity", "1"), ("stroke", color c),
        ("stroke-width", toString width), ("points", points places)]
  | .polygon places c => closed "polygon" [("opacity", "1"), ("fill", color c),
      ("points", points places)]
  | .line (x1, y1) (x2, y2) c =>
      closed "line" [("opacity", "1"), ("stroke", color c), ("stroke-width", "1"),
        ("x1", toString x1), ("y1", toString y1), ("x2", toString x2), ("y2", toString y2)]
  | .circle (x, y) radius c filled =>
      closed "circle" [("cx", toString x), ("cy", toString y), ("r", toString radius),
        ("opacity", "1"), ("fill", if filled then color c else "none"),
        ("stroke", if filled then "none" else color c), ("stroke-width", "1")]
  | .text content place style =>
      opening "text" (textAttributes place style) ++ escape content ++ "\n</text>\n"

def document (size : CanvasSize) (elements : List Element) : String :=
  let width := toString size.width
  let height := toString size.height
  opening "svg" [("width", width), ("height", height),
    ("viewBox", "0 0 " ++ width ++ " " ++ height), ("xmlns", "http://www.w3.org/2000/svg")] ++
    String.join (elements.map element) ++ "</svg>\n"

theorem not_mem_escaped (c : Char) : '<' ∉ escaped c ∧ '"' ∉ escaped c := by
  unfold escaped
  split
  · decide
  · split
    · decide
    · split
      · decide
      · split
        · decide
        · split
          · decide
          · simp_all [eq_comm]

end Svg

end BenchCharts.Canvas
