/-!
Measures of a drawing in pixels: its size, and how thick lines, markers and letters are.
-/
namespace BenchCharts.Canvas

structure CanvasSize where
  width : Nat
  height : Nat
  deriving DecidableEq, Repr, Inhabited

structure Pen where
  lineWidth : Nat
  markerSize : Nat
  fontSize : Nat
  deriving DecidableEq, Repr

namespace Pen

def standard : Pen := ⟨3, 9, 16⟩

instance : Inhabited Pen := ⟨standard⟩

end Pen

end BenchCharts.Canvas
