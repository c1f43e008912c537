import BenchCharts.Chart.Document
import BenchCharts.Proofs.Traversal

/-!
What the labels of lines add to a document. A letter occurs in a document as often as in all its
elements together. The legend names every line that is drawn, so a line more is seen in the document
if its label has a letter that does not occur in an empty legend.
-/
namespace BenchCharts.Chart

open Canvas (Area CanvasSize Element LegendEntry Pen Sketch)
open BenchCharts.Geometry (Window)

/-- How often a letter occurs in what is written for some elements. -/
def letters (letter : Char) (elements : List Element) : Nat :=
  (String.join (elements.map Canvas.Svg.element)).toList.count letter

variable {letter : Char}

theorem letters_append (letter : Char) (left right : List Element) :
    letters letter (left ++ right) = letters letter left + letters letter right := by
  unfold letters
  rw [List.map_append, String.join_append, String.toList_append, List.count_append]

theorem letters_le_of_mem {e : Element} {elements : List Element} (h : e ∈ elements) :
    letters letter [e] ≤ letters letter elements := by
  obtain ⟨before, after, rfl⟩ := List.append_of_mem h
  have hsplit : before ++ e :: after = before ++ ([e] ++ after) := rfl
  rw [hsplit, letters_append, letters_append]
  omega

/-- Documents of one size differ in their elements only. -/
theorem count_document (letter : Char) (size : CanvasSize) (elements elements' : List Element) :
    (document size elements).toList.count letter + letters letter elements' =
      (document size elements').toList.count letter + letters letter elements := by
  unfold document Canvas.Svg.document letters
  simp only [List.map_cons, String.join_cons, String.toList_append, List.count_append]
  omega

/-- The label of an entry is written in full. -/
theorem count_label_le (letter : Char) (a : Area) {entries : List LegendEntry}
    {entry : LegendEntry} (h : entry ∈ entries) (fontSize : Nat) (framed : Bool) :
    (Canvas.Svg.escape entry.label).toList.count letter ≤
      letters letter (Canvas.Legend.elements a entries fontSize framed).unlimited := by
  obtain ⟨i, hi, rfl⟩ := List.mem_iff_getElem.mp h
  have hlabel : ∃ place style, Element.text entries[i].label place style ∈
      (Canvas.Legend.elements a entries fontSize framed).unlimited := by
    unfold Canvas.Legend.elements
    simp only [Sketch.unlimited_bind, Sketch.unlimited_pure]
    exact ⟨_, _, List.mem_append_right _
      (List.mem_append_left _ (List.mem_mapIdx.mpr ⟨i, hi, rfl⟩))⟩
  obtain ⟨place, style, hmem⟩ := hlabel
  refine Nat.le_trans ?_ (letters_le_of_mem hmem)
  unfold letters
  simp only [List.map_cons, List.map_nil, String.join_cons, String.join_nil, Canvas.Svg.element,
    String.toList_append, List.count_append]
  omega

namespace BrokenAxis

def withLines (c : BrokenAxis) (lines : List StyledLine) : BrokenAxis := { c with lines }

theorem xAxis_withLines {c : BrokenAxis} (h : c.xRange.isSome = true) (lines : List StyledLine) :
    (c.withLines lines).xAxis = c.xAxis := by
  obtain ⟨r, hr⟩ := Option.isSome_iff_exists.mp h
  have hlines : (c.withLines lines).xRange = some r := hr
  unfold xAxis shownRange
  rw [hr, hlines]
  rfl

/-- Lines that leave the x axis as it is change nothing else but the legend. -/
theorem elements_withLines {c : BrokenAxis} {lines : List StyledLine}
    (haxis : (c.withLines lines).xAxis = c.xAxis) (size : CanvasSize) (pen : Pen) (height : Nat) :
    (c.withLines lines).elements size pen height = do
      let panels ← c.panels size height
      let meshes ← c.meshElements pen panels
      let drawn ← (c.withLines lines).drawn.flatMapM (c.lineElements pen panels)
      let legend ← Canvas.Legend.elements panels.upper.area ((c.withLines lines).legend pen)
        pen.fontSize true
      return meshes ++ drawn ++ legend ++ (← c.closing size pen panels) := by
  have hpanels : (c.withLines lines).panels size height = c.panels size height := by
    unfold panels
    rw [haxis]
    rfl
  have hwindow : ∀ y, (c.withLines lines).window y = c.window y := by
    intro y
    have hrange := congrArg Canvas.Axis.range haxis
    unfold window
    exact congrArg (fun x => (⟨x, c.xScale, y, .linear⟩ : Window Float)) hrange
  have hlines (p : Panels) :
      (c.withLines lines).lineElements pen p = c.lineElements pen p := by
    funext l
    unfold lineElements
    rw [hwindow, hwindow]
    rfl
  unfold elements
  rw [hpanels]
  simp only [hlines]
  rfl

/-- The area with the legend, where the canvas is split at a height. -/
def legendArea (c : BrokenAxis) (size : CanvasSize) (height : Nat) : Area :=
  (c.panels size height).unlimited.upper.area

/-- With a range of its own the chart consists of its lines, the legend, and what is the same for
all lines. -/
theorem exists_elements_eq (c : BrokenAxis) (hrange : c.xRange.isSome = true) (size : CanvasSize)
    (pen : Pen) (height : Nat) :
    ∃ first last : List Element, ∀ lines : List StyledLine, ∃ drawn : List Element,
      (lines = [] → drawn = []) ∧
      ((c.withLines lines).elements size pen height).unlimited = first ++ drawn ++
        (Canvas.Legend.elements (c.legendArea size height) ((c.withLines lines).legend pen)
          pen.fontSize true).unlimited ++ last := by
  unfold legendArea
  obtain ⟨panels, hpanels⟩ : ∃ p, (c.panels size height).unlimited = p := ⟨_, rfl⟩
  rw [hpanels]
  refine ⟨(c.meshElements pen panels).unlimited, (c.closing size pen panels).unlimited, ?_⟩
  intro lines
  refine ⟨((c.withLines lines).drawn.flatMapM (c.lineElements pen panels)).unlimited, ?_, ?_⟩
  · rintro rfl
    rfl
  · rw [elements_withLines (xAxis_withLines hrange lines)]
    simp only [Sketch.unlimited_bind, Sketch.unlimited_pure, hpanels]

/-- One line more can be told from its label. -/
theorem document_ne (c : BrokenAxis) (hrange : c.xRange.isSome = true) {size : CanvasSize}
    {height : Nat} {pen : Pen} {l : StyledLine} (hprimary : l.style.isPrimary = true)
    {letter : Char} (hlabel : 0 < (Canvas.Svg.escape l.label).toList.count letter)
    (hempty : letters letter
      (Canvas.Legend.elements (c.legendArea size height) [] pen.fontSize true).unlimited = 0) :
    document size ((c.withLines []).elements size pen height).unlimited ≠
      document size ((c.withLines [l]).elements size pen height).unlimited := by
  obtain ⟨first, last, hall⟩ := exists_elements_eq c hrange size pen height
  obtain ⟨drawn, hdrawn, hnone⟩ := hall []
  obtain ⟨drawn', -, hone⟩ := hall [l]
  have hnothing : (c.withLines []).legend pen = [] := rfl
  have hlegend : (c.withLines [l]).legend pen = [l.legendEntry pen] := by
    unfold legend BrokenAxis.drawn withLines
    simp [hprimary]
  have hcount := count_label_le letter (c.legendArea size height)
    (List.mem_singleton_self (l.legendEntry pen)) pen.fontSize true
  rw [hnone, hdrawn rfl, hnothing, hone, hlegend]
  intro heq
  have hdocuments := count_document letter size
    (first ++ [] ++ (Canvas.Legend.elements (c.legendArea size height) []
      pen.fontSize true).unlimited ++ last)
    (first ++ drawn' ++ (Canvas.Legend.elements (c.legendArea size height)
      [l.legendEntry pen] pen.fontSize true).unlimited ++ last)
  rw [heq] at hdocuments
  simp only [letters_append, hempty] at hdocuments
  have hlabel' : 0 < (Canvas.Svg.escape (l.legendEntry pen).label).toList.count letter := hlabel
  have hnil : letters letter [] = 0 := rfl
  omega

end BrokenAxis

variable {size : CanvasSize} {pen : Pen} {height : Nat}

theorem elements_broken {c : BrokenAxis} {drawn : List Element}
    (hheight : BrokenAxis.splitHeight size.height = .ok height)
    (h : (c.elements size pen height).checked = some drawn) :
    elements (.broken c) size pen = .ok drawn := by
  unfold elements sketch
  refine (bind_eq_ok_iff _).mpr ⟨c.elements size pen height, ?_, ?_⟩
  · rw [hheight]
    rfl
  · rw [h]
    rfl

theorem unlimited_broken (c : BrokenAxis)
    (hheight : BrokenAxis.splitHeight size.height = .ok height) :
    unlimited (.broken c) size pen = .ok (c.elements size pen height).unlimited := by
  unfold unlimited sketch
  rw [hheight]
  rfl

end BenchCharts.Chart
