/-!
Lines of a text. A line feed ends a line, a carriage return right before it belongs to the break,
and no empty line follows the last break.
-/
namespace BenchCharts.Text

/-- The pieces between line feeds; a text without one is a single piece. -/
def splitBreaks : List Char → List (List Char)
  | [] => [[]]
  | c :: rest =>
      if c = '\n' then [] :: splitBreaks rest
      else match splitBreaks rest with
        | [] => [[c]]
        | line :: lines => (c :: line) :: lines

private def dropReturn (line : List Char) : List Char :=
  match line.reverse with
  | '\r' :: rest => rest.reverse
  | _ => line

/-- The last piece is no line if it is empty, and keeps its carriage return otherwise. -/
private def closeLines : List (List Char) → List (List Char)
  | [] => []
  | [last] => if last.isEmpty then [] else [last]
  | line :: rest => dropReturn line :: closeLines rest

def lines (s : String) : List String :=
  (closeLines (splitBreaks s.toList)).map String.ofList

theorem splitBreaks_ne_nil (cs : List Char) : splitBreaks cs ≠ [] := by
  cases cs with
  | nil => simp [splitBreaks]
  | cons c rest =>
    simp only [splitBreaks]
    split
    · simp
    · split <;> simp

theorem lines_empty : lines "" = [] := rfl

end BenchCharts.Text
