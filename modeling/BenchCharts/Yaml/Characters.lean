/-!
Characters of a markup text. A line ends at a line feed, a carriage return, both of them together
or one of three more characters; all of these count as line feeds, except the separators of lines
and paragraphs, which are kept as they are. Control characters are not allowed anywhere.
-/
namespace BenchCharts.Yaml

def isSeparator (c : Char) : Bool := c = '\u2028' || c = '\u2029'

/-- Ends a line once the breaks of a text are uniform. -/
def isBreak (c : Char) : Bool := c = '\n' || isSeparator c

def isBlank (c : Char) : Bool := c = ' ' || c = '\t'

/-- Letters of names of directives, handles and anchors. -/
def isNameChar (c : Char) : Bool := c.isAlphanum || c = '_' || c = '-'

def isAllowed (c : Char) : Bool :=
  let n := c.toNat
  n = 0x9 || n = 0xA || n = 0xD || (0x20 ≤ n && n ≤ 0x7E) || n = 0x85 ||
    (0xA0 ≤ n && n ≤ 0xFFFD) || 0x10000 ≤ n

/-- One line feed for each break that is no separator. -/
def uniformBreaks : List Char → List Char
  | [] => []
  | '\r' :: '\n' :: rest => '\n' :: uniformBreaks rest
  | c :: rest => (if c = '\r' ∨ c = '\x85' then '\n' else c) :: uniformBreaks rest

/-- Nothing, or a blank or a break, comes next. -/
def atWordEnd : List Char → Bool
  | [] => true
  | c :: _ => isBlank c || isBreak c

/-- Nothing or a break comes next. -/
def atLineEnd : List Char → Bool
  | [] => true
  | c :: _ => isBreak c

/-- Three hyphens or three dots on their own, which at the start of a line bound a document. -/
def atDocumentMark (cs : List Char) : Bool :=
  (cs.take 3 = ['-', '-', '-'] || cs.take 3 = ['.', '.', '.']) && atWordEnd (cs.drop 3)

theorem uniformBreaks_cons_of_ne (c : Char) (rest : List Char) (hr : c ≠ '\r') (hn : c ≠ '\x85') :
    uniformBreaks (c :: rest) = c :: uniformBreaks rest := by
  cases rest with
  | nil => simp [uniformBreaks, hr, hn]
  | cons d rest => rw [uniformBreaks] <;> simp [hr, hn]

end BenchCharts.Yaml
