import TrafficBoard.Text.Cells
import TrafficBoard.Text.Pieces

/-!
# Lines on display

A text is displayed as one line or several. Controls that would ring the bell or
move the cursor are dropped, line feeds start new lines, and tabs reach to the
next tab stop.
-/

namespace TrafficBoard.Text

/-- Whether a character is a control that is never displayed: the bell, the backspace,
the vertical tab, the form feed or the carriage return. -/
def isDropped (c : Char) : Bool := ['\x07', '\x08', '\x0b', '\x0c', '\x0d'].contains c

/-- A text without the controls that are never displayed. -/
def dropControls (text : List Char) : List Char := text.filter fun c => !isDropped c

/-- The number of cells between tab stops. -/
def tabWidth : Nat := 8

/-- A text that starts at a tab stop and is followed by a tab, filled with at least one
space up to a tab stop. -/
def toTabStop (text : List Char) : List Char :=
  let spaced := text ++ [' ']
  spaced ++ blank ((tabWidth - cells spaced % tabWidth) % tabWidth)

/-- Texts with a tab between each two of them, filled up to their tab stops. Nothing
stands for an empty last one. -/
def toTabStops : List (List Char) → List (List Char)
  | [] => []
  | [last] => if last.isEmpty then [] else [last]
  | text :: rest => toTabStop text :: toTabStops rest

/-- The parts of a text with spaces in the place of its tabs; a part ends behind each. -/
def tabbedParts (text : List Char) : List (List Char) := toTabStops (pieces '\t' text)

/-- A text with spaces in the place of its tabs. -/
def expandTabs (text : List Char) : List Char := (tabbedParts text).flatten

/-- The lines in which a text is displayed. -/
def displayLines (text : List Char) : List (List Char) :=
  (pieces '\n' (dropControls text)).map expandTabs

/-- A text without tabs stays as it is. -/
theorem expandTabs_of_not_mem {text : List Char} (absent : '\t' ∉ text) :
    expandTabs text = text := by
  cases text <;> simp [expandTabs, tabbedParts, pieces_of_not_mem absent, toTabStops]

/-- A text without line feeds is displayed in one line. -/
theorem length_displayLines_of_not_mem {text : List Char} (absent : '\n' ∉ text) :
    (displayLines text).length = 1 := by
  have none : '\n' ∉ dropControls text := fun member => absent (List.mem_filter.1 member).1
  simp [displayLines, pieces_of_not_mem none]

end TrafficBoard.Text
