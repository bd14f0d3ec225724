import TrafficBoard.Table.Basic
import TrafficBoard.Table.Grid

/-!
# Panels

A table is drawn as a panel: a frame with the title in its upper edge around the
grid of the visible cells. A region too small for a frame and one line shows as
much of the title as fits.

A panel is as wide as its region, unless a longer title widens it on a terminal
that has the room. With a height given, the grid is cut or filled to the lines
between the edges. What is shown of a drawing is cut to the width of the terminal,
and a terminal without width shows nothing.
-/

namespace TrafficBoard

/-- A table as it is drawn: the lines of its title alone, or a panel. -/
inductive Drawing where
  | title (lines : List Line)
  | panel (lines : List Line)
  deriving Repr

namespace Drawing

/-- Lines without an empty last one behind others. -/
def dropLastEmpty (lines : List Line) : List Line :=
  match lines with
  | [_] => lines
  | _ => if lines.getLast?.any (·.characters.isEmpty) then lines.dropLast else lines

/-- The lines of a drawing. A line feed at the end of a title starts no line. -/
def lines : Drawing → List Line
  | .title lines => dropLastEmpty lines
  | .panel lines => lines

/-- The lines of a drawing as a terminal shows them. -/
def shownLines (terminal : Nat) (drawing : Drawing) : Except Text.CutError (List Line) :=
  if terminal = 0 then .ok [] else drawing.lines.mapM (Line.crop terminal)

/-- The lines that a drawing leaves behind, up to where the cursor stands: behind a
title, or in the line below a panel. -/
def printedLines : Drawing → List Line
  | .title lines => lines
  | .panel lines => lines ++ [[]]

/-- What a drawing leaves behind as a terminal shows it. -/
def shownPrint (terminal : Nat) (drawing : Drawing) : Except Text.CutError (List Line) :=
  if terminal = 0 then .ok [[]] else drawing.printedLines.mapM (Line.crop terminal)

/-- The least width of a panel. -/
def leastWidth : Int := 8

/-- The least height of a panel. -/
def leastHeight : Int := 3

/-- Whether a region has no room for a panel. -/
def isTooSmall (width : Int) (height : Option Int) : Bool :=
  width < leastWidth || height.any (· < leastHeight)

/-- The title in one line between the spaces that set it off in the edge, in parts that
are measured one by one: a title with tabs falls apart behind each of them. No title,
no spaces. -/
def titleParts (title : String) : List (List Char) :=
  match (Text.dropControls title.toList).map fun c => if c = '\n' then ' ' else c with
  | [] => []
  | text =>
      if text.contains '\t' then [' '] :: (Text.tabbedParts text ++ [[' ']])
      else [' ' :: (text ++ [' '])]

/-- The width between the sides of a panel with a title in the given parts. -/
def innerWidth (title : List (List Char)) (terminal width : Nat) : Nat :=
  let inner := min terminal width - 2
  if title.isEmpty then inner
  else min (terminal - 2) (max inner (Text.cells title.flatten + 2))

/-- A text in parts of the given lengths, as far as it reaches. -/
def splitAlong : List (List Char) → List Char → List (List Char)
  | [], _ => []
  | part :: rest, text =>
      if text.isEmpty then []
      else text.take part.length :: splitAlong rest (text.drop part.length)

/-- The upper edge, with the title if there is room for one cell of it. -/
def topEdge (theme : Theme) (title : List (List Char)) (inner : Nat) :
    Except Text.CutError Line :=
  let border := Style.colour theme.border
  if title.isEmpty ∨ inner ≤ 2 then
    .ok [⟨'┌' :: (List.replicate inner '─' ++ ['┐']), border⟩]
  else do
    let shown ← Text.crop (inner - 2) title.flatten
    let parts := (splitAlong title shown).map fun part => (⟨part, .bold theme.title⟩ : Run)
    let filling := List.replicate (inner - 2 - Text.cells shown) '─'
    return ⟨['┌', '─'], border⟩ :: (parts ++ [⟨filling ++ ['─', '┐'], border⟩])

/-- The lower edge. -/
def bottomEdge (theme : Theme) (inner : Nat) : Line :=
  [⟨'└' :: (List.replicate inner '─' ++ ['┘']), .colour theme.border⟩]

/-- A line between the sides of a panel. -/
def framed (theme : Theme) (line : Line) : Line :=
  let side : Run := ⟨['│'], .colour theme.border⟩
  side :: (line ++ [side])

/-- Lines cut or filled with blank ones to a number of lines. -/
def fitLines (inner count : Nat) (lines : List Line) : List Line :=
  lines.take count ++ List.replicate (count - lines.length) [.blank .plain inner]

/-- The number of lines between the edges of a panel of a height. -/
def bodyHeight (height : Option Int) : Option Nat := height.map fun height => (height - 2).toNat

/-- The lines between the edges of a panel. -/
def body (table : Table) (theme : Theme) (inner : Nat) (width : Int) (height : Option Int) :
    Except Text.CutError (List Line) := do
  let layout := table.layout width
  let grid ← Grid.lines inner layout.spacing layout.columns.widths (.bold theme.header)
    (table.visibleColumns width) (table.visibleRows width) (bodyHeight height)
  match bodyHeight height with
  | some count => return fitLines inner count grid
  | none => return grid

/-- The lines of a title that stands alone. -/
def titleLines (title : String) (terminal : Nat) : Except Text.CutError (List Line) :=
  (Text.displayLines title.toList).mapM fun line =>
    (Text.crop terminal line).map fun shown => [⟨shown, .plain⟩]

/-- The lines of a panel. -/
def panelLines (table : Table) (theme : Theme) (terminal : Nat) (width : Int)
    (height : Option Int) : Except Text.CutError (List Line) := do
  let title := titleParts table.title
  let inner := innerWidth title terminal width.toNat
  let body ← body table theme inner width height
  let top ← topEdge theme title inner
  return top :: (body.map (framed theme) ++ [bottomEdge theme inner])

end Drawing

/-- A table drawn for a region on a terminal of the given width. -/
def Table.draw (table : Table) (theme : Theme) (terminal : Nat) (width : Int)
    (height : Option Int) : Except Text.CutError Drawing :=
  if Drawing.isTooSmall width height then
    (Drawing.titleLines table.title terminal).map .title
  else (Drawing.panelLines table theme terminal width height).map .panel

/-- What drawing a table for a region tells the log. -/
def Table.drawNotes (table : Table) (width : Int) (height : Option Int) : List LogNote :=
  if Drawing.isTooSmall width height then [] else (table.choice width).notes width

end TrafficBoard
