import TrafficBoard.Number.Rounding
import TrafficBoard.Table.Widths
import TrafficBoard.Text.Display
import TrafficBoard.Text.Line

/-!
# Grids

A grid draws rows of cells side by side in a region of a given inner width.
Every column but the last is followed by the spacing. Where the columns do not
fit together, each gives up an even share of the excess, rounded to whole
cells from left to right; the widths that a column cannot give are asked of the
next ones.

A row has as many lines as the cell with the most, and at least one. The header
stands at the bottom of its cells, the texts of other rows at the top. Rows are
drawn one after the other up to the number of lines that are shown, so a text
that cannot be cut does no harm behind them.
-/

namespace TrafficBoard.Grid

/-- The widths of the columns with the spacing that follows all but the last. -/
def spacedWidths (spacing : Int) : List Int → List Int
  | [] => []
  | [last] => [last]
  | width :: rest => (width + spacing) :: spacedWidths spacing rest

/-- A column limited to the width of the region. No width counts as one cell. -/
def limited (inner : Nat) (width : Int) : Int :=
  if inner = 0 then 1
  else
    let least := min width inner
    if least = 0 then 1 else least

/-- Columns that give up an excess in even shares. `count` columns that have a
width are still to come. -/
def giveUp (excess : Int) (count : Nat) : List Int → List Int
  | [] => []
  | width :: rest =>
      if width = 0 ∨ count = 0 then width :: giveUp excess count rest
      else
        let share := min width (divHalfEven excess.toNat count : Int)
        (width - share) :: giveUp (excess - share) (count - 1) rest

/-- A column after the excess is given up, never wider than it was meant to be. -/
def settled (full given : Int) : Nat := if given < 1 then 0 else (min full given).toNat

/-- The widths in which the columns are drawn. -/
def drawnWidths (inner : Nat) (spacing : Int) (widths : List Int) : List Nat :=
  let full := spacedWidths spacing widths
  let columns := full.map (limited inner)
  if totalWidth columns ≤ inner then columns.map Int.toNat
  else
    let count := (columns.filter (· ≠ 0)).length
    List.zipWith settled full (giveUp (totalWidth columns - inner) count columns)

/-- A cell as it is drawn: its width, with the spacing, and the lines of its text. -/
structure Cell where
  width : Nat
  lines : List Line
  deriving DecidableEq, Repr

/-- Where the text of a cell stands in a row that has more lines. -/
inductive Standing where
  | top
  | bottom
  deriving DecidableEq, Repr

/-- A line of text in a cell: the text cut or filled to the room for it, and the spacing. -/
def cellLine (style : Style) (spacing width : Nat) (text : List Char) :
    Except Text.CutError Line := do
  let room := width - spacing
  let shown ← Text.fit room text
  let filled ← Line.fit style room [⟨shown, style⟩]
  Line.fit style width (filled ++ [.blank style spacing])

/-- The cell of a column. There are no lines where there is no room for text. -/
def Cell.ofText (style : Style) (spacing width : Nat) (text : String) :
    Except Text.CutError Cell :=
  if width ≤ spacing then .ok ⟨width, []⟩
  else
    ((Text.displayLines text.toList).mapM (cellLine style spacing width)).map fun lines =>
      ⟨width, lines⟩

/-- The cells of a row, the last one without spacing. -/
def cells (style : Style) (spacing : Nat) :
    List Nat → List String → Except Text.CutError (List Cell)
  | [width], [text] => do
      let cell ← Cell.ofText style 0 width text
      return [cell]
  | width :: widths, text :: texts => do
      let cell ← Cell.ofText style spacing width text
      let others ← cells style spacing widths texts
      return cell :: others
  | _, _ => .ok []

/-- The lines of a cell and blank ones, as many as the row has. -/
def Cell.stand (style : Style) (standing : Standing) (height : Nat) (cell : Cell) : List Line :=
  let filling := List.replicate (height - cell.lines.length) [.blank style cell.width]
  match standing with
  | .top => cell.lines ++ filling
  | .bottom => filling ++ cell.lines

/-- The most lines that a cell has. -/
def textHeight : List Cell → Nat
  | [] => 0
  | cell :: rest => max cell.lines.length (textHeight rest)

/-- Columns of as many lines each, side by side. -/
def sideBySide (height : Nat) (columns : List (List Line)) : List Line :=
  columns.foldr (fun column rest => List.zipWith (· ++ ·) column rest) (List.replicate height [])

/-- The lines of cells side by side. Cells without text are one line of spaces. -/
def stack (style : Style) (standing : Standing) (cells : List Cell) : List Line :=
  match textHeight cells with
  | 0 => [cells.map fun cell => .blank .plain cell.width]
  | height => sideBySide height (cells.map (·.stand style standing height))

/-- A row of texts, and how it is drawn. -/
structure Row where
  style : Style
  standing : Standing
  texts : List String
  deriving DecidableEq, Repr

/-- The first lines of a list, all of them without a limit. -/
def upTo {α : Type} (limit : Option Nat) (lines : List α) : List α :=
  match limit with
  | some count => lines.take count
  | none => lines

/-- The lines of a row up to a limit, cut or filled to the width of the region. -/
def Row.lines (inner spacing : Nat) (widths : List Nat) (limit : Option Nat) (row : Row) :
    Except Text.CutError (List Line) := do
  let cells ← cells row.style spacing widths row.texts
  (upTo limit (stack row.style row.standing cells)).mapM (Line.fit .plain inner)

/-- The lines of rows up to a limit. A row behind it is not drawn. -/
def rowLines (inner spacing : Nat) (widths : List Nat) (limit : Option Nat) :
    List Row → Except Text.CutError (List Line)
  | [] => .ok []
  | row :: rest =>
      if limit = some 0 then .ok []
      else do
        let lines ← row.lines inner spacing widths limit
        let others ← rowLines inner spacing widths (limit.map (· - lines.length)) rest
        return lines ++ others

/-- The lines of a grid up to a limit, the header and then the rows. A region without
width has none. -/
def lines (inner : Nat) (spacing : Int) (widths : List Int) (header : Style)
    (names : List String) (rows : List (List String)) (limit : Option Nat) :
    Except Text.CutError (List Line) :=
  if inner = 0 then .ok []
  else
    rowLines inner spacing.toNat (drawnWidths inner spacing widths) limit
      (⟨header, .bottom, names⟩ :: rows.map fun texts => ⟨.plain, .top, texts⟩)

end TrafficBoard.Grid
