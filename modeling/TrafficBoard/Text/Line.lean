import TrafficBoard.Text.Cells
import TrafficBoard.Theme

/-!
# Styled lines

A line of the terminal is a sequence of runs, each a text in one style. Lines
are cut and filled in cells like plain text, and keep the styles of what stays.
Each run is measured by itself: no joiner or selector reaches into the next one.
-/

namespace TrafficBoard

/-- A text in one style. -/
structure Run where
  text : List Char
  style : Style
  deriving DecidableEq, Repr

/-- The runs of a line from left to right. -/
abbrev Line := List Run

namespace Run

/-- The number of cells that a run takes. -/
def cells (run : Run) : Nat := Text.cells run.text

/-- A run cut to a number of cells. -/
def crop (width : Nat) (run : Run) : Except Text.CutError Run :=
  (Text.crop width run.text).map fun shown => ⟨shown, run.style⟩

/-- A run of spaces. -/
def blank (style : Style) (width : Nat) : Run := ⟨Text.blank width, style⟩

/-- Whether every character of a run takes its own cells. -/
def IsSeparate (run : Run) : Prop := Text.IsSeparate run.text

@[simp] theorem cells_blank (style : Style) (width : Nat) : (blank style width).cells = width :=
  Text.cells_blank width

end Run

namespace Line

/-- The number of cells that a line takes. -/
def cells : Line → Nat
  | [] => 0
  | run :: rest => run.cells + cells rest

/-- The characters of a line. -/
def characters (line : Line) : List Char := line.flatMap Run.text

/-- The text of a line. -/
def text (line : Line) : String := String.ofList line.characters

/-- The runs of a line in front of a width that the line reaches, the last one cut. -/
def cut (width : Nat) : Line → Except Text.CutError Line
  | [] => .ok []
  | run :: rest =>
      if run.cells < width then (cut (width - run.cells) rest).map (run :: ·)
      else (run.crop width).map fun last => [last]

/-- A line cut to a number of cells. -/
def crop (width : Nat) (line : Line) : Except Text.CutError Line :=
  if cells line ≤ width then .ok line else cut width line

/-- A line cut or filled with spaces of a style to a number of cells. -/
def fit (style : Style) (width : Nat) (line : Line) : Except Text.CutError Line :=
  if cells line < width then .ok (line ++ [.blank style (width - cells line)])
  else crop width line

/-- A line in which neighbours of one style are a single run, and no run is empty. -/
def merged (line : Line) : Line :=
  line.foldr
    (fun run rest =>
      if run.text.isEmpty then rest
      else
        match rest with
        | next :: more =>
            if run.style = next.style then ⟨run.text ++ next.text, run.style⟩ :: more
            else run :: rest
        | [] => [run])
    []

@[simp] theorem cells_nil : cells [] = 0 := rfl

@[simp] theorem cells_cons (run : Run) (line : Line) :
    cells (run :: line) = run.cells + cells line := rfl

@[simp] theorem cells_append (line other : Line) :
    cells (line ++ other) = cells line + cells other := by
  induction line with
  | nil => simp
  | cons run rest ih => simp [ih, Nat.add_assoc]

/-- Whether every character of a line takes its own cells. -/
def IsSeparate (line : Line) : Prop := ∀ run ∈ line, run.IsSeparate

/-- The cells of such a line are those of its characters. -/
theorem cells_characters_of_isSeparate {line : Line} (separate : line.IsSeparate) :
    Text.cells line.characters = line.cells := by
  have all : ∀ runs : Line, runs.IsSeparate → Text.IsSeparate runs.characters ∧
      Text.separateCells runs.characters = runs.cells := by
    intro runs
    induction runs with
    | nil => intro _; exact ⟨by simp [characters, Text.IsSeparate], rfl⟩
    | cons run rest ih =>
        intro separate
        have first : Text.IsSeparate run.text := separate run (by simp)
        obtain ⟨others, total⟩ := ih fun other member => separate other (by simp [member])
        refine ⟨Text.isSeparate_append.2 ⟨first, others⟩, ?_⟩
        change Text.separateCells (run.text ++ characters rest) = _
        rw [Text.separateCells_append, total, cells_cons, Run.cells,
          Text.cells_of_isSeparate first]
  obtain ⟨joined, total⟩ := all line separate
  rw [Text.cells_of_isSeparate joined, total]

end Line

end TrafficBoard
