import TrafficBoard.Log
import TrafficBoard.Table.Widths

/-!
# Column layouts

A table shows two, three or four of its columns; with two, the second column is
the one left out. Each width of the terminal has a layout of its own: the one
of the greatest breakpoint strictly below the width, or of the least breakpoint
where none is below. The width that the columns leave over is divided evenly
between them.
-/

namespace TrafficBoard

/-- How many columns a layout shows. -/
inductive ColumnCount where
  | two
  | three
  | four
  deriving DecidableEq, Repr

namespace ColumnCount

/-- The number of columns shown. -/
def toNat : ColumnCount → Nat
  | .two => 2
  | .three => 3
  | .four => 4

/-- The name of a count in messages. -/
def name : ColumnCount → String
  | .two => "TWO"
  | .three => "THREE"
  | .four => "FOUR"

/-- The positions of the columns shown. Two columns leave out the second one. -/
def indices : ColumnCount → List Nat
  | .two => [0, 2]
  | .three => [0, 1, 2]
  | .four => [0, 1, 2, 3]

@[simp] theorem length_indices (count : ColumnCount) : count.indices.length = count.toNat := by
  cases count <;> rfl

/-- The number of columns that a table must have for a count. -/
def needed : ColumnCount → Nat
  | .two => 3
  | .three => 3
  | .four => 4

theorem lt_needed {count : ColumnCount} {index : Nat} (member : index ∈ count.indices) :
    index < count.needed := by
  cases count <;> simp [indices, needed] at * <;> omega

/-- The count with a number. -/
def ofInt? : Int → Option ColumnCount
  | 2 => some .two
  | 3 => some .three
  | 4 => some .four
  | _ => none

end ColumnCount

/-- A number of columns with a width for each. -/
structure Columns where
  count : ColumnCount
  widths : List Int
  length_widths : widths.length = count.toNat
  deriving DecidableEq, Repr

namespace Columns

/-- Why numbers do not make a column layout. -/
inductive Error where
  | count (value : Int)
  | widths (count : ColumnCount) (given : Nat)
  deriving DecidableEq, Repr

/-- What the error says. -/
def Error.message : Error → String
  | .count value => toString value ++ " is not a valid ColumnCount"
  | .widths shown given =>
      shown.name ++ " layout needs " ++ toString shown.toNat ++ " widths, got " ++ toString given

/-- The count with a number, or why there is none. -/
def parseCount (value : Int) : Except Error ColumnCount :=
  match ColumnCount.ofInt? value with
  | some count => .ok count
  | none => .error (.count value)

/-- The layout of a count and its widths. -/
def make (count : ColumnCount) (widths : List Int) : Except Error Columns :=
  if fits : widths.length = count.toNat then .ok ⟨count, widths, fits⟩
  else .error (.widths count widths.length)

/-- The width that all columns take together. -/
def total (columns : Columns) : Int := totalWidth columns.widths

end Columns

/-- The columns chosen for a width, and the space after each of them. -/
structure Layout where
  columns : Columns
  spacing : Int
  deriving DecidableEq, Repr

namespace Layout

/-- The width left over, divided evenly between the columns; never negative. -/
def spacingAt (columns : Columns) (width : Int) : Int :=
  if width < columns.total - columns.count.toNat then 0
  else max 0 ((width - columns.total).fdiv columns.count.toNat)

/-- A layout chosen for a width, and whether a breakpoint lay below the width. -/
structure Choice where
  layout : Layout
  matched : Bool
  deriving DecidableEq, Repr

/-- The entries in order of rising breakpoints. -/
def ascending (breakpoints : List (Int × Columns)) : List (Int × Columns) :=
  breakpoints.mergeSort fun entry other => entry.1 ≤ other.1

/-- The entry with the greatest breakpoint below a width, if there is one, in a
list of rising breakpoints. -/
def lastBelow (width : Int) (ordered : List (Int × Columns)) : Option (Int × Columns) :=
  (ordered.filter (·.1 < width)).getLast?

theorem mem_ascending {entry : Int × Columns} {breakpoints : List (Int × Columns)} :
    entry ∈ ascending breakpoints ↔ entry ∈ breakpoints := List.mem_mergeSort

theorem ascending_ne_nil {breakpoints : List (Int × Columns)} (nonempty : breakpoints ≠ []) :
    ascending breakpoints ≠ [] := by
  obtain ⟨entry, rest, equal⟩ := List.exists_cons_of_ne_nil nonempty
  exact List.ne_nil_of_mem (mem_ascending.2 (equal ▸ List.mem_cons_self))

theorem mem_of_lastBelow {width : Int} {ordered : List (Int × Columns)} {entry : Int × Columns}
    (found : lastBelow width ordered = some entry) : entry ∈ ordered :=
  (List.mem_filter.1 (List.mem_of_getLast? found)).1

/-- The entry chosen for a width. -/
def chosen (breakpoints : List (Int × Columns)) (nonempty : breakpoints ≠ []) (width : Int) :
    Int × Columns :=
  let ordered := ascending breakpoints
  (lastBelow width ordered).getD (ordered.head (ascending_ne_nil nonempty))

theorem chosen_mem {breakpoints : List (Int × Columns)} (nonempty : breakpoints ≠ [])
    (width : Int) : chosen breakpoints nonempty width ∈ breakpoints := by
  cases found : lastBelow width (ascending breakpoints) with
  | none =>
      simp only [chosen, found, Option.getD_none]
      exact mem_ascending.1 (List.head_mem (ascending_ne_nil nonempty))
  | some entry =>
      simp only [chosen, found, Option.getD_some]
      exact mem_ascending.1 (mem_of_lastBelow found)

/-- The layout for a width. -/
def choose (breakpoints : List (Int × Columns)) (nonempty : breakpoints ≠ []) (width : Int) :
    Choice :=
  let columns := (chosen breakpoints nonempty width).2
  ⟨⟨columns, spacingAt columns width⟩, (lastBelow width (ascending breakpoints)).isSome⟩

/-- The layout for a width; nothing without a breakpoint. -/
def choose? (breakpoints : List (Int × Columns)) (width : Int) : Option Choice :=
  if nonempty : breakpoints ≠ [] then some (choose breakpoints nonempty width) else none

/-- The note about a width that no breakpoint lies below. -/
def unmatchedNote (width : Int) : LogNote :=
  ⟨.debug, "No breakpoint below width " ++ toString width ++ ", using the narrowest layout"⟩

/-- What choosing a layout for a width tells the log. -/
def Choice.notes (choice : Choice) (width : Int) : List LogNote :=
  if choice.matched then [] else [unmatchedNote width]

/-- What is said where there is no breakpoint to choose from. -/
def noBreakpoint : String := "at least one breakpoint is required"

end Layout

end TrafficBoard
