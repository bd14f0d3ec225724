import TrafficBoard.Keyed
import TrafficBoard.Table.Columns
import TrafficBoard.Table.Shortening
import TrafficBoard.Text.Quoted

/-!
# Tables

A table has a title, named columns, rows with one cell for each column, and a
column layout for every width it may be shown at. A layout never shows a column
that the table lacks: the proof fields of `Table` say so, and `make` refuses
whatever would break them. Nothing can go wrong after that.
-/

namespace TrafficBoard

/-- A table whose rows and layouts fit its columns. -/
structure Table where
  title : String
  columns : List String
  rows : List (List String)
  breakpoints : List (Int × Columns)
  base : 0 ∈ breakpoints.map Prod.fst
  layouts_fit : ∀ entry ∈ breakpoints, entry.2.count.needed ≤ columns.length
  rows_fit : ∀ row ∈ rows, row.length = columns.length

namespace Table

/-- Why parts do not make a table. -/
inductive Error where
  | noBase (title : String)
  | tooFewColumns (title : String) (count : ColumnCount) (given : Nat)
  | raggedRow (title : String) (cells expected : Nat)
  deriving DecidableEq, Repr

/-- What the error says. -/
def Error.message : Error → String
  | .noBase title => Text.quoted title ++ ": a breakpoint at width 0 is required"
  | .tooFewColumns title count given =>
      Text.quoted title ++ ": " ++ count.name ++ " layout needs more than " ++
        toString given ++ " columns"
  | .raggedRow title cells expected =>
      Text.quoted title ++ ": row has " ++ toString cells ++ " cells, expected " ++
        toString expected

/-- The table of the given parts. The first fault is reported, in the order of the
breakpoint zero, the layouts as they come, and the rows. -/
def make (title : String) (columns : List String) (rows : List (List String))
    (breakpoints : Keyed Int Columns) : Except Error Table :=
  if base : 0 ∈ breakpoints.keys then
    match unfit : breakpoints.entries.find? (fun entry => columns.length < entry.2.count.needed) with
    | some entry => .error (.tooFewColumns title entry.2.count columns.length)
    | none =>
        match ragged : rows.find? (fun row => row.length ≠ columns.length) with
        | some row => .error (.raggedRow title row.length columns.length)
        | none =>
            .ok {
              title := title
              columns := columns
              rows := rows
              breakpoints := Layout.ascending breakpoints.entries
              base := by
                obtain ⟨entry, member, key⟩ := List.mem_map.1 base
                exact List.mem_map.2 ⟨entry, Layout.mem_ascending.2 member, key⟩
              layouts_fit := fun entry member => by
                have fits := List.find?_eq_none.1 unfit entry (Layout.mem_ascending.1 member)
                simpa using fits
              rows_fit := fun row member => by
                simpa using List.find?_eq_none.1 ragged row member }
  else .error (.noBase title)

theorem breakpoints_ne_nil (table : Table) : table.breakpoints ≠ [] := by
  intro empty
  have base := table.base
  simp [empty] at base

/-- The layout chosen for a width. -/
def choice (table : Table) (width : Int) : Layout.Choice :=
  Layout.choose table.breakpoints table.breakpoints_ne_nil width

/-- The layout for a width. -/
def layout (table : Table) (width : Int) : Layout := (table.choice width).layout

/-- Every column of a layout is a column of the table. -/
theorem needed_layout_le (table : Table) (width : Int) :
    (table.layout width).columns.count.needed ≤ table.columns.length :=
  table.layouts_fit _ (Layout.chosen_mem table.breakpoints_ne_nil width)

/-- The entries of a list that a count shows. -/
def visible {α : Type} (count : ColumnCount) (cells : List α)
    (enough : count.needed ≤ cells.length) : List α :=
  count.indices.attach.map fun ⟨index, member⟩ =>
    cells.get ⟨index, Nat.lt_of_lt_of_le (ColumnCount.lt_needed member) enough⟩

@[simp] theorem length_visible {α : Type} (count : ColumnCount) (cells : List α)
    (enough : count.needed ≤ cells.length) : (visible count cells enough).length = count.toNat := by
  simp [visible]

/-- The names of the columns shown at a width. -/
def visibleColumns (table : Table) (width : Int) : List String :=
  visible (table.layout width).columns.count table.columns (table.needed_layout_le width)

/-- A row as it is shown at a width: its visible cells, each shortened to the width
of its column. -/
def visibleRow (table : Table) (width : Int) (row : List String) (member : row ∈ table.rows) :
    List String :=
  let columns := (table.layout width).columns
  List.zipWith shorten
    (visible columns.count row (by
      rw [table.rows_fit row member]
      exact table.needed_layout_le width))
    columns.widths

/-- The rows as they are shown at a width. -/
def visibleRows (table : Table) (width : Int) : List (List String) :=
  table.rows.attach.map fun row => table.visibleRow width row.1 row.2

@[simp] theorem length_visibleColumns (table : Table) (width : Int) :
    (table.visibleColumns width).length = (table.layout width).columns.count.toNat := by
  simp [visibleColumns]

end Table

end TrafficBoard
