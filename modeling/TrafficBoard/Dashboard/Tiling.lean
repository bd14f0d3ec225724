/-!
# Tiling the terminal

The terminal is divided into regions: the header, the footer and, between them,
one region for each table shown. Every division gives half of the remaining
region to the next table. How many divisions are made, and whether they place
tables side by side or above one another, follows from the size of the
terminal.
-/

namespace TrafficBoard

/-- How a region is divided: side by side, or one part above the other. -/
inductive Division where
  | row
  | column
  deriving DecidableEq, Repr

/-- The name of a kind of division. -/
def Division.name : Division → String
  | .row => "row"
  | .column => "column"

/-- The sizes from which on more tables are shown. -/
structure SizeLimits where
  height : Int
  width : Int
  wide : Int
  deriving DecidableEq, Repr

/-- The divisions made on a terminal of a size. -/
def SizeLimits.divisions (limits : SizeLimits) (width height : Int) : List Division :=
  if height < limits.height ∧ width < limits.width then []
  else if height < limits.height then [.row]
  else if width < limits.width then [.column]
  else if width < limits.wide then [.column, .row]
  else [.row, .column]

/-- The number of divisions never exceeds two. -/
theorem SizeLimits.length_divisions_le (limits : SizeLimits) (width height : Int) :
    (limits.divisions width height).length ≤ 2 := by
  unfold divisions
  repeat' split
  all_goals decide

/-- A rectangle of cells. -/
structure Region where
  x : Nat
  y : Nat
  width : Nat
  height : Nat
  deriving DecidableEq, Repr

namespace Region

/-- The first half of a length, at least one. -/
def firstHalf (length : Nat) : Nat := max 1 (length / 2)

/-- What the first half leaves of a length, at least one. -/
def secondHalf (length : Nat) : Nat := max 1 (length - length / 2)

/-- The two parts of a region. -/
def divide (region : Region) : Division → Region × Region
  | .row =>
      let first := firstHalf region.width
      (⟨region.x, region.y, first, region.height⟩,
        ⟨region.x + first, region.y, secondHalf region.width, region.height⟩)
  | .column =>
      let first := firstHalf region.height
      (⟨region.x, region.y, region.width, first⟩,
        ⟨region.x, region.y + first, region.width, secondHalf region.height⟩)

/-- The regions of the tables: each division gives its first part to the next one. -/
def tile (region : Region) : List Division → List Region
  | [] => [region]
  | division :: rest =>
      let (first, second) := region.divide division
      first :: tile second rest

@[simp] theorem length_tile (region : Region) (divisions : List Division) :
    (region.tile divisions).length = divisions.length + 1 := by
  induction divisions generalizing region with
  | nil => rfl
  | cons division rest ih => simp [tile, ih]

/-- The first line of a terminal. -/
def header (width : Nat) : Region := ⟨0, 0, width, 1⟩

/-- The lines between the first and the last; at least one. -/
def body (width height : Nat) : Region := ⟨0, 1, width, max 1 (height - 2)⟩

/-- The line below the body. -/
def footer (width height : Nat) : Region := ⟨0, 1 + max 1 (height - 2), width, 1⟩

/-- Regions are drawn from left to right, and from the top down in one column. -/
def drawnBefore (region other : Region) : Bool :=
  if region.x ≠ other.x then region.x < other.x
  else if region.y ≠ other.y then region.y < other.y
  else if region.width ≠ other.width then region.width < other.width
  else region.height ≤ other.height

end Region

end TrafficBoard
