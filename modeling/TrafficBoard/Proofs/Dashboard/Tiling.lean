import Mathlib.Algebra.Ring.Nat
import TrafficBoard.Dashboard.Tiling

/-!
# The regions of the tables

A division of a length of two cells or more leaves both parts something and loses nothing.
Each direction is divided at most once, so on a terminal with room for the header, the footer
and two lines between them the regions of the tables share no cell and leave none out.
-/

namespace TrafficBoard

/-! ## Divisions -/

namespace SizeLimits

/-- There is one division for each of the first two limits that a terminal reaches. -/
theorem length_divisions (limits : SizeLimits) (width height : Int) :
    (limits.divisions width height).length =
      (if limits.height ≤ height then 1 else 0) + if limits.width ≤ width then 1 else 0 := by
  by_cases high : limits.height ≤ height
  · by_cases wide : limits.width ≤ width
    · rw [if_pos high, if_pos wide, divisions, if_neg (by omega), if_neg (by omega),
        if_neg (by omega)]
      split <;> rfl
    · rw [if_pos high, if_neg wide, divisions, if_neg (by omega), if_neg (by omega),
        if_pos (by omega)]
      rfl
  · by_cases wide : limits.width ≤ width
    · rw [if_neg high, if_pos wide, divisions, if_neg (by omega), if_pos (by omega)]
      rfl
    · rw [if_neg high, if_neg wide, divisions, if_pos (by omega)]
      rfl

/-- A larger terminal is divided no less often. -/
theorem length_divisions_mono (limits : SizeLimits) {width height wider higher : Int}
    (widened : width ≤ wider) (heightened : height ≤ higher) :
    (limits.divisions width height).length ≤ (limits.divisions wider higher).length := by
  have reached : ∀ {limit size larger : Int}, size ≤ larger →
      (if limit ≤ size then 1 else 0) ≤ if limit ≤ larger then 1 else 0 := by
    intro limit size larger grown
    split
    · next reaches => exact Nat.le_of_eq (if_pos (Int.le_trans reaches grown)).symm
    · exact Nat.zero_le _
  rw [length_divisions, length_divisions]
  exact Nat.add_le_add (reached heightened) (reached widened)

theorem nodup_divisions (limits : SizeLimits) (width height : Int) :
    (limits.divisions width height).Nodup := by
  unfold divisions
  repeat' split
  all_goals decide

end SizeLimits

namespace Region

/-! ## Cells -/

/-- Whether a cell of the terminal belongs to a region. -/
def Contains (region : Region) (column row : Nat) : Prop :=
  (region.x ≤ column ∧ column < region.x + region.width) ∧
    region.y ≤ row ∧ row < region.y + region.height

/-- Whether regions are the parts of a region: no two of them share a cell, and together they
have the cells of the region. -/
structure IsTiledBy (region : Region) (parts : List Region) : Prop where
  disjoint : parts.Pairwise fun part other =>
    ∀ column row, part.Contains column row → ¬other.Contains column row
  covers : ∀ column row,
    region.Contains column row ↔ ∃ part ∈ parts, part.Contains column row

theorem isTiledBy_singleton (region : Region) : region.IsTiledBy [region] where
  disjoint := List.pairwise_singleton _ _
  covers _ _ := by simp

/-- The second of two parts can be divided further. -/
theorem IsTiledBy.refine {region first second : Region} {parts : List Region}
    (outer : region.IsTiledBy [first, second]) (inner : second.IsTiledBy parts) :
    region.IsTiledBy (first :: parts) where
  disjoint := by
    refine List.pairwise_cons.2 ⟨fun part member column row inFirst inPart => ?_, inner.disjoint⟩
    have inSecond := (inner.covers column row).2 ⟨part, member, inPart⟩
    have apart := (List.pairwise_cons.1 outer.disjoint).1 second (List.mem_singleton_self second)
    exact apart column row inFirst inSecond
  covers column row := by
    have either := outer.covers column row
    simp only [List.mem_cons, List.not_mem_nil, or_false, exists_eq_or_imp, exists_eq_left,
      inner.covers] at either ⊢
    exact either

/-! ## Divided regions -/

/-- The length that a division divides. -/
def extent (region : Region) : Division → Nat
  | .row => region.width
  | .column => region.height

variable {region : Region} {division : Division}

theorem firstHalf_add_secondHalf {length : Nat} (room : 2 ≤ length) :
    firstHalf length + secondHalf length = length := by
  unfold firstHalf secondHalf
  omega

theorem isTiledBy_divide (room : 2 ≤ region.extent division) :
    region.IsTiledBy [(region.divide division).1, (region.divide division).2] := by
  have whole := firstHalf_add_secondHalf room
  constructor
  · rw [List.pairwise_pair]
    cases division <;> simp only [divide, Contains] <;> omega
  · intro column row
    simp only [List.mem_cons, List.not_mem_nil, or_false, exists_eq_or_imp, exists_eq_left]
    cases division <;> simp only [divide, Contains, extent] at whole ⊢ <;> omega

/-- A division leaves the other direction as it is. -/
theorem extent_divide {other : Division} (different : other ≠ division) :
    (region.divide division).2.extent other = region.extent other := by
  cases division <;> cases other <;> first | rfl | exact absurd rfl different

theorem extent_divide_of_notMem {rest : List Division} (absent : division ∉ rest)
    (room : ∀ other ∈ rest, 2 ≤ region.extent other) :
    ∀ other ∈ rest, 2 ≤ (region.divide division).2.extent other := by
  intro other member
  have different : other ≠ division := fun same => absent (same ▸ member)
  rw [extent_divide different]
  exact room other member

/-- A region that has room for divisions in different directions is tiled by what they leave. -/
theorem isTiledBy_tile {divisions : List Division} (distinct : divisions.Nodup)
    (room : ∀ division ∈ divisions, 2 ≤ region.extent division) :
    region.IsTiledBy (region.tile divisions) := by
  induction divisions generalizing region with
  | nil => exact isTiledBy_singleton region
  | cons division rest ih =>
      obtain ⟨absent, others⟩ := List.nodup_cons.1 distinct
      obtain ⟨first, behind⟩ := List.forall_mem_cons.1 room
      exact (isTiledBy_divide first).refine (ih others (extent_divide_of_notMem absent behind))

/-- Whether the rows of a region are rows of another. -/
def RowsWithin (region part : Region) : Prop :=
  region.y ≤ part.y ∧ part.y + part.height ≤ region.y + region.height

theorem rowsWithin_divide (room : 2 ≤ region.extent division) :
    region.RowsWithin (region.divide division).1 ∧
      region.RowsWithin (region.divide division).2 := by
  cases division with
  | row => exact ⟨⟨Nat.le_refl _, Nat.le_refl _⟩, Nat.le_refl _, Nat.le_refl _⟩
  | column =>
      have whole : firstHalf region.height + secondHalf region.height = region.height :=
        firstHalf_add_secondHalf room
      simp only [RowsWithin, divide]
      omega

theorem rowsWithin_of_mem_tile {divisions : List Division} (distinct : divisions.Nodup)
    (room : ∀ division ∈ divisions, 2 ≤ region.extent division) :
    ∀ part ∈ region.tile divisions, region.RowsWithin part := by
  induction divisions generalizing region with
  | nil => exact List.forall_mem_singleton.2 ⟨Nat.le_refl _, Nat.le_refl _⟩
  | cons division rest ih =>
      obtain ⟨absent, others⟩ := List.nodup_cons.1 distinct
      obtain ⟨first, behind⟩ := List.forall_mem_cons.1 room
      obtain ⟨front, second⟩ := rowsWithin_divide first
      refine List.forall_mem_cons.2 ⟨front, fun part member => ?_⟩
      have inside := ih others (extent_divide_of_notMem absent behind) part member
      exact ⟨Nat.le_trans second.1 inside.1, Nat.le_trans inside.2 second.2⟩

/-! ## The width of a row -/

/-- The number of cells that a region has in a row. -/
def widthAt (row : Nat) (region : Region) : Nat :=
  if region.y ≤ row ∧ row < region.y + region.height then region.width else 0

theorem widthAt_mk (row x y width height : Nat) :
    widthAt row ⟨x, y, width, height⟩ = if y ≤ row ∧ row < y + height then width else 0 := rfl

/-- The number of cells that regions have in a row. -/
def totalAt (row : Nat) (regions : List Region) : Nat := (regions.map (widthAt row)).sum

theorem widthAt_divide (room : 2 ≤ region.extent division) (row : Nat) :
    widthAt row (region.divide division).1 + widthAt row (region.divide division).2 =
      widthAt row region := by
  have whole := firstHalf_add_secondHalf room
  cases division with
  | row =>
      rw [divide, widthAt_mk, widthAt_mk, widthAt]
      split
      · exact whole
      · rfl
  | column =>
      change firstHalf region.height + secondHalf region.height = region.height at whole
      rw [divide, widthAt_mk, widthAt_mk, widthAt]
      split <;> split <;> split <;> omega

theorem totalAt_tile {divisions : List Division} (distinct : divisions.Nodup)
    (room : ∀ division ∈ divisions, 2 ≤ region.extent division) (row : Nat) :
    totalAt row (region.tile divisions) = widthAt row region := by
  induction divisions generalizing region with
  | nil => exact List.sum_singleton
  | cons division rest ih =>
      obtain ⟨absent, others⟩ := List.nodup_cons.1 distinct
      obtain ⟨first, behind⟩ := List.forall_mem_cons.1 room
      rw [← widthAt_divide first row, ← ih others (extent_divide_of_notMem absent behind)]
      exact List.sum_cons

end Region

end TrafficBoard
