import TrafficBoard.Table.Columns
import TrafficBoard.Table.Grid

/-!
# Sharing what columns leave over

The spacing is an even share of what the columns leave of the region, but the grid is drawn
between the two sides of the panel, and no spacing follows the last column.  So the grid
leaves free one share and the remainder of the division, and the sides need two cells of it.

Columns that fit between the sides keep their widths except in one case: exactly one cell is
left over for each column.  Then there is one cell too little, and the last column gives it
up.
-/

namespace TrafficBoard

namespace Grid

/-! ## Positive widths -/

/-- Whether every width is at least one. -/
def ArePositive (widths : List Int) : Prop := ∀ width ∈ widths, 1 ≤ width
  deriving Decidable

theorem arePositive_cons {width : Int} {rest : List Int} :
    ArePositive (width :: rest) ↔ 1 ≤ width ∧ ArePositive rest :=
  List.forall_mem_cons

theorem ArePositive.length_le {widths : List Int} (positive : ArePositive widths) :
    (widths.length : Int) ≤ totalWidth widths := by
  induction widths with
  | nil => exact Int.le_refl 0
  | cons width rest ih =>
      obtain ⟨first, others⟩ := arePositive_cons.1 positive
      have sum := ih others
      rw [List.length_cons, totalWidth_cons]
      omega

/-- A width leaves at least one cell for each of the others. -/
theorem ArePositive.add_length_le {widths : List Int} (positive : ArePositive widths)
    {width : Int} (member : width ∈ widths) :
    width + widths.length ≤ totalWidth widths + 1 := by
  induction widths with
  | nil => cases member
  | cons first rest ih =>
      obtain ⟨firstPositive, others⟩ := arePositive_cons.1 positive
      rw [List.length_cons, totalWidth_cons]
      rcases List.mem_cons.1 member with rfl | later
      · have sum := others.length_le
        omega
      · have sum := ih others later
        omega

/-! ## Spacing -/

variable {spacing : Int}

@[simp] theorem length_spacedWidths (spacing : Int) (widths : List Int) :
    (spacedWidths spacing widths).length = widths.length := by
  fun_induction spacedWidths spacing widths <;> simp_all

theorem totalWidth_spacedWidths (spacing width : Int) (rest : List Int) :
    totalWidth (spacedWidths spacing (width :: rest)) =
      totalWidth (width :: rest) + rest.length * spacing := by
  induction rest generalizing width with
  | nil => simp [spacedWidths]
  | cons second more ih =>
      have shares : ((second :: more).length : Int) * spacing =
          more.length * spacing + spacing := by
        rw [List.length_cons, Int.natCast_add, Int.add_mul, Int.natCast_one, Int.one_mul]
      rw [spacedWidths, totalWidth_cons, ih second, totalWidth_cons width, shares]
      · omega
      · exact List.cons_ne_nil _ _

theorem ArePositive.spacedWidths {widths : List Int} (positive : ArePositive widths)
    (gap : 0 ≤ spacing) : ArePositive (spacedWidths spacing widths) := by
  fun_induction Grid.spacedWidths spacing widths with
  | case1 => exact positive
  | case2 last => exact positive
  | case3 width rest _ ih =>
      obtain ⟨first, others⟩ := arePositive_cons.1 positive
      exact arePositive_cons.2 ⟨by omega, ih others⟩

/-! ## Columns that fit -/

theorem limited_eq {inner : Nat} {width : Int} (positive : 1 ≤ width) (fits : width ≤ inner) :
    limited inner width = width := by
  have wide : inner ≠ 0 := by omega
  have least : min width inner = width := Int.min_eq_left fits
  have nonzero : width ≠ 0 := by omega
  simp only [limited, if_neg wide, least, if_neg nonzero]

theorem map_limited {inner : Nat} {widths : List Int} (positive : ArePositive widths)
    (fits : ∀ width ∈ widths, width ≤ inner) : widths.map (limited inner) = widths := by
  have same : widths.map (limited inner) = widths.map id :=
    List.map_congr_left fun width member => limited_eq (positive width member) (fits width member)
  rw [same, List.map_id]

/-- Columns that fit with their spacing are drawn as wide as they are. -/
theorem drawnWidths_of_fits {inner : Nat} {widths : List Int} (positive : ArePositive widths)
    (gap : 0 ≤ spacing) (fits : totalWidth (spacedWidths spacing widths) ≤ inner) :
    drawnWidths inner spacing widths = (spacedWidths spacing widths).map Int.toNat := by
  have spaced := positive.spacedWidths gap
  have each : ∀ width ∈ spacedWidths spacing widths, width ≤ inner := by
    intro width member
    have sum := spaced.add_length_le member
    have some := List.length_pos_of_mem member
    omega
  simp only [drawnWidths, map_limited spaced each, if_pos fits]

/-! ## One cell too little -/

/-- Widths of which the last one is a cell less. -/
def lastShortened : List Int → List Int
  | [] => []
  | [last] => [last - 1]
  | width :: rest => width :: lastShortened rest

theorem divHalfEven_one_left {count : Nat} (several : 2 ≤ count) : divHalfEven 1 count = 0 := by
  have none : 1 / count = 0 := Nat.div_eq_of_lt several
  have all : 1 % count = 1 := Nat.mod_eq_of_lt several
  simp only [divHalfEven, none, all]
  split
  · rfl
  · rw [if_neg (by omega)]
    rfl

/-- An excess of one cell has no share that rounds to a cell before the last column. -/
theorem giveUp_one {widths : List Int} (positive : ArePositive widths) :
    giveUp 1 widths.length widths = lastShortened widths := by
  fun_induction lastShortened widths with
  | case1 => rfl
  | case2 last =>
      have large := positive last (List.mem_singleton_self last)
      have share : min last (divHalfEven (1 : Int).toNat 1 : Int) = 1 := Int.min_eq_right large
      rw [List.length_singleton, giveUp, if_neg (by omega), share]
      rfl
  | case3 width rest several ih =>
      obtain ⟨large, others⟩ := arePositive_cons.1 positive
      have more : 0 < rest.length := List.length_pos_iff.2 several
      have none : divHalfEven (1 : Int).toNat (rest.length + 1) = 0 :=
        divHalfEven_one_left (by omega)
      have share : min width ((0 : Nat) : Int) = 0 := Int.min_eq_right (by omega)
      rw [List.length_cons, giveUp, if_neg (by omega), none, share]
      simp only [Int.sub_zero, Nat.add_sub_cancel, ih others]

theorem zipWith_settled {widths : List Int} (positive : ArePositive widths) :
    List.zipWith settled widths (lastShortened widths) =
      (lastShortened widths).map Int.toNat := by
  fun_induction lastShortened widths with
  | case1 => rfl
  | case2 last =>
      have least : min last (last - 1) = last - 1 := Int.min_eq_right (by omega)
      simp only [List.zipWith_cons_cons, List.zipWith_nil_left, List.map_cons, List.map_nil,
        settled, least]
      split
      · congr 1
        omega
      · rfl
  | case3 width rest _ ih =>
      obtain ⟨large, others⟩ := arePositive_cons.1 positive
      rw [List.zipWith_cons_cons, List.map_cons, ih others, settled, if_neg (by omega),
        Int.min_self]

/-- Where one cell is missing, the last column is drawn a cell narrower than it is. -/
theorem drawnWidths_of_one_over {inner : Nat} {widths : List Int} (positive : ArePositive widths)
    (gap : 0 ≤ spacing) (several : 2 ≤ widths.length)
    (exceeds : totalWidth (spacedWidths spacing widths) = inner + 1) :
    drawnWidths inner spacing widths =
      (lastShortened (spacedWidths spacing widths)).map Int.toNat := by
  have spaced := positive.spacedWidths gap
  have count := length_spacedWidths spacing widths
  have each : ∀ width ∈ spacedWidths spacing widths, width ≤ inner := by
    intro width member
    have sum := spaced.add_length_le member
    omega
  have counted : (spacedWidths spacing widths).filter (· ≠ 0) = spacedWidths spacing widths := by
    apply List.filter_eq_self.2
    intro width member
    have large := spaced width member
    exact decide_eq_true (by omega)
  have excess : totalWidth (spacedWidths spacing widths) - inner = 1 := by omega
  have tooWide : ¬ totalWidth (spacedWidths spacing widths) ≤ inner := by omega
  simp only [drawnWidths, map_limited spaced each, if_neg tooWide, counted, excess,
    giveUp_one spaced, zipWith_settled spaced]

theorem lastShortened_spacedWidths (spacing : Int) (widths : List Int) :
    lastShortened (spacedWidths spacing widths) = spacedWidths spacing (lastShortened widths) := by
  fun_induction lastShortened widths with
  | case1 => rfl
  | case2 last => rfl
  | case3 width rest several ih =>
      cases rest with
      | nil => exact absurd rfl several
      | cons second more =>
          cases more with
          | nil => rfl
          | cons third others => exact congrArg _ ih

@[simp] theorem length_lastShortened (widths : List Int) :
    (lastShortened widths).length = widths.length := by
  fun_induction lastShortened widths <;> simp_all

theorem nonneg_lastShortened {widths : List Int} (positive : ArePositive widths) :
    ∀ room ∈ lastShortened widths, 0 ≤ room := by
  fun_induction lastShortened widths with
  | case1 => exact List.forall_mem_nil _
  | case2 last =>
      have large := positive last (List.mem_singleton_self last)
      exact List.forall_mem_singleton.2 (by omega)
  | case3 width rest _ ih =>
      obtain ⟨large, others⟩ := arePositive_cons.1 positive
      exact List.forall_mem_cons.2 ⟨by omega, ih others⟩

theorem totalWidth_lastShortened {widths : List Int} (some : widths ≠ []) :
    totalWidth (lastShortened widths) = totalWidth widths - 1 := by
  fun_induction lastShortened widths with
  | case1 => exact absurd rfl some
  | case2 last => simp
  | case3 width rest several ih =>
      rw [totalWidth_cons, totalWidth_cons, ih several]
      omega

end Grid

namespace Columns

open Grid

variable {columns : Columns} {width : Int}

theorem two_le_length_widths (columns : Columns) : 2 ≤ columns.widths.length := by
  rw [columns.length_widths]
  cases columns.count <;> decide

/-- The rooms that columns that fit between the sides of a panel have for their texts. -/
def rooms (columns : Columns) (width : Int) : List Int :=
  if width = columns.total + columns.widths.length then lastShortened columns.widths
  else columns.widths

theorem spacingAt_of_lt (below : width < columns.total) : Layout.spacingAt columns width = 0 := by
  have several := columns.two_le_length_widths
  have none : (width - columns.total) / (columns.widths.length : Int) ≤ 0 :=
    Int.le_of_lt (Int.ediv_neg_of_neg_of_pos (by omega) (by omega))
  rw [Layout.spacingAt, ← columns.length_widths,
    Int.fdiv_eq_ediv_of_nonneg _ (Int.natCast_nonneg _), Int.max_eq_left none, ite_self]

theorem spacingAt_eq (fits : columns.total ≤ width) :
    Layout.spacingAt columns width = (width - columns.total) / columns.widths.length := by
  have share : 0 ≤ (width - columns.total) / (columns.widths.length : Int) :=
    Int.ediv_nonneg (by omega) (Int.natCast_nonneg _)
  rw [Layout.spacingAt, ← columns.length_widths, if_neg (by omega),
    Int.fdiv_eq_ediv_of_nonneg _ (Int.natCast_nonneg _), Int.max_eq_right share]

/-- Two cells or more leave a share and a remainder of two cells, unless they are one cell
for each column. -/
theorem share_add_remainder {left count : Int} (room : 2 ≤ left) (several : 2 ≤ count)
    (uneven : left ≠ count) : 2 ≤ left / count + left % count := by
  have division := Int.mul_ediv_add_emod left count
  have nonneg := Int.emod_nonneg left (by omega : count ≠ 0)
  have share : 0 ≤ left / count := Int.ediv_nonneg (by omega) (by omega)
  generalize left / count = shares at *
  generalize left % count = remainder at *
  rcases (by omega : shares = 0 ∨ shares = 1 ∨ 2 ≤ shares) with rfl | rfl | large
  · omega
  · omega
  · omega

/-- The cells that the spacing leaves free: one share and the remainder. -/
theorem total_spaced (fits : columns.total ≤ width - 2) :
    totalWidth (spacedWidths (Layout.spacingAt columns width) columns.widths) +
        (Layout.spacingAt columns width +
          (width - columns.total) % columns.widths.length) = width := by
  have division := Int.mul_ediv_add_emod (width - columns.total) columns.widths.length
  rw [← spacingAt_eq (by omega)] at division
  have several := columns.two_le_length_widths
  rw [total] at division ⊢
  cases shape : columns.widths with
  | nil => simp [shape] at several
  | cons first rest =>
      rw [shape, List.length_cons, Int.natCast_add, Int.natCast_one, Int.add_mul,
        Int.one_mul] at division
      rw [totalWidth_spacedWidths, List.length_cons, Int.natCast_add, Int.natCast_one]
      omega

theorem spacingAt_nonneg (columns : Columns) (width : Int) :
    0 ≤ Layout.spacingAt columns width := by
  rw [Layout.spacingAt]
  split
  · exact Int.le_refl 0
  · exact Int.le_max_left 0 _

@[simp] theorem length_rooms (columns : Columns) (width : Int) :
    (columns.rooms width).length = columns.widths.length := by
  unfold rooms
  split
  · exact length_lastShortened _
  · rfl

theorem nonneg_rooms (positive : ArePositive columns.widths) (width : Int) :
    ∀ room ∈ columns.rooms width, 0 ≤ room := by
  unfold rooms
  split
  · exact nonneg_lastShortened positive
  · intro room member
    exact Int.le_trans (by decide) (positive room member)

/-- Columns that fit between the sides are drawn with their rooms, which are their widths
unless one cell is left over for each column.  The rooms fit with their spacing. -/
theorem drawnWidths_rooms (positive : ArePositive columns.widths)
    (fits : columns.total ≤ width - 2) :
    drawnWidths (width.toNat - 2) (Layout.spacingAt columns width) columns.widths =
        (spacedWidths (Layout.spacingAt columns width) (columns.rooms width)).map Int.toNat ∧
      totalWidth (spacedWidths (Layout.spacingAt columns width) (columns.rooms width)) ≤
        width - 2 := by
  have several := columns.two_le_length_widths
  have sum := total_spaced fits
  have share := spacingAt_eq (by omega : columns.total ≤ width)
  have gap := spacingAt_nonneg columns width
  have atLeast := positive.length_le
  rw [← total] at atLeast
  rw [rooms]
  split
  · next even =>
      have nonzero : (columns.widths.length : Int) ≠ 0 := by omega
      have left : width - columns.total = columns.widths.length := by omega
      rw [left, Int.emod_self] at sum
      rw [left, Int.ediv_self nonzero] at share
      refine ⟨?_, ?_⟩
      · rw [drawnWidths_of_one_over positive gap several (by omega), lastShortened_spacedWidths]
      · have some : spacedWidths (Layout.spacingAt columns width) columns.widths ≠ [] := by
          rw [← List.length_pos_iff, length_spacedWidths]
          omega
        rw [← lastShortened_spacedWidths, totalWidth_lastShortened some]
        omega
  · next uneven =>
      have free := share_add_remainder (by omega : 2 ≤ width - columns.total)
        (Int.ofNat_le.2 several) (by omega)
      rw [← share] at free
      exact ⟨drawnWidths_of_fits positive gap (by omega), by omega⟩

/-- The grid is drawn with a share of spacing behind all columns but the last.  It fits between
the sides of a panel unless exactly one cell is left over for each column. -/
theorem total_add_spacing_le (positive : ArePositive columns.widths)
    (fits : columns.total ≤ width - 2)
    (uneven : width ≠ columns.total + columns.widths.length) :
    columns.total + (columns.widths.length - 1) * Layout.spacingAt columns width ≤ width - 2 := by
  have drawn := (drawnWidths_rooms positive fits).2
  rw [rooms, if_neg uneven] at drawn
  have several := columns.two_le_length_widths
  rw [total]
  cases shape : columns.widths with
  | nil => simp [shape] at several
  | cons first rest =>
      rw [shape, totalWidth_spacedWidths] at drawn
      rw [List.length_cons, Int.natCast_add, Int.natCast_one, Int.add_sub_cancel]
      exact drawn

end Columns

end TrafficBoard
