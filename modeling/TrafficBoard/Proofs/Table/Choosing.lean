import TrafficBoard.Proofs.Keyed.Reordered
import TrafficBoard.Proofs.Table.Sharing

/-!
# Choosing a layout

A width selects the greatest breakpoint strictly below it, or the least one where none is
below.  That is said of the keys alone, and the scan of the rising breakpoints agrees with it, so
the order in which a map was built is not seen.

The spacing is the even share of what the columns leave over.  Widths with no breakpoint between
them select the same entry, and the greater one leaves no less spacing.
-/

namespace TrafficBoard

namespace Layout

/-! ## Selected breakpoints -/

/-- Whether a width selects a key: the greatest one strictly below the width, or the least one
where none is below. -/
inductive Selects (keys : List Int) (width : Int) : Int → Prop where
  | greatestBelow {key : Int} : key ∈ keys → key < width →
      (∀ other ∈ keys, other < width → other ≤ key) → Selects keys width key
  | least {key : Int} : key ∈ keys → (∀ other ∈ keys, width ≤ other) →
      (∀ other ∈ keys, key ≤ other) → Selects keys width key

namespace Selects

variable {keys : List Int} {width key : Int}

theorem mem (selected : Selects keys width key) : key ∈ keys := by
  cases selected with
  | greatestBelow member _ _ => exact member
  | least member _ _ => exact member

/-- A width selects one key at most. -/
theorem unique {other : Int} (first : Selects keys width key)
    (second : Selects keys width other) : key = other := by
  cases first with
  | greatestBelow member below greatest =>
      cases second with
      | greatestBelow otherMember otherBelow otherGreatest =>
          exact Int.le_antisymm (otherGreatest key member below)
            (greatest other otherMember otherBelow)
      | least _ none _ => exact absurd below (Int.not_lt.2 (none key member))
  | least member none least =>
      cases second with
      | greatestBelow otherMember otherBelow _ =>
          exact absurd otherBelow (Int.not_lt.2 (none other otherMember))
      | least otherMember _ otherLeast =>
          exact Int.le_antisymm (least other otherMember) (otherLeast key member)

/-- Widths that have the same keys below them select the same key. -/
theorem congr {wider : Int} (same : ∀ other ∈ keys, other < width ↔ other < wider)
    (selected : Selects keys width key) : Selects keys wider key := by
  cases selected with
  | greatestBelow member below greatest =>
      exact .greatestBelow member ((same key member).1 below) fun other otherMember otherBelow =>
        greatest other otherMember ((same other otherMember).2 otherBelow)
  | least member none least =>
      refine .least member (fun other otherMember => Int.not_lt.1 fun below => ?_) least
      exact absurd ((same other otherMember).2 below) (Int.not_lt.2 (none other otherMember))

/-- A width above some key selects one below it. -/
theorem lt {other : Int} (selected : Selects keys width key) (member : other ∈ keys)
    (below : other < width) : key < width ∧ other ≤ key := by
  cases selected with
  | greatestBelow _ keyBelow greatest => exact ⟨keyBelow, greatest other member below⟩
  | least _ none _ => exact absurd below (Int.not_lt.2 (none other member))

end Selects

/-! ## The scan -/

variable {breakpoints others : List (Int × Columns)} {width : Int} {entry : Int × Columns}

theorem rising_ascending (breakpoints : List (Int × Columns)) :
    (ascending breakpoints).Pairwise fun entry other => entry.1 ≤ other.1 := by
  have transitive : ∀ first second third : Int × Columns, decide (first.1 ≤ second.1) = true →
      decide (second.1 ≤ third.1) = true → decide (first.1 ≤ third.1) = true :=
    fun _ _ _ front back =>
      decide_eq_true (Int.le_trans (of_decide_eq_true front) (of_decide_eq_true back))
  have total : ∀ first second : Int × Columns,
      (decide (first.1 ≤ second.1) || decide (second.1 ≤ first.1)) = true := by
    intro first second
    rw [Bool.or_eq_true, decide_eq_true_iff, decide_eq_true_iff]
    exact Int.le_total _ _
  exact (List.pairwise_mergeSort transitive total breakpoints).imp of_decide_eq_true

theorem lastBelow_eq_none_iff : lastBelow width breakpoints = none ↔
    ∀ entry ∈ breakpoints, width ≤ entry.1 := by
  rw [lastBelow, List.getLast?_eq_none_iff, List.filter_eq_nil_iff]
  simp only [decide_eq_true_iff, Int.not_lt]

/-- The last of rising breakpoints below a width is the greatest one below it. -/
theorem greatest_of_lastBelow
    (rising : breakpoints.Pairwise fun entry other => entry.1 ≤ other.1)
    (found : lastBelow width breakpoints = some entry) :
    entry.1 < width ∧ ∀ other ∈ breakpoints, other.1 < width → other.1 ≤ entry.1 := by
  obtain ⟨front, divided⟩ := List.getLast?_eq_some_iff.1 found
  have risingBelow := rising.filter fun other => decide (other.1 < width)
  rw [divided] at risingBelow
  have inside : entry ∈ breakpoints.filter fun other => decide (other.1 < width) := by
    rw [divided]
    exact List.mem_append_right front (List.mem_singleton_self entry)
  refine ⟨of_decide_eq_true (List.mem_filter.1 inside).2, fun other member below => ?_⟩
  have otherInside : other ∈ breakpoints.filter fun other => decide (other.1 < width) :=
    List.mem_filter.2 ⟨member, decide_eq_true below⟩
  rw [divided] at otherInside
  rcases List.mem_append.1 otherInside with earlier | last
  · exact (List.pairwise_append.1 risingBelow).2.2 other earlier entry (List.mem_singleton_self _)
  · exact Int.le_of_eq (congrArg Prod.fst (List.mem_singleton.1 last))

/-- A width selects the key of the entry that the scan finds. -/
theorem selects_chosen (nonempty : breakpoints ≠ []) (width : Int) :
    Selects (breakpoints.map Prod.fst) width (chosen breakpoints nonempty width).1 := by
  have member := List.mem_map_of_mem (f := Prod.fst) (chosen_mem nonempty width)
  cases found : lastBelow width (ascending breakpoints) with
  | some entry =>
      have same : chosen breakpoints nonempty width = entry := by
        simp only [chosen, found, Option.getD_some]
      obtain ⟨below, greatest⟩ := greatest_of_lastBelow (rising_ascending breakpoints) found
      rw [same] at member ⊢
      exact .greatestBelow member below (List.forall_mem_map.2 fun other otherMember =>
        greatest other (mem_ascending.2 otherMember))
  | none =>
      have same : chosen breakpoints nonempty width =
          (ascending breakpoints).head (ascending_ne_nil nonempty) := by
        simp only [chosen, found, Option.getD_none]
      have above := lastBelow_eq_none_iff.1 found
      rw [same] at member ⊢
      refine .least member
        (List.forall_mem_map.2 fun other inside => above other (mem_ascending.2 inside))
        (List.forall_mem_map.2 fun other otherMember => ?_)
      have rising := rising_ascending breakpoints
      rw [← List.cons_head_tail (ascending_ne_nil nonempty)] at rising
      have inside := mem_ascending.2 otherMember
      rw [← List.cons_head_tail (ascending_ne_nil nonempty)] at inside
      rcases List.mem_cons.1 inside with first | later
      · exact Int.le_of_eq (congrArg Prod.fst first.symm)
      · exact (List.pairwise_cons.1 rising).1 other later

/-- Entries with distinct keys have one rising order. -/
theorem ascending_eq_of_perm (distinct : (breakpoints.map Prod.fst).Nodup)
    (perm : breakpoints.Perm others) : ascending breakpoints = ascending others := by
  have sorted := List.mergeSort_perm breakpoints fun entry other => decide (entry.1 ≤ other.1)
  have otherSorted := List.mergeSort_perm others fun entry other => decide (entry.1 ≤ other.1)
  refine List.Perm.eq_of_pairwise (fun entry other member otherMember front back => ?_)
    (rising_ascending breakpoints) (rising_ascending others)
    (sorted.trans (perm.trans otherSorted.symm))
  exact List.inj_on_of_nodup_map distinct (mem_ascending.1 member)
    (perm.mem_iff.2 (mem_ascending.1 otherMember)) (Int.le_antisymm front back)

theorem choose?_eq_of_perm (distinct : (breakpoints.map Prod.fst).Nodup)
    (perm : breakpoints.Perm others) (width : Int) :
    choose? breakpoints width = choose? others width := by
  unfold choose?
  by_cases nonempty : breakpoints ≠ []
  · have otherNonempty : others ≠ [] := fun empty => nonempty (empty ▸ perm).eq_nil
    simp only [dif_pos nonempty, dif_pos otherNonempty, choose, chosen,
      ascending_eq_of_perm distinct perm]
  · have otherEmpty : ¬others ≠ [] := fun otherNonempty =>
      nonempty fun empty => otherNonempty (empty ▸ perm).symm.eq_nil
    rw [dif_neg nonempty, dif_neg otherEmpty]

/-! ## The reference -/

/-- Whether a spacing is what columns leave over of a width, shared evenly between them: nothing
where they are wider, and otherwise as many cells as there are for each of them. -/
structure IsShare (columns : Columns) (width spacing : Int) : Prop where
  of_lt : width < columns.total → spacing = 0
  nonneg : 0 ≤ spacing
  le : columns.total ≤ width → columns.total + columns.count.toNat * spacing ≤ width
  lt : columns.total ≤ width → width < columns.total + columns.count.toNat * (spacing + 1)

/-- There is one such spacing for each width. -/
theorem isShare_iff {columns : Columns} {spacing : Int} :
    IsShare columns width spacing ↔ spacing = spacingAt columns width := by
  have several : (0 : Int) < columns.count.toNat := by
    cases columns.count <;> decide
  rcases Int.lt_or_le width columns.total with below | fits
  · rw [Columns.spacingAt_of_lt below]
    constructor
    · exact fun share => share.of_lt below
    · rintro rfl
      exact ⟨fun _ => rfl, Int.le_refl 0, fun fits => absurd below (Int.not_lt.2 fits),
        fun fits => absurd below (Int.not_lt.2 fits)⟩
  · rw [Columns.spacingAt_eq fits, columns.length_widths]
    have bounds : spacing = (width - columns.total) / columns.count.toNat ↔
        spacing * columns.count.toNat ≤ width - columns.total ∧
          width - columns.total < (spacing + 1) * columns.count.toNat := by
      rw [← Int.le_ediv_iff_mul_le several, ← Int.ediv_lt_iff_lt_mul several]
      omega
    rw [bounds, Int.mul_comm, Int.mul_comm (spacing + 1)]
    constructor
    · intro share
      have atMost := share.le fits
      have atLeast := share.lt fits
      omega
    · rintro ⟨atMost, atLeast⟩
      refine ⟨fun below => absurd below (Int.not_lt.2 fits), ?_, fun _ => by omega,
        fun _ => by omega⟩
      by_contra negative
      have least : columns.count.toNat * (spacing + 1) ≤ columns.count.toNat * (0 : Int) :=
        Int.mul_le_mul_of_nonneg_left (by omega) (Int.le_of_lt several)
      omega

theorem spacingAt_mono (columns : Columns) {wider : Int} (widened : width ≤ wider) :
    spacingAt columns width ≤ spacingAt columns wider := by
  rcases Int.lt_or_le width columns.total with below | fits
  · rw [Columns.spacingAt_of_lt below]
    exact Columns.spacingAt_nonneg columns wider
  · rw [Columns.spacingAt_eq fits, Columns.spacingAt_eq (Int.le_trans fits widened)]
    exact Int.ediv_le_ediv (by have := columns.two_le_length_widths; omega) (by omega)

/-- Whether a choice of a layout is the right one for a width: the entry of the selected key, as
many widths as columns, the share of each, and a note exactly where no key is below. -/
structure Choice.IsFor (choice : Choice) (map : Keyed Int Columns) (width : Int) : Prop where
  selected : ∃ key, Selects map.keys width key ∧ map.find? key = some choice.layout.columns
  length_widths : choice.layout.columns.widths.length = choice.layout.columns.count.toNat
  share : ∀ spacing, IsShare choice.layout.columns width spacing ↔
    spacing = choice.layout.spacing
  noted : ((∃ key ∈ map.keys, key < width) ∧ choice.notes width = []) ∨
    ((∀ key ∈ map.keys, width ≤ key) ∧ choice.notes width = [unmatchedNote width])

theorem isFor_choose {map : Keyed Int Columns} (nonempty : map.entries ≠ []) (width : Int) :
    (choose map.entries nonempty width).IsFor map width where
  selected := ⟨_, selects_chosen nonempty width,
    Keyed.find?_eq_some_iff.2 (chosen_mem nonempty width)⟩
  length_widths := Columns.length_widths _
  share _ := isShare_iff
  noted := by
    cases found : lastBelow width (ascending map.entries) with
    | some entry =>
        obtain ⟨below, -⟩ := greatest_of_lastBelow (rising_ascending map.entries) found
        have member := mem_ascending.1 (mem_of_lastBelow found)
        refine .inl ⟨⟨entry.1, List.mem_map_of_mem member, below⟩, ?_⟩
        simp only [choose, Choice.notes, found, Option.isSome_some, if_true]
    | none =>
        refine .inr ⟨List.forall_mem_map.2 fun entry member =>
          lastBelow_eq_none_iff.1 found entry (mem_ascending.2 member), ?_⟩
        simp only [choose, Choice.notes, found, Option.isSome_none, Bool.false_eq_true, if_false]

theorem choose?_eq_some_iff {choice : Choice} : choose? breakpoints width = some choice ↔
    ∃ nonempty, choice = choose breakpoints nonempty width := by
  unfold choose?
  split
  · next nonempty =>
      exact ⟨fun same => ⟨nonempty, (Option.some.inj same).symm⟩, fun ⟨_, same⟩ => same ▸ rfl⟩
  · next empty =>
      exact ⟨fun none => (Option.some_ne_none choice none.symm).elim,
        fun ⟨nonempty, _⟩ => absurd nonempty empty⟩

theorem choose?_eq_none_iff : choose? breakpoints width = none ↔ breakpoints = [] := by
  unfold choose?
  split
  · next nonempty =>
      exact ⟨fun none => (Option.some_ne_none _ none).elim, fun empty => absurd empty nonempty⟩
  · next empty => exact ⟨fun _ => Decidable.not_not.1 empty, fun _ => rfl⟩

/-- Choices for widths that select the same key differ in their spacing only. -/
theorem Choice.IsFor.spacing_le {map : Keyed Int Columns} {choice other : Choice} {wider : Int}
    (chosen : choice.IsFor map width) (otherChosen : other.IsFor map wider)
    (widened : width ≤ wider)
    (same : ∀ key, Selects map.keys width key ↔ Selects map.keys wider key) :
    other.layout.columns = choice.layout.columns ∧
      choice.layout.spacing ≤ other.layout.spacing := by
  obtain ⟨key, selected, found⟩ := chosen.selected
  obtain ⟨otherKey, otherSelected, otherFound⟩ := otherChosen.selected
  rw [((same key).1 selected).unique otherSelected, otherFound] at found
  have columns := Option.some.inj found
  have share := isShare_iff.1 ((chosen.share _).2 rfl)
  have otherShare := isShare_iff.1 ((otherChosen.share _).2 rfl)
  rw [columns] at otherShare
  rw [share, otherShare]
  exact ⟨columns, spacingAt_mono _ widened⟩

/-- There is a layout for every width unless there is no breakpoint.  It is the one of the
selected key with its share of spacing, in whatever order the map was built.  Where no key lies
between two widths they select the same entry, and the spacing does not fall. -/
theorem choice_is_selected_entry (map : Keyed Int Columns) (width : Int) :
    (choose? map.entries width = none ↔ map.entries = []) ∧
    (∀ choice, choose? map.entries width = some choice → choice.IsFor map width) ∧
    (∀ other : Keyed Int Columns, (∀ key, other.find? key = map.find? key) →
      choose? other.entries width = choose? map.entries width) ∧
    ∀ wider, width ≤ wider → (∀ key ∈ map.keys, ¬(width ≤ key ∧ key < wider)) →
      (∀ key, Selects map.keys width key ↔ Selects map.keys wider key) ∧
      ∀ choice, choose? map.entries width = some choice →
        ∃ other, choose? map.entries wider = some other ∧
          other.layout.columns = choice.layout.columns ∧
          choice.layout.spacing ≤ other.layout.spacing := by
  have isFor : ∀ choice, choose? map.entries width = some choice → choice.IsFor map width := by
    intro choice made
    obtain ⟨nonempty, rfl⟩ := choose?_eq_some_iff.1 made
    exact isFor_choose nonempty width
  refine ⟨choose?_eq_none_iff, isFor, fun other same => ?_, fun wider widened gap => ?_⟩
  · exact choose?_eq_of_perm other.distinct (Keyed.entries_perm_iff.2 same) width
  · have below : ∀ key ∈ map.keys, key < width ↔ key < wider := by
      intro key member
      have outside := gap key member
      omega
    have same : ∀ key, Selects map.keys width key ↔ Selects map.keys wider key := fun key =>
      ⟨.congr below, .congr fun other member => (below other member).symm⟩
    refine ⟨same, fun choice made => ?_⟩
    obtain ⟨nonempty, -⟩ := choose?_eq_some_iff.1 made
    exact ⟨_, choose?_eq_some_iff.2 ⟨nonempty, rfl⟩,
      (isFor choice made).spacing_le (isFor_choose nonempty wider) widened same⟩

end Layout

end TrafficBoard
