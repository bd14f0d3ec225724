import TrafficBoard.Proofs.Table.Choosing
import TrafficBoard.Proofs.Table.Panels

/-!
# What an accepted table shows

Parts make a table unless the breakpoint zero is missing, a layout shows a column that the table
lacks, or a row has another number of cells than there are columns.  The first of these faults
is the one that is reported.

An accepted table has a layout for every width, and each column of the layout is one of the
table.  So the header and every row show a text for each of them: none is missing, none is
passed over, and each is found where the layout says.
-/

namespace TrafficBoard

namespace ColumnCount

/-- Whether a count shows a column behind the given number of them. -/
def Exceeds (count : ColumnCount) (given : Nat) : Prop := ∃ index ∈ count.indices, given ≤ index
  deriving Decidable

/-- The last column shown is the one that tells how many are needed. -/
theorem exceeds_iff {count : ColumnCount} {given : Nat} :
    count.Exceeds given ↔ given < count.needed := by
  cases count <;> simp only [Exceeds, indices, needed, List.exists_mem_cons_iff,
    List.not_mem_nil, false_and, exists_false, or_false] <;> omega

/-- What a count leaves of some cells: the first ones, of which two columns leave out the
second. -/
def pick {α : Type} (count : ColumnCount) (cells : List α) : List α :=
  match count with
  | .two => (cells.eraseIdx 1).take 2
  | .three => cells.take 3
  | .four => cells.take 4

end ColumnCount

namespace Table

/-! ## Accepted parts -/

/-- The errors that parts are refused with: there is no breakpoint zero; or there is one, and a
layout exceeds the columns, the first one that does; or all layouts fit, and a row does not, the
first one that does not. -/
inductive Refuses (title : String) (columns : List String) (rows : List (List String))
    (map : Keyed Int Columns) : Error → Prop where
  | noBase : 0 ∉ map.keys → Refuses title columns rows map (.noBase title)
  | tooFewColumns {front back : List (Int × Columns)} {entry : Int × Columns} :
      0 ∈ map.keys → map.entries = front ++ entry :: back →
      (∀ other ∈ front, ¬other.2.count.Exceeds columns.length) →
      entry.2.count.Exceeds columns.length →
      Refuses title columns rows map (.tooFewColumns title entry.2.count columns.length)
  | raggedRow {front back : List (List String)} {row : List String} :
      0 ∈ map.keys → (∀ entry ∈ map.entries, ¬entry.2.count.Exceeds columns.length) →
      rows = front ++ row :: back → (∀ other ∈ front, other.length = columns.length) →
      row.length ≠ columns.length →
      Refuses title columns rows map (.raggedRow title row.length columns.length)

/-- Whether parts make a table. -/
structure Fit (columns : List String) (rows : List (List String)) (map : Keyed Int Columns) :
    Prop where
  base : 0 ∈ map.keys
  layouts : ∀ entry ∈ map.entries, ¬entry.2.count.Exceeds columns.length
  rows : ∀ row ∈ rows, row.length = columns.length

/-- Whether a table consists of the given parts, with its breakpoints in rising order. -/
structure IsOf (table : Table) (title : String) (columns : List String)
    (rows : List (List String)) (map : Keyed Int Columns) : Prop where
  title_eq : table.title = title
  columns_eq : table.columns = columns
  rows_eq : table.rows = rows
  breakpoints_eq : table.breakpoints = Layout.ascending map.entries

variable {title : String} {columns : List String} {rows : List (List String)}
variable {map : Keyed Int Columns} {error : Error} {table : Table}

/-- The parts are accepted as they are, or refused with one of the errors. -/
theorem make_cases (title : String) (columns : List String) (rows : List (List String))
    (map : Keyed Int Columns) :
    (Fit columns rows map ∧
      ∃ table, make title columns rows map = .ok table ∧ table.IsOf title columns rows map) ∨
    ∃ error, make title columns rows map = .error error ∧
      Refuses title columns rows map error := by
  unfold make
  split
  · next base =>
      split
      · next entry unfit =>
          obtain ⟨exceeds, front, back, divided, before⟩ := List.find?_eq_some_iff_append.1 unfit
          refine .inr ⟨_, rfl, .tooFewColumns base divided (fun other member => ?_) ?_⟩
          · have fits := before other member
            rw [ColumnCount.exceeds_iff]
            simpa using fits
          · exact ColumnCount.exceeds_iff.2 (of_decide_eq_true exceeds)
      · next unfit =>
          have layouts : ∀ entry ∈ map.entries, ¬entry.2.count.Exceeds columns.length := by
            intro entry member
            rw [ColumnCount.exceeds_iff]
            simpa using List.find?_eq_none.1 unfit entry member
          split
          · next row ragged =>
              obtain ⟨wrong, front, back, divided, before⟩ :=
                List.find?_eq_some_iff_append.1 ragged
              refine .inr ⟨_, rfl, .raggedRow base layouts divided (fun other member => ?_) ?_⟩
              · simpa using before other member
              · exact of_decide_eq_true wrong
          · next ragged =>
              refine .inl ⟨⟨base, layouts, fun row member => ?_⟩, _, rfl, rfl, rfl, rfl, rfl⟩
              simpa using List.find?_eq_none.1 ragged row member
  · next noBase => exact .inr ⟨_, rfl, .noBase noBase⟩

/-- Parts that are refused do not make a table. -/
theorem Refuses.not_fit (refused : Refuses title columns rows map error) :
    ¬Fit columns rows map := by
  intro fit
  cases refused with
  | noBase absent => exact absent fit.base
  | tooFewColumns _ divided _ exceeds =>
      exact fit.layouts _ (divided ▸ List.mem_append_cons_self) exceeds
  | raggedRow _ _ divided _ wrong =>
      exact wrong (fit.rows _ (divided ▸ List.mem_append_cons_self))

/-- What stands behind entries without a fault, and has one, is the first faulty entry. -/
theorem find?_of_first {α : Type} {faulty : α → Prop} [DecidablePred faulty]
    {entries front back : List α} {entry : α} (divided : entries = front ++ entry :: back)
    (before : ∀ other ∈ front, ¬faulty other) (found : faulty entry) :
    entries.find? (fun entry => faulty entry) = some entry :=
  List.find?_eq_some_iff_append.2 ⟨decide_eq_true found, front, back, divided,
    fun other member => by simpa using before other member⟩

/-- There is one error for parts that are refused. -/
theorem Refuses.unique {other : Error} (refused : Refuses title columns rows map error)
    (again : Refuses title columns rows map other) : error = other := by
  cases refused with
  | noBase absent =>
      cases again with
      | noBase _ => rfl
      | tooFewColumns base _ _ _ => exact absurd base absent
      | raggedRow base _ _ _ _ => exact absurd base absent
  | tooFewColumns base divided before exceeds =>
      cases again with
      | noBase absent => exact absurd base absent
      | tooFewColumns _ otherDivided otherBefore otherExceeds =>
          have same := (find?_of_first divided before exceeds).symm.trans
            (find?_of_first otherDivided otherBefore otherExceeds)
          rw [Option.some.inj same]
      | raggedRow _ layouts _ _ _ =>
          have member := divided ▸ List.mem_append_cons_self
          exact absurd exceeds (layouts _ member)
  | raggedRow base layouts divided before wrong =>
      cases again with
      | noBase absent => exact absurd base absent
      | tooFewColumns _ otherDivided _ otherExceeds =>
          have member := otherDivided ▸ List.mem_append_cons_self
          exact absurd otherExceeds (layouts _ member)
      | raggedRow _ _ otherDivided otherBefore otherWrong =>
          have same :=
            (find?_of_first divided (fun other member => not_not.2 (before other member))
              wrong).symm.trans
            (find?_of_first otherDivided
              (fun other member => not_not.2 (otherBefore other member)) otherWrong)
          rw [Option.some.inj same]

theorem make_eq_error_iff :
    make title columns rows map = .error error ↔ Refuses title columns rows map error := by
  rcases make_cases title columns rows map with ⟨fit, table, made, -⟩ | ⟨other, failed, refused⟩
  · rw [made]
    constructor
    · intro wrong
      cases wrong
    · intro refused
      exact absurd fit refused.not_fit
  · rw [failed]
    exact ⟨fun same => Except.error.inj same ▸ refused,
      fun again => congrArg _ (refused.unique again)⟩

/-- Parts are refused for one of three reasons. -/
theorem make_fails_iff : (∃ error, make title columns rows map = .error error) ↔
    0 ∉ map.keys ∨ (∃ entry ∈ map.entries, entry.2.count.Exceeds columns.length) ∨
      ∃ row ∈ rows, row.length ≠ columns.length := by
  rcases make_cases title columns rows map with ⟨fit, table, made, -⟩ | ⟨error, failed, refused⟩
  · rw [made]
    constructor
    · rintro ⟨_, wrong⟩
      cases wrong
    · rintro (absent | ⟨entry, member, exceeds⟩ | ⟨row, member, wrong⟩)
      · exact absurd fit.base absent
      · exact absurd exceeds (fit.layouts entry member)
      · exact absurd (fit.rows row member) wrong
  · refine ⟨fun _ => ?_, fun _ => ⟨error, failed⟩⟩
    cases refused with
    | noBase absent => exact .inl absent
    | tooFewColumns _ divided _ exceeds =>
        exact .inr (.inl ⟨_, divided ▸ List.mem_append_cons_self, exceeds⟩)
    | raggedRow _ _ divided _ wrong =>
        exact .inr (.inr ⟨_, divided ▸ List.mem_append_cons_self, wrong⟩)

theorem isOf_of_make_eq_ok (made : make title columns rows map = .ok table) :
    table.IsOf title columns rows map := by
  rcases make_cases title columns rows map with ⟨-, other, otherMade, isOf⟩ | ⟨error, failed, -⟩
  · rw [made] at otherMade
    cases otherMade
    exact isOf
  · rw [made] at failed
    cases failed

/-! ## Visible cells -/

/-- A count shows the cells that it picks. -/
theorem visible_eq_pick {α : Type} (count : ColumnCount) (cells : List α)
    (enough : count.needed ≤ cells.length) : visible count cells enough = count.pick cells := by
  rw [visible_eq_filterMap]
  match cells with
  | [] | [_] | [_, _] | [_, _, _] | _ :: _ :: _ :: _ :: _ => cases count <;> rfl

/-- The cell in each place is the one at the index that the count has there. -/
theorem getElem?_visible {α : Type} {count : ColumnCount} {cells : List α}
    (enough : count.needed ≤ cells.length) {place : Nat} (within : place < count.toNat) :
    ∃ index cell, count.indices[place]? = some index ∧ cells[index]? = some cell ∧
      (visible count cells enough)[place]? = some cell := by
  have inside : place < count.indices.length := count.length_indices ▸ within
  have needed := ColumnCount.lt_needed (List.getElem_mem inside)
  refine ⟨count.indices[place], cells[count.indices[place]],
    List.getElem?_eq_getElem inside, List.getElem?_eq_getElem _, ?_⟩
  rw [List.getElem?_eq_getElem (by rw [length_visible]; exact within)]
  simp [visible]

/-- Whether texts show the cells of a row in a layout: for each of its columns the cell at the
index of the column, shortened to the width of the column. -/
structure ShowsCells (columns : Columns) (cells shown : List String) : Prop where
  length_eq : shown.length = columns.count.toNat
  each : ∀ place < columns.count.toNat, ∃ index room cell,
    columns.count.indices[place]? = some index ∧ columns.widths[place]? = some room ∧
      cells[index]? = some cell ∧ shown[place]? = some (shorten cell room) ∧
      ((shorten cell room).toList.length : Int) ≤ max room 0
  picked : shown = List.zipWith shorten (columns.count.pick cells) columns.widths

theorem showsCells_shownTexts {width : Int} {cells : List String} (member : cells ∈ table.rows) :
    ShowsCells (table.layout width).columns cells (table.shownTexts width cells) := by
  have enough : (table.layout width).columns.count.needed ≤ cells.length := by
    rw [table.rows_fit cells member]
    exact table.needed_layout_le width
  have paired := (table.layout width).columns.length_widths
  rw [shownTexts, ← visible_eq_filterMap _ _ enough]
  refine ⟨?_, fun place within => ?_, by rw [visible_eq_pick]⟩
  · rw [List.length_zipWith, length_visible, paired, Nat.min_self]
  · obtain ⟨index, cell, indexed, found, shown⟩ := getElem?_visible enough within
    have room := List.getElem?_eq_getElem (paired.symm ▸ within)
    refine ⟨index, _, cell, indexed, room, found, ?_, Text.length_shorten_le_max cell _⟩
    rw [List.getElem?_zipWith, shown, room]

/-- What a table shows at a width: the layout of its breakpoints, the names of the columns of
that layout, and all its rows in their order. -/
structure ShowsAt (table : Table) (map : Keyed Int Columns) (width : Int) : Prop where
  choice_eq : Layout.choose? map.entries width = some (table.choice width)
  length_names : (table.visibleColumns width).length = (table.layout width).columns.count.toNat
  names : ∀ place < (table.layout width).columns.count.toNat, ∃ index name,
    (table.layout width).columns.count.indices[place]? = some index ∧
      table.columns[index]? = some name ∧ (table.visibleColumns width)[place]? = some name
  picked : table.visibleColumns width = (table.layout width).columns.count.pick table.columns
  rows : List.Forall₂ (ShowsCells (table.layout width).columns) table.rows
    (table.visibleRows width)

theorem IsOf.showsAt (isOf : table.IsOf title columns rows map) (width : Int) :
    table.ShowsAt map width where
  choice_eq := by
    have perm : (Layout.ascending map.entries).Perm map.entries := List.mergeSort_perm _ _
    rw [Layout.choose?_eq_of_perm map.distinct perm.symm width, ← isOf.breakpoints_eq]
    exact Layout.choose?_eq_some_iff.2 ⟨table.breakpoints_ne_nil, rfl⟩
  length_names := length_visibleColumns table width
  names _ within := getElem?_visible _ within
  picked := visible_eq_pick _ _ _
  rows := by
    rw [visibleRows_eq_map, List.forall₂_map_right_iff, List.forall₂_same]
    exact fun cells member => showsCells_shownTexts member

/-- Parts are refused exactly if they have one of three faults, with the error of the first one,
and the order of the breakpoints does not decide whether.  A table that is accepted consists of
its parts, and shows them at every width. -/
theorem accepted_table_shows_at_every_width (title : String) (columns : List String)
    (rows : List (List String)) (map : Keyed Int Columns) :
    ((∃ error, make title columns rows map = .error error) ↔
      0 ∉ map.keys ∨ (∃ entry ∈ map.entries, entry.2.count.Exceeds columns.length) ∨
        ∃ row ∈ rows, row.length ≠ columns.length) ∧
    (∀ error, make title columns rows map = .error error ↔
      Refuses title columns rows map error) ∧
    (∀ given, (ColumnCount.two.Exceeds given ↔ given < 3) ∧
      (ColumnCount.three.Exceeds given ↔ given < 3) ∧
      (ColumnCount.four.Exceeds given ↔ given < 4)) ∧
    (∀ other : Keyed Int Columns, (∀ key, other.find? key = map.find? key) →
      ((∃ error, make title columns rows other = .error error) ↔
        ∃ error, make title columns rows map = .error error)) ∧
    ∀ table, make title columns rows map = .ok table →
      table.IsOf title columns rows map ∧ ∀ width, table.ShowsAt map width := by
  refine ⟨make_fails_iff, fun _ => make_eq_error_iff, fun _ => ⟨ColumnCount.exceeds_iff,
    ColumnCount.exceeds_iff, ColumnCount.exceeds_iff⟩, fun other same => ?_, fun table made => ?_⟩
  · have perm := Keyed.entries_perm_iff.2 same
    have keys : 0 ∈ other.keys ↔ 0 ∈ map.keys := (perm.map Prod.fst).mem_iff
    simp only [make_fails_iff, keys, perm.mem_iff]
  · have isOf := isOf_of_make_eq_ok made
    exact ⟨isOf, isOf.showsAt⟩

end Table

end TrafficBoard
