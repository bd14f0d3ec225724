import TrafficBoard.Proofs.Table.Rows
import TrafficBoard.Proofs.Text.Narrow
import TrafficBoard.Table.Panel

/-!
# Panels

Between the edges of a panel stands the grid of the table, cut or filled to the height of
the panel.  If no line of a text starts with a joiner there is such a grid, and its lines are
as wide as the panel has room for.

A table whose texts have no line feeds has one line for its header and one for each row.  Its
panel shows the header, as many of the first rows as the height has lines for, and blank lines.
-/

namespace TrafficBoard

namespace Table

/-! ## Visible texts -/

/-- The texts that a table shows of some cells at a width. -/
def shownTexts (table : Table) (width : Int) (cells : List String) : List String :=
  let columns := (table.layout width).columns
  List.zipWith shorten (columns.count.indices.filterMap (cells[·]?)) columns.widths

theorem visible_eq_filterMap {α : Type} (count : ColumnCount) (cells : List α)
    (enough : count.needed ≤ cells.length) :
    visible count cells enough = count.indices.filterMap (cells[·]?) := by
  have found : ∀ index : { index // index ∈ count.indices },
      cells[index.1]? = some (cells.get
        ⟨index.1, Nat.lt_of_lt_of_le (ColumnCount.lt_needed index.2) enough⟩) :=
    fun index => List.getElem?_eq_getElem _
  conv_rhs => rw [← List.attach_map_subtype_val count.indices, List.filterMap_map]
  simp only [Function.comp_def, found]
  rw [List.filterMap_eq_map']
  rfl

theorem visibleRows_eq_map (table : Table) (width : Int) :
    table.visibleRows width = table.rows.map (table.shownTexts width) := by
  have same : ∀ row : { row // row ∈ table.rows },
      table.visibleRow width row.1 row.2 = table.shownTexts width row.1 := by
    intro row
    rw [visibleRow, visible_eq_filterMap]
    rfl
  conv_rhs => rw [← List.attach_map_subtype_val table.rows, List.map_map]
  exact List.map_congr_left fun row _ => same row

theorem mem_of_mem_visibleColumns {table : Table} {width : Int} {name : String}
    (member : name ∈ table.visibleColumns width) : name ∈ table.columns := by
  rw [visibleColumns, visible_eq_filterMap] at member
  obtain ⟨index, -, found⟩ := List.mem_filterMap.1 member
  exact List.mem_of_getElem? found

theorem exists_of_mem_shownTexts {table : Table} {width : Int} {cells : List String}
    {text : String} (member : text ∈ table.shownTexts width cells) :
    ∃ cell ∈ cells, ∃ room, text = shorten cell room := by
  rw [shownTexts, ← List.map_uncurry_zip_eq_zipWith] at member
  obtain ⟨⟨cell, room⟩, pair, rfl⟩ := List.mem_map.1 member
  obtain ⟨index, -, found⟩ := List.mem_filterMap.1 (List.of_mem_zip pair).1
  exact ⟨cell, List.mem_of_getElem? found, room, rfl⟩

/-- Whether all texts of a table, its title apart, have a property. -/
structure AllTexts (property : String → Prop) (table : Table) : Prop where
  columns : ∀ name ∈ table.columns, property name
  rows : ∀ row ∈ table.rows, ∀ cell ∈ row, property cell

theorem AllTexts.imp {property other : String → Prop} {table : Table}
    (texts : table.AllTexts property) (weaker : ∀ text, property text → other text) :
    table.AllTexts other where
  columns name member := weaker name (texts.columns name member)
  rows row member cell inside := weaker cell (texts.rows row member cell inside)

/-! ## The rows of the grid -/

/-- The header as a row of the grid. -/
def headerRow (table : Table) (theme : Theme) (width : Int) : Grid.Row :=
  ⟨.bold theme.header, .bottom, table.visibleColumns width⟩

/-- Some cells as a row of the grid. -/
def textRow (table : Table) (width : Int) (cells : List String) : Grid.Row :=
  ⟨.plain, .top, table.shownTexts width cells⟩

/-- The width between the sides of a panel as wide as its terminal. -/
def innerAt (width : Int) : Nat := width.toNat - 2

/-- Whether a line is all that a row takes in the grid of a table at a width. -/
def Takes (table : Table) (width : Int) (row : Grid.Row) (line : Line) : Prop :=
  let layout := table.layout width
  row.Takes (innerAt width) layout.spacing.toNat
    (Grid.drawnWidths (innerAt width) layout.spacing layout.columns.widths) line

/-- Whether a text has no line feed. -/
def IsFeedless (text : String) : Prop := '\n' ∉ text.toList
  deriving Decidable

/-- Whether a text starts with no joiner where it is displayed. -/
def IsCuttable (text : String) : Prop := Text.StartsWithoutJoiner text.toList
  deriving Decidable

variable {table : Table} {theme : Theme} {width : Int} {height : Option Int}

theorem isFeedless_headerRow (feedless : table.AllTexts IsFeedless) :
    (table.headerRow theme width).IsFeedless :=
  fun _ member => feedless.columns _ (mem_of_mem_visibleColumns member)

theorem isFeedless_textRow (feedless : table.AllTexts IsFeedless) {cells : List String}
    (member : cells ∈ table.rows) : (table.textRow width cells).IsFeedless := by
  intro text shown
  obtain ⟨cell, cellMember, room, rfl⟩ := exists_of_mem_shownTexts shown
  exact Text.notMem_shorten (feedless.rows cells member cell cellMember) (by decide) room

/-- Whether no line of a text of a table starts with a joiner, and the texts consist of
allowed characters. -/
def HasCuttableTexts (allowed : Char → Prop) (table : Table) : Prop :=
  table.AllTexts fun text => Text.HasCuttableLines allowed text.toList

section Cuttable

variable {allowed : Char → Prop}

/-- Texts of one line that start with no joiner have no other line that does. -/
theorem hasCuttableTexts_of_isCuttable (feedless : table.AllTexts IsFeedless)
    (cuttable : table.AllTexts IsCuttable)
    (mem : table.AllTexts fun text => ∀ c ∈ text.toList, allowed c) :
    table.HasCuttableTexts allowed where
  columns name member := Text.hasCuttableLines_of_startsWithoutJoiner
    (feedless.columns name member) (cuttable.columns name member) (mem.columns name member)
  rows row member cell inside := Text.hasCuttableLines_of_startsWithoutJoiner
    (feedless.rows row member cell inside) (cuttable.rows row member cell inside)
    (mem.rows row member cell inside)

theorem isCuttable_headerRow (cuttable : table.HasCuttableTexts allowed) :
    (table.headerRow theme width).IsCuttable allowed :=
  fun _ member => cuttable.columns _ (mem_of_mem_visibleColumns member)

theorem isCuttable_textRow (cuttable : table.HasCuttableTexts allowed)
    (allows : Text.AllowsNarrow allowed) {cells : List String} (member : cells ∈ table.rows) :
    (table.textRow width cells).IsCuttable allowed := by
  intro text shown
  obtain ⟨cell, cellMember, room, rfl⟩ := exists_of_mem_shownTexts shown
  exact (cuttable.rows cells member cell cellMember).shorten
    (fun c inside => allows c (Text.isNarrow_marker c inside)) room

end Cuttable

/-! ## Between the edges -/

/-- The number of rows that a panel of a height has lines for; any without a height. -/
def rowRoom (height : Option Int) : Option Nat := height.map fun height => (height - 3).toNat

/-- The lines of a panel that so many rows leave blank. -/
def blankLines (height : Option Int) (rows : Nat) : Nat :=
  (rowRoom height).elim 0 (· - rows)

/-- The lines between the edges of a panel with the given lines for its header and its
rows. -/
def bodyLines (width : Int) (height : Option Int) (header : Line) (shown : List Line) :
    List Line :=
  header :: (shown ++ List.replicate (blankLines height shown.length)
    [.blank .plain (innerAt width)])

theorem upTo_map {α β : Type} (change : α → β) (limit : Option Nat) (entries : List α) :
    Grid.upTo limit (entries.map change) = (Grid.upTo limit entries).map change := by
  cases limit with
  | none => rfl
  | some count => exact List.map_take.symm

theorem map_visibleRows (table : Table) (width : Int) :
    (table.visibleRows width).map (fun texts => (⟨.plain, .top, texts⟩ : Grid.Row)) =
      table.rows.map (table.textRow width) := by
  rw [visibleRows_eq_map, List.map_map]
  rfl

/-- The grid of a table can be drawn, and its lines are as wide as its region. -/
theorem exists_grid {allowed : Char → Prop} (cuttable : table.HasCuttableTexts allowed)
    (allows : Text.AllowsNarrow allowed) (theme : Theme) (inner : Nat) (width : Int)
    (limit : Option Nat) :
    ∃ lines, Grid.lines inner (table.layout width).spacing (table.layout width).columns.widths
        (.bold theme.header) (table.visibleColumns width) (table.visibleRows width) limit =
        .ok lines ∧
      ∀ line ∈ lines, line.Fills allowed inner := by
  unfold Grid.lines
  split
  · exact ⟨[], rfl, List.forall_mem_nil _⟩
  · rw [map_visibleRows]
    refine Grid.exists_rowLines (List.forall_mem_cons.2 ⟨isCuttable_headerRow cuttable,
      List.forall_mem_map.2 fun cells member => ?_⟩) allows.space _ _ _ _
    exact isCuttable_textRow cuttable allows member

/-- What stands between the edges of a panel can be drawn, and is as wide as there is room
for. -/
theorem exists_body {allowed : Char → Prop} (cuttable : table.HasCuttableTexts allowed)
    (allows : Text.AllowsNarrow allowed) (theme : Theme) (inner : Nat) (width : Int)
    (height : Option Int) :
    ∃ lines, Drawing.body table theme inner width height = .ok lines ∧
      ∀ line ∈ lines, line.Fills allowed inner := by
  obtain ⟨grid, done, fills⟩ :=
    exists_grid cuttable allows theme inner width (Drawing.bodyHeight height)
  unfold Drawing.body
  cases limit : Drawing.bodyHeight height with
  | none =>
      rw [limit] at done
      exact ⟨grid, Attempt.bind_eq_ok_iff.2 ⟨grid, done, rfl⟩, fills⟩
  | some count =>
      rw [limit] at done
      refine ⟨_, Attempt.bind_eq_ok_iff.2 ⟨grid, done, rfl⟩, List.forall_mem_append.2 ⟨?_, ?_⟩⟩
      · exact fun line member => fills line (List.mem_of_mem_take member)
      · intro line member
        rw [(List.mem_replicate.1 member).2]
        exact Line.fills_blank allows.space .plain inner

/-- The grid has a line for the header, and one for each of the first rows. -/
theorem grid_eq_ok_iff (feedless : table.AllTexts IsFeedless) (wide : 8 ≤ width)
    {limit : Option Nat} (room : limit ≠ some 0) {lines : List Line} :
    Grid.lines (innerAt width) (table.layout width).spacing (table.layout width).columns.widths
        (.bold theme.header) (table.visibleColumns width) (table.visibleRows width) limit =
        .ok lines ↔
      ∃ header shown, table.Takes width (table.headerRow theme width) header ∧
        List.Forall₂ (fun cells => table.Takes width (table.textRow width cells))
          (Grid.upTo (limit.map (· - 1)) table.rows) shown ∧
        lines = header :: shown := by
  have positive : innerAt width ≠ 0 := by
    unfold innerAt
    omega
  have each : ∀ row ∈ table.headerRow theme width :: table.rows.map (table.textRow width),
      row.IsFeedless := by
    refine List.forall_mem_cons.2 ⟨isFeedless_headerRow feedless, List.forall_mem_map.2 ?_⟩
    exact fun cells member => isFeedless_textRow feedless member
  rw [Grid.lines, if_neg positive, map_visibleRows]
  change Grid.rowLines _ _ _ limit (table.headerRow theme width :: _) = _ ↔ _
  rw [Grid.rowLines_eq_ok_iff each, Grid.upTo_cons room, upTo_map, List.forall₂_cons_left_iff]
  simp only [List.forall₂_map_left_iff]
  exact ⟨fun ⟨header, shown, first, others, same⟩ => ⟨header, shown, first, others, same⟩,
    fun ⟨header, shown, first, others, same⟩ => ⟨header, shown, first, others, same⟩⟩

theorem length_upTo_le {α : Type} (count : Nat) (entries : List α) :
    (Grid.upTo (some count) entries).length ≤ count :=
  List.length_take_le count entries

theorem body_eq_ok_iff (feedless : table.AllTexts IsFeedless) (wide : 8 ≤ width)
    (high : ∀ given ∈ height, 3 ≤ given) {lines : List Line} :
    Drawing.body table theme (innerAt width) width height = .ok lines ↔
      ∃ header shown, table.Takes width (table.headerRow theme width) header ∧
        List.Forall₂ (fun cells => table.Takes width (table.textRow width cells))
          (Grid.upTo (rowRoom height) table.rows) shown ∧
        lines = bodyLines width height header shown := by
  cases height with
  | none =>
      have all : Drawing.body table theme (innerAt width) width none =
          Grid.lines (innerAt width) (table.layout width).spacing
            (table.layout width).columns.widths (.bold theme.header)
            (table.visibleColumns width) (table.visibleRows width) none := bind_pure _
      have kept : ∀ header shown, bodyLines width none header shown = header :: shown :=
        fun header shown => congrArg _ (List.append_nil shown)
      rw [all, grid_eq_ok_iff feedless wide (Option.some_ne_none 0).symm]
      simp only [kept]
      rfl
  | some given =>
      have least : 3 ≤ given := high given rfl
      obtain ⟨room, same⟩ : ∃ room, (given - 3).toNat = room := ⟨_, rfl⟩
      have limit : Drawing.bodyHeight (some given) = some (room + 1) := by
        rw [Drawing.bodyHeight, Option.map_some]
        congr 1
        omega
      have shaped : Drawing.body table theme (innerAt width) width (some given) =
          Grid.lines (innerAt width) (table.layout width).spacing
              (table.layout width).columns.widths (.bold theme.header)
              (table.visibleColumns width) (table.visibleRows width) (some (room + 1)) >>=
            fun grid => .ok (Drawing.fitLines (innerAt width) (room + 1) grid) := by
        rw [Drawing.body, limit]
        rfl
      have rooms : rowRoom (some given) = some room := by rw [rowRoom, Option.map_some, same]
      have filled : ∀ {header : Line} {shown : List Line}, shown.length ≤ room →
          Drawing.fitLines (innerAt width) (room + 1) (header :: shown) =
            bodyLines width (some given) header shown := by
        intro header shown fits
        rw [Drawing.fitLines, List.take_succ_cons, List.take_of_length_le fits,
          List.length_cons, Nat.add_sub_add_right, bodyLines, blankLines, rooms,
          Option.elim_some]
        rfl
      have some : some (room + 1) ≠ some 0 := by simp
      rw [shaped, Attempt.bind_eq_ok_iff, rooms]
      simp only [grid_eq_ok_iff feedless wide some, Option.map_some, Nat.add_sub_cancel]
      constructor
      · rintro ⟨_, ⟨header, shown, first, others, rfl⟩, result⟩
        have fits : shown.length ≤ room := others.length_eq ▸ length_upTo_le room table.rows
        rw [filled fits] at result
        exact ⟨header, shown, first, others, (Except.ok.inj result).symm⟩
      · rintro ⟨header, shown, first, others, rfl⟩
        have fits : shown.length ≤ room := others.length_eq ▸ length_upTo_le room table.rows
        exact ⟨_, ⟨header, shown, first, others, rfl⟩, congrArg _ (filled fits)⟩

/-! ## Panels -/

theorem innerWidth_eq (title : List (List Char)) (width : Nat) :
    Drawing.innerWidth title width width = width - 2 := by
  simp only [Drawing.innerWidth, Nat.min_self]
  split <;> omega

/-- A panel as wide as its terminal has its upper edge, the lines of its body between its
sides and its lower edge. -/
def panel (theme : Theme) (width : Int) (top : Line) (body : List Line) : Drawing :=
  .panel (top :: (body.map (Drawing.framed theme) ++
    [Drawing.bottomEdge theme (innerAt width)]))

theorem isTooSmall_eq_false (wide : 8 ≤ width) (high : ∀ given ∈ height, 3 ≤ given) :
    Drawing.isTooSmall width height = false := by
  unfold Drawing.isTooSmall Drawing.leastWidth Drawing.leastHeight
  cases height with
  | none => simpa using wide
  | some given =>
      have least := high given rfl
      simp only [Option.any_some, Bool.or_eq_false_iff, decide_eq_false_iff_not]
      omega

theorem draw_eq_ok_iff (feedless : table.AllTexts IsFeedless) (wide : 8 ≤ width)
    (high : ∀ given ∈ height, 3 ≤ given) {drawing : Drawing} :
    table.draw theme width.toNat width height = .ok drawing ↔
      ∃ top header shown,
        Drawing.topEdge theme (Drawing.titleParts table.title) (innerAt width) = .ok top ∧
        table.Takes width (table.headerRow theme width) header ∧
        List.Forall₂ (fun cells => table.Takes width (table.textRow width cells))
          (Grid.upTo (rowRoom height) table.rows) shown ∧
        drawing = panel theme width top (bodyLines width height header shown) := by
  rw [draw, isTooSmall_eq_false wide high, if_neg Bool.false_ne_true, Attempt.map_eq_ok_iff,
    Drawing.panelLines, innerWidth_eq]
  change (∃ lines, (Drawing.body table theme (innerAt width) width height >>= _) = _ ∧ _) ↔ _
  simp only [Attempt.bind_eq_ok_iff, body_eq_ok_iff feedless wide high]
  constructor
  · rintro ⟨_, ⟨_, ⟨header, shown, first, others, rfl⟩, top, edge, same⟩, rfl⟩
    cases same
    exact ⟨top, header, shown, edge, first, others, rfl⟩
  · rintro ⟨top, header, shown, edge, first, others, rfl⟩
    exact ⟨_, ⟨_, ⟨header, shown, first, others, rfl⟩, top, edge, rfl⟩, rfl⟩

end Table

end TrafficBoard
