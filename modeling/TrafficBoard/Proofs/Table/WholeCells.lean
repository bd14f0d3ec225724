import TrafficBoard.Proofs.Table.LaidOut
import TrafficBoard.Proofs.Table.Listing

/-!
# Texts that stand whole in their columns

A text stands whole in its column if it has the room: nothing of it is cut, and blanks fill
the column behind it.  The columns have the room that they declare, and the grid fits between
the sides of the panel, unless the spacing takes a cell of the last column.
-/

namespace TrafficBoard

namespace Text

/-- A text with blanks behind it up to a width.  Nothing is cut. -/
def filledTo (width : Nat) (text : List Char) : List Char := text ++ blank (width - text.length)

/-- Texts in columns of the given widths, with a gap between each two columns. -/
def columned (gap : Nat) : List Nat → List (List Char) → List Char
  | [width], [text] => filledTo width text
  | width :: widths, text :: texts =>
      filledTo width text ++ blank gap ++ columned gap widths texts
  | _, _ => []

/-- Texts that are no longer than their rooms are not cut there. -/
theorem flatten_laidOut {gap : Nat} {rooms : List Nat} {texts : List (List Char)}
    (fits : List.Forall₂ (fun text room => text.length ≤ room) texts rooms) :
    (laidOut gap rooms texts).flatten = columned gap rooms texts := by
  induction fits with
  | nil => rfl
  | @cons text room texts rooms first others ih =>
      have whole : inRoom room text = filledTo room text := inRoom_of_length_le first
      cases others with
      | nil => rw [laidOut, columned, whole, List.flatten_singleton]
      | cons second more =>
          rw [laidOut, columned, whole, List.flatten_cons, ih]
          all_goals
            intro _ none
            cases none

theorem length_filledTo {width : Nat} {text : List Char} (fits : text.length ≤ width) :
    (filledTo width text).length = width := by
  rw [filledTo, blank, List.length_append, List.length_replicate, Nat.add_sub_cancel' fits]

open Grid in
/-- Texts that fit take the widths of their columns and the spacing behind all but the last. -/
theorem length_columned {gap : Int} (gapNonneg : 0 ≤ gap) {texts : List (List Char)}
    {widths : List Int}
    (fits : List.Forall₂ (fun text width => (text.length : Int) ≤ width) texts widths) :
    ((columned gap.toNat (widths.map Int.toNat) texts).length : Int) =
      totalWidth (spacedWidths gap widths) := by
  induction fits with
  | nil => rfl
  | @cons text width texts widths first others ih =>
      have filled : (filledTo width.toNat text).length = width.toNat :=
        length_filledTo (by omega)
      cases others with
      | nil =>
          rw [List.map_cons, List.map_nil, columned, filled, spacedWidths, totalWidth_cons,
            totalWidth_nil]
          omega
      | cons second more =>
          rw [List.map_cons, columned, List.length_append, List.length_append, filled, blank,
            List.length_replicate, spacedWidths, totalWidth_cons, ← ih]
          · omega
          · exact List.cons_ne_nil _ _
          · intro _ none
            cases none

end Text

namespace Table

open Grid Text

/-- Whether every character of a text takes one cell. -/
def IsNarrowText (text : String) : Prop := IsNarrow text.toList
  deriving Decidable

/-- Whether a line shows texts side by side in the rooms of the columns at a width. -/
def LaysOut (table : Table) (width : Int) (texts : List String) (line : Line) : Prop :=
  let layout := table.layout width
  line.characters = inRoom (innerAt width)
    (laidOut layout.spacing.toNat ((layout.columns.rooms width).map Int.toNat)
      (texts.map String.toList)).flatten

/-- Whether texts stand whole in a line of a width, in the columns of a layout: each fits into
its column, and the line is the texts in their columns, followed by blanks. -/
structure StandWhole (layout : Layout) (width : Nat) (texts : List String) (line : Line) :
    Prop where
  fit : List.Forall₂ (fun text room => (text.toList.length : Int) ≤ room) texts
    layout.columns.widths
  length_eq : line.characters.length = width
  characters_eq : line.characters = filledTo width
    (columned layout.spacing.toNat (layout.columns.widths.map Int.toNat)
      (texts.map String.toList))

variable {table : Table} {theme : Theme} {width : Int} {texts : List String} {line : Line}

theorem length_shownTexts {cells : List String} (member : cells ∈ table.rows) :
    (table.shownTexts width cells).length = (table.layout width).columns.widths.length := by
  have enough : (table.layout width).columns.count.needed ≤ cells.length := by
    rw [table.rows_fit cells member]
    exact table.needed_layout_le width
  rw [shownTexts, ← visible_eq_filterMap _ _ enough, List.length_zipWith, length_visible,
    Columns.length_widths, Nat.min_self]

theorem isNarrow_shownTexts (narrow : table.AllTexts IsNarrowText) {cells : List String}
    (member : cells ∈ table.rows) : ∀ text ∈ table.shownTexts width cells, IsNarrowText text := by
  intro text shown
  obtain ⟨cell, cellMember, room, rfl⟩ := exists_of_mem_shownTexts shown
  intro c inside
  have marked : IsNarrow marker := by decide +kernel
  exact (mem_shorten inside).elim (narrow.rows cells member cell cellMember c) (marked c)

theorem AllTexts.isFeedless (narrow : table.AllTexts IsNarrowText) : table.AllTexts IsFeedless :=
  narrow.imp fun _ textNarrow => IsNarrow.notMem textNarrow (by decide +kernel)

/-- A row of narrow texts, one for each column, takes a line that lays them out. -/
theorem exists_laysOut (positive : ArePositive (table.layout width).columns.widths)
    (fits : (table.layout width).columns.total ≤ width - 2) (row : Grid.Row)
    (narrow : ∀ text ∈ row.texts, IsNarrowText text)
    (paired : row.texts.length = (table.layout width).columns.widths.length) :
    ∃ line, table.Takes width row line ∧ line.cells = innerAt width ∧
      table.LaysOut width row.texts line := by
  have gap : 0 ≤ (table.layout width).spacing := Columns.spacingAt_nonneg _ width
  obtain ⟨drawn, sum⟩ := Columns.drawnWidths_rooms positive fits
  have inner : width - 2 = innerAt width := by
    have atLeast := positive.length_le
    rw [← Columns.total] at atLeast
    rw [innerAt]
    omega
  rw [inner] at sum
  rw [← Columns.length_rooms _ width] at paired
  obtain ⟨line, taken, measured, shown⟩ := exists_takes_laidOut
    (Columns.nonneg_rooms positive width) gap narrow paired sum
  refine ⟨line, ?_, measured, shown⟩
  change row.Takes (innerAt width) _ (drawnWidths (width.toNat - 2)
    (Layout.spacingAt (table.layout width).columns width) _) line
  rw [drawn]
  exact taken

theorem bodyLines_none (width : Int) (header : Line) (shown : List Line) :
    bodyLines width none header shown = header :: shown :=
  congrArg _ (List.append_nil shown)

/-- A panel of narrow texts is drawn with its texts in the rooms of their columns, those of as
many rows as it has lines for. -/
theorem exists_panel_laysOut (title : IsNarrow table.title.toList)
    (narrow : table.AllTexts IsNarrowText) (wide : 8 ≤ width)
    (positive : ArePositive (table.layout width).columns.widths)
    (fits : (table.layout width).columns.total ≤ width - 2) (theme : Theme) (height : Option Int)
    (high : ∀ given ∈ height, 3 ≤ given) :
    ∃ top header rows,
      table.draw theme width.toNat width height =
        .ok (panel theme width top (bodyLines width height header rows)) ∧
      (panel theme width top (bodyLines width height header rows)).shownLines width.toNat =
        .ok (panel theme width top (bodyLines width height header rows)).lines ∧
      table.LaysOut width (table.visibleColumns width) header ∧
      List.Forall₂ (table.LaysOut width) (upTo (rowRoom height) (table.visibleRows width))
        rows := by
  obtain ⟨top, edge, topFills⟩ := Drawing.exists_topEdge_fills
    (fun _ member => (title joiner member).1 rfl) title (fun _ char => char) theme
    (innerAt width)
  have names : ∀ name ∈ (table.headerRow theme width).texts, IsNarrowText name :=
    fun name member => narrow.columns name (mem_of_mem_visibleColumns member)
  have count : (table.headerRow theme width).texts.length =
      (table.layout width).columns.widths.length := by
    rw [headerRow, length_visibleColumns, Columns.length_widths]
  obtain ⟨header, headerTaken, headerFits, headerShown⟩ :=
    exists_laysOut positive fits _ names count
  obtain ⟨rows, rowsTaken⟩ := Attempt.exists_forall₂
    fun cells (member : cells ∈ upTo (rowRoom height) table.rows) =>
      exists_laysOut positive fits (table.textRow width cells)
        (isNarrow_shownTexts narrow (mem_of_mem_upTo member))
        (length_shownTexts (mem_of_mem_upTo member))
  refine ⟨top, header, rows, ?_, ?_, headerShown, ?_⟩
  · rw [draw_eq_ok_iff narrow.isFeedless wide high]
    exact ⟨top, header, rows, edge, headerTaken, rowsTaken.imp fun _ _ taken => taken.1, rfl⟩
  · refine shownLines_panel wide (Nat.le_of_eq topFills.cells_eq) (List.forall_mem_cons.2
      ⟨Nat.le_of_eq headerFits, List.forall_mem_append.2 ⟨?_, ?_⟩⟩)
    · intro line member
      obtain ⟨cells, -, -, measured, -⟩ := Attempt.exists_of_mem_right rowsTaken member
      exact Nat.le_of_eq measured
    · intro line member
      rw [(List.mem_replicate.1 member).2]
      exact Nat.le_of_eq (Run.cells_blank .plain (innerAt width))
  · rw [visibleRows_eq_map, upTo_map, List.forall₂_map_left_iff]
    exact rowsTaken.imp fun _ _ taken => taken.2.2

/-- A table of narrow texts is drawn with its texts in the rooms of their columns. -/
theorem exists_draw_laysOut (title : IsNarrow table.title.toList)
    (narrow : table.AllTexts IsNarrowText) (wide : 8 ≤ width)
    (positive : ArePositive (table.layout width).columns.widths)
    (fits : (table.layout width).columns.total ≤ width - 2) (theme : Theme) :
    ∃ top header rows,
      table.draw theme width.toNat width none = .ok (panel theme width top (header :: rows)) ∧
      (panel theme width top (header :: rows)).shownLines width.toNat =
        .ok (panel theme width top (header :: rows)).lines ∧
      table.LaysOut width (table.visibleColumns width) header ∧
      List.Forall₂ (table.LaysOut width) (table.visibleRows width) rows := by
  have drawn := exists_panel_laysOut title narrow wide positive fits theme none
    fun _ given => by cases given
  simp only [bodyLines_none] at drawn
  exact drawn

theorem forall₂_zipWith_shorten {texts : List String} {widths : List Int}
    (positive : ArePositive widths) (enough : widths.length ≤ texts.length) :
    List.Forall₂ (fun text room => (text.toList.length : Int) ≤ room)
      (List.zipWith shorten texts widths) widths := by
  induction widths generalizing texts with
  | nil => rw [List.zipWith_nil_right]; exact .nil
  | cons width rest ih =>
      obtain ⟨first, others⟩ := arePositive_cons.1 positive
      cases texts with
      | nil => cases enough
      | cons text more =>
          exact .cons (length_shorten_le text (by omega))
            (ih others (Nat.le_of_succ_le_succ enough))

/-- The texts that a table of positive widths shows fit into the widths of its columns. -/
theorem length_le_of_visibleRows (positive : ArePositive (table.layout width).columns.widths) :
    ∀ texts ∈ table.visibleRows width,
      List.Forall₂ (fun text room => (text.toList.length : Int) ≤ room) texts
        (table.layout width).columns.widths := by
  rw [visibleRows_eq_map]
  refine List.forall_mem_map.2 fun cells member => ?_
  have count : (table.shownTexts width cells).length = _ := length_shownTexts member
  rw [shownTexts, List.length_zipWith] at count
  exact forall₂_zipWith_shorten positive (by omega)

/-- Texts that fit into their columns stand whole where the columns keep their widths. -/
theorem LaysOut.standWhole (laid : table.LaysOut width texts line)
    (positive : ArePositive (table.layout width).columns.widths)
    (fits : (table.layout width).columns.total ≤ width - 2)
    (uneven : width ≠
      (table.layout width).columns.total + (table.layout width).columns.widths.length)
    (fit : List.Forall₂ (fun text room => (text.toList.length : Int) ≤ room) texts
      (table.layout width).columns.widths) :
    StandWhole (table.layout width) (innerAt width) texts line := by
  have gap : 0 ≤ (table.layout width).spacing := Columns.spacingAt_nonneg _ width
  have kept : (table.layout width).columns.rooms width = (table.layout width).columns.widths :=
    if_neg uneven
  have lists : List.Forall₂ (fun text room => (text.length : Int) ≤ room)
      (texts.map String.toList) (table.layout width).columns.widths :=
    List.forall₂_map_left_iff.2 fit
  have each : List.Forall₂ (fun text room => text.length ≤ room) (texts.map String.toList)
      ((table.layout width).columns.widths.map Int.toNat) :=
    List.forall₂_map_right_iff.2 (lists.imp fun _ _ fits => by omega)
  have sum := (Columns.drawnWidths_rooms positive fits).2
  rw [kept] at sum
  have shown : line.characters = _ := laid
  rw [kept, flatten_laidOut each] at shown
  refine ⟨fit, ?_, ?_⟩
  · rw [shown, length_inRoom]
  · rw [shown, inRoom_of_length_le]
    · rfl
    · have length := length_columned gap lists
      have same : (table.layout width).spacing =
          Layout.spacingAt (table.layout width).columns width := rfl
      rw [same] at length ⊢
      unfold innerAt
      omega

/-- The rows that a table shows stand whole where the columns keep their widths. -/
theorem forall₂_standWhole (positive : ArePositive (table.layout width).columns.widths)
    (fits : (table.layout width).columns.total ≤ width - 2)
    (uneven : width ≠
      (table.layout width).columns.total + (table.layout width).columns.widths.length)
    {shown : List (List String)} (visible : ∀ texts ∈ shown, texts ∈ table.visibleRows width)
    {rows : List Line} (laid : List.Forall₂ (table.LaysOut width) shown rows) :
    List.Forall₂ (StandWhole (table.layout width) (innerAt width)) shown rows := by
  have each := fun texts member => length_le_of_visibleRows positive texts (visible texts member)
  refine ((List.forall₂_and_left _ _).2 ⟨each, laid⟩).imp fun texts line => ?_
  rintro ⟨fit, lineLaid⟩
  exact lineLaid.standWhole positive fits uneven fit

/-- Columns that fit between the sides of a panel keep their widths, so that every text that
the table shows stands whole, except at one width: where one cell is left over for each
column.  There the last column has a cell less than its width.  The names of the columns are
not shortened, so they stand whole if they fit. -/
theorem texts_stand_whole_unless_one_cell_each (title : IsNarrow table.title.toList)
    (narrow : table.AllTexts IsNarrowText) (wide : 8 ≤ width)
    (positive : ArePositive (table.layout width).columns.widths)
    (fits : (table.layout width).columns.total ≤ width - 2) (theme : Theme) :
    (∃ top header rows,
      table.draw theme width.toNat width none = .ok (panel theme width top (header :: rows)) ∧
      (panel theme width top (header :: rows)).shownLines width.toNat =
        .ok (panel theme width top (header :: rows)).lines ∧
      table.LaysOut width (table.visibleColumns width) header ∧
      List.Forall₂ (table.LaysOut width) (table.visibleRows width) rows ∧
      (width ≠ (table.layout width).columns.total + (table.layout width).columns.widths.length →
        List.Forall₂ (StandWhole (table.layout width) (innerAt width)) (table.visibleRows width)
          rows ∧
        (List.Forall₂ (fun name room => (name.toList.length : Int) ≤ room)
            (table.visibleColumns width) (table.layout width).columns.widths →
          StandWhole (table.layout width) (innerAt width) (table.visibleColumns width)
            header))) ∧
    (width ≠ (table.layout width).columns.total + (table.layout width).columns.widths.length →
      (table.layout width).columns.rooms width = (table.layout width).columns.widths ∧
      (table.layout width).columns.total +
        ((table.layout width).columns.widths.length - 1) * (table.layout width).spacing ≤
          width - 2 ∧
      ∀ texts ∈ table.visibleRows width,
        List.Forall₂ (fun text room => (text.toList.length : Int) ≤ room) texts
          ((table.layout width).columns.rooms width)) ∧
    (width = (table.layout width).columns.total + (table.layout width).columns.widths.length →
      (table.layout width).columns.rooms width =
        lastShortened (table.layout width).columns.widths) := by
  refine ⟨?drawn, ?kept, fun even => if_pos even⟩
  case drawn =>
    obtain ⟨top, header, rows, drawn, shown, headerLaid, rowsLaid⟩ :=
      exists_draw_laysOut title narrow wide positive fits theme
    exact ⟨top, header, rows, drawn, shown, headerLaid, rowsLaid, fun uneven =>
      ⟨forall₂_standWhole positive fits uneven (fun _ member => member) rowsLaid,
        headerLaid.standWhole positive fits uneven⟩⟩
  case kept =>
    intro uneven
    have kept : (table.layout width).columns.rooms width = (table.layout width).columns.widths :=
      if_neg uneven
    rw [kept]
    exact ⟨rfl, Columns.total_add_spacing_le positive fits uneven,
      length_le_of_visibleRows positive⟩

end Table

namespace Utilization

open Grid

/-- A process that moves as much in both directions. -/
def evenProcess : Snapshot where
  connections := .empty
  processes := ⟨[("firefox", ⟨⟨123450, 123450⟩, 1⟩)], by decide⟩
  remotes := .empty
  total := ⟨123450, 123450⟩

/-- The table of that process. -/
def evenTable : Table :=
  table "Utilization by process name" ("Process", "Connections", "Rate Up / Down")
    narrowBreakpoints zero_mem_keys_narrowBreakpoints forall_needed_narrowBreakpoints
    [⟨"firefox", "1", "123.45KBps / 123.45KBps"⟩]

theorem processes_evenProcess : processes evenProcess = .ok evenTable := by
  have rates : (⟨123450, 123450⟩ : Volume).rateText = .ok "123.45KBps / 123.45KBps" := by
    decide +kernel
  refine processes_eq_ok_iff.2 ⟨_, ?_, rfl⟩
  rw [busiestFirst, evenProcess, List.mergeSort_singleton]
  exact .cons ⟨rfl, by decide, rates⟩ .nil

theorem isNarrow_evenTable : evenTable.AllTexts Table.IsNarrowText := by
  constructor <;> decide +kernel

theorem layout_evenTable_38 : evenTable.layout 38 = ⟨twoColumns 12 rateWidth, 1⟩ :=
  layout_table (by decide) (by decide : Layout.lastBelow 38 narrowBreakpoints.entries =
    some (0, twoColumns 12 rateWidth)) _ _ _ _ _

theorem texts_stand_whole_at_38 :
    Text.IsNarrow evenTable.title.toList ∧ evenTable.AllTexts Table.IsNarrowText ∧
      (8 : Int) ≤ 38 ∧ ArePositive (evenTable.layout 38).columns.widths ∧
      (evenTable.layout 38).columns.total ≤ 38 - 2 ∧
      (∃ top header rows,
        evenTable.draw .orange 38 38 none = .ok (Table.panel .orange 38 top (header :: rows)) ∧
        Table.StandWhole (evenTable.layout 38) 36 ["Process", "Rate Up / Down"] header ∧
        List.Forall₂ (Table.StandWhole (evenTable.layout 38) 36) (evenTable.visibleRows 38)
          rows) ∧
      (evenTable.layout 38).columns.rooms 38 = [12, 23] := by
  have title : Text.IsNarrow evenTable.title.toList := by decide +kernel
  have wide : (8 : Int) ≤ 38 := by decide
  have positive : ArePositive (evenTable.layout 38).columns.widths := by
    rw [layout_evenTable_38]
    decide
  have fits : (evenTable.layout 38).columns.total ≤ 38 - 2 := by
    rw [layout_evenTable_38]
    decide
  obtain ⟨⟨top, header, rows, drawn, -, -, -, whole⟩, kept, -⟩ :=
    Table.texts_stand_whole_unless_one_cell_each title isNarrow_evenTable wide positive fits
      .orange
  have uneven : (38 : Int) ≠
      (evenTable.layout 38).columns.total + (evenTable.layout 38).columns.widths.length := by
    rw [layout_evenTable_38]
    decide
  have names : evenTable.visibleColumns 38 = ["Process", "Rate Up / Down"] := by
    rw [Table.visibleColumns, Table.visible_eq_filterMap, layout_evenTable_38]
    rfl
  obtain ⟨rowsWhole, namesWhole⟩ := whole uneven
  rw [names] at namesWhole
  have headerWhole := namesWhole (by rw [layout_evenTable_38]; decide)
  refine ⟨title, isNarrow_evenTable, wide, positive, fits,
    ⟨top, header, rows, drawn, headerWhole, rowsWhole⟩, ?_⟩
  rw [(kept uneven).1, layout_evenTable_38]
  rfl

theorem layout_evenTable_37 : evenTable.layout 37 = ⟨twoColumns 12 rateWidth, 1⟩ :=
  layout_table (by decide) (by decide : Layout.lastBelow 37 narrowBreakpoints.entries =
    some (0, twoColumns 12 rateWidth)) _ _ _ _ _

theorem characters_evenTable_37 {line : Line}
    (shown : evenTable.LaysOut 37 ["firefox", "123.45KBps / 123.45KBps"] line) :
    line.text = "firefox      123.45KBps / 123.45KBp" := by
  rw [Table.LaysOut, layout_evenTable_37] at shown
  rw [Line.text, shown]
  decide +kernel

/-- One cell is left over for each of the two columns, and the last rate is cut. -/
theorem last_text_is_cut_at_37 :
    processes evenProcess = .ok evenTable ∧ Text.IsNarrow evenTable.title.toList ∧
      evenTable.AllTexts Table.IsNarrowText ∧
      ArePositive (evenTable.layout 37).columns.widths ∧
      (evenTable.layout 37).columns.total ≤ 37 - 2 ∧
      evenTable.visibleRows 37 = [["firefox", "123.45KBps / 123.45KBps"]] ∧
      ∃ top header row,
        evenTable.draw .orange 37 37 none = .ok (Table.panel .orange 37 top [header, row]) ∧
        row.text = "firefox      123.45KBps / 123.45KBp" := by
  have title : Text.IsNarrow evenTable.title.toList := by decide +kernel
  have positive : ArePositive (evenTable.layout 37).columns.widths := by
    rw [layout_evenTable_37]
    decide
  have fits : (evenTable.layout 37).columns.total ≤ 37 - 2 := by
    rw [layout_evenTable_37]
    decide
  have visible : evenTable.visibleRows 37 = [["firefox", "123.45KBps / 123.45KBps"]] := by
    have rows : evenTable.rows = [["firefox", "1", "123.45KBps / 123.45KBps"]] := rfl
    rw [Table.visibleRows_eq_map, rows, List.map_singleton, Table.shownTexts,
      layout_evenTable_37]
    decide
  obtain ⟨top, header, rows, drawn, -, -, shown⟩ :=
    Table.exists_draw_laysOut title isNarrow_evenTable (by decide) positive fits .orange
  rw [visible] at shown
  obtain ⟨row, _, first, none, rfl⟩ := List.forall₂_cons_left_iff.1 shown
  obtain rfl := List.forall₂_nil_left_iff.1 none
  exact ⟨processes_evenProcess, title, isNarrow_evenTable, positive, fits, visible, top, header,
    row, drawn, characters_evenTable_37 first⟩

end Utilization

end TrafficBoard
