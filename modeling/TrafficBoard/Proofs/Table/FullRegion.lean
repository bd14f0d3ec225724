import TrafficBoard.Proofs.Table.Edges
import TrafficBoard.Proofs.Table.Tabulated

/-!
# A drawing fills its region

A panel has as many lines as its region is high, and without a height as many as the header, the
rows and the two edges take.  Each of its lines takes exactly the cells of the terminal: cells
are cut or filled to their columns, rows to the room between the sides, and the title to that in the
upper edge.  How wide the columns are declared is not seen, nor how long the title is.

A region too small for a panel shows one line, the title cropped to the terminal.

A joiner in front of a text can leave nothing to cut it by.  So the texts of the grid, and a title
that stands alone, are drawn for sure only if they start with none.
-/

namespace TrafficBoard

namespace Table

variable {table : Table} {theme : Theme} {width : Int} {height : Option Int}

/-- The number of lines of a panel: its height, or without one the lines of its edges, its header
and its rows. -/
def panelHeight (table : Table) (height : Option Int) : Nat :=
  height.elim (3 + table.rows.length) Int.toNat

theorem length_panel (theme : Theme) (width : Int) (high : ∀ given ∈ height, 3 ≤ given)
    (top header : Line) {shown : List Line}
    (count : shown.length = (Grid.upTo (rowRoom height) table.rows).length) :
    (panel theme width top (bodyLines width height header shown)).lines.length =
      table.panelHeight height := by
  have sum : (panel theme width top (bodyLines width height header shown)).lines.length =
      3 + shown.length + blankLines height shown.length := by
    simp only [panel, Drawing.lines, bodyLines, List.length_cons, List.length_append,
      List.length_map, List.length_replicate, List.length_nil]
    omega
  rw [sum]
  cases height with
  | none =>
      rw [count]
      rfl
  | some given =>
      have least := high given rfl
      have room : shown.length ≤ (given - 3).toNat := count ▸ length_upTo_le _ table.rows
      simp only [blankLines, rowRoom, Option.map_some, Option.elim_some, panelHeight]
      omega

/-- However it is drawn, a panel has the number of lines that its region asks for. -/
theorem length_lines_of_draw (feedless : table.AllTexts IsFeedless) (wide : 8 ≤ width)
    (high : ∀ given ∈ height, 3 ≤ given) {drawing : Drawing}
    (drawn : table.draw theme width.toNat width height = .ok drawing) :
    ∃ lines, drawing = .panel lines ∧ lines.length = table.panelHeight height := by
  obtain ⟨top, header, shown, -, -, taken, rfl⟩ := (draw_eq_ok_iff feedless wide high).1 drawn
  exact ⟨_, rfl, length_panel theme width high top header taken.length_eq.symm⟩

/-! ## Panels -/

/-- Whether lines are a panel that fills its region: the terminal shows them as they are, they are
as many as the region asks for, and each takes exactly the cells of the terminal, run by run.  Where
no text has joiners or picture selectors, so do the characters of each line. -/
structure FillsRegion (table : Table) (theme : Theme) (width : Int) (height : Option Int)
    (lines : List Line) : Prop where
  draw_eq : table.draw theme width.toNat width height = .ok (.panel lines)
  shownLines_eq : (Drawing.panel lines).shownLines width.toNat = .ok lines
  length_eq : lines.length = table.panelHeight height
  cells_eq : ∀ line ∈ lines, line.cells = width.toNat
  characters_eq : Text.IsSeparate table.title.toList →
    table.AllTexts (fun text => Text.IsSeparate text.toList) →
    ∀ line ∈ lines, Text.cells line.characters = width.toNat

theorem draw_eq_panel (wide : 8 ≤ width) (high : ∀ given ∈ height, 3 ≤ given) {lines : List Line}
    (drawn : Drawing.panelLines table theme width.toNat width height = .ok lines) :
    table.draw theme width.toNat width height = .ok (.panel lines) := by
  rw [draw, isTooSmall_eq_false wide high, if_neg Bool.false_ne_true, drawn]
  rfl

theorem exists_fillsRegion (feedless : table.AllTexts IsFeedless)
    (cuttable : table.AllTexts IsCuttable)
    (tabs : '\t' ∈ table.title.toList → Text.joiner ∉ table.title.toList) (theme : Theme)
    (wide : 8 ≤ width) (high : ∀ given ∈ height, 3 ≤ given) :
    ∃ lines, table.FillsRegion theme width height lines := by
  have atLeast : 2 ≤ width := Int.le_trans (by decide) wide
  have all : table.AllTexts fun text => ∀ c ∈ text.toList, True :=
    ⟨fun _ _ _ _ => trivial, fun _ _ _ _ _ _ => trivial⟩
  obtain ⟨lines, drawn, fills⟩ := Drawing.exists_panelLines tabs (fun _ _ => trivial)
    (hasCuttableTexts_of_isCuttable feedless cuttable all) Text.allowsNarrow_all theme atLeast
    height
  have done := draw_eq_panel wide high drawn
  obtain ⟨_, same, length⟩ := length_lines_of_draw feedless wide high done
  cases same
  refine ⟨lines, done, Drawing.shownLines_eq (by omega) fun line member =>
    Nat.le_of_eq (fills line member).cells_eq, length, fun line member =>
    (fills line member).cells_eq, fun title separate line member => ?_⟩
  -- The same lines, told to consist of characters that take their own cells.
  obtain ⟨others, otherDrawn, otherFills⟩ := Drawing.exists_panelLines tabs title
    (hasCuttableTexts_of_isCuttable feedless cuttable separate) Text.allowsNarrow_separate theme
    atLeast height
  obtain rfl := Except.ok.inj (drawn.symm.trans otherDrawn)
  have apart : line.IsSeparate := fun run inside =>
    ((otherFills line member).cuttable run inside).mem
  rw [Line.cells_characters_of_isSeparate apart]
  exact (otherFills line member).cells_eq

/-! ## Lone titles -/

/-- Whether characters are what a region too small for a panel shows of a title: one line, which
the terminal shows as it is, with the title cropped to the terminal. -/
structure ShowsTitle (table : Table) (theme : Theme) (width : Int) (height : Option Int)
    (shown : List Char) : Prop where
  draw_eq : table.draw theme width.toNat width height = .ok (.title [[⟨shown, .plain⟩]])
  shownLines_eq : (Drawing.title [[⟨shown, .plain⟩]]).shownLines width.toNat =
    .ok [[⟨shown, .plain⟩]]
  cropped : ∃ text, Text.displayLines table.title.toList = [text] ∧
    Text.IsCropped width.toNat text shown
  cells_le : Text.cells shown ≤ width.toNat

theorem isTooSmall_eq_true (small : width < 8 ∨ ∃ given ∈ height, given < 3) :
    Drawing.isTooSmall width height = true := by
  rw [Drawing.isTooSmall, Bool.or_eq_true, decide_eq_true_iff, Drawing.leastWidth]
  rcases small with narrow | ⟨given, member, low⟩
  · exact .inl narrow
  · rw [Option.mem_def.1 member]
    exact .inr (decide_eq_true low)

/-- A title of one line that stands alone is drawn as that line is cropped. -/
theorem draw_of_small {terminal : Nat} {text : List Char}
    (alone : Text.displayLines table.title.toList = [text])
    (small : Drawing.isTooSmall width height = true) :
    table.draw theme terminal width height =
      (Text.crop terminal text).map fun shown => .title [[⟨shown, .plain⟩]] := by
  rw [draw, if_pos small, Drawing.titleLines, alone, List.mapM_cons]
  cases Text.crop terminal text with
  | error error => rfl
  | ok shown => rfl

theorem exists_displayLines_eq (feedless : IsFeedless table.title) :
    ∃ text, Text.displayLines table.title.toList = [text] :=
  List.length_eq_one_iff.1 (Text.length_displayLines_of_not_mem feedless)

/-- However it is drawn, a lone title has one line. -/
theorem exists_title_of_draw (feedless : IsFeedless table.title) {terminal : Nat}
    (small : Drawing.isTooSmall width height = true) {drawing : Drawing}
    (drawn : table.draw theme terminal width height = .ok drawing) :
    ∃ shown, drawing = .title [[⟨shown, .plain⟩]] := by
  obtain ⟨text, alone⟩ := exists_displayLines_eq feedless
  rw [draw_of_small alone small] at drawn
  obtain ⟨shown, -, same⟩ := Attempt.map_eq_ok_iff.1 drawn
  exact ⟨shown, same.symm⟩

theorem exists_showsTitle (feedless : IsFeedless table.title) (cuttable : IsCuttable table.title)
    (theme : Theme) (positive : 1 ≤ width) (small : Drawing.isTooSmall width height = true) :
    ∃ shown, table.ShowsTitle theme width height shown := by
  obtain ⟨text, alone⟩ := exists_displayLines_eq feedless
  have lines : Text.HasCuttableLines (fun _ => True) table.title.toList :=
    Text.hasCuttableLines_of_startsWithoutJoiner feedless cuttable fun _ _ => trivial
  have first : text.head? ≠ some Text.joiner :=
    lines.lines text (alone ▸ List.mem_singleton_self text)
  obtain ⟨shown, done, cropped⟩ := Text.exists_isCropped first width.toNat
  have fits : Text.cells shown ≤ width.toNat := by
    obtain ⟨other, otherDone, -, measured⟩ :=
      (⟨first, fun _ _ => trivial⟩ : Text.IsCuttable (fun _ => True) text).exists_crop trivial
        width.toNat
    obtain rfl := Except.ok.inj (done.symm.trans otherDone)
    exact measured ▸ Nat.min_le_left _ _
  refine ⟨shown, ?_, ?_, ⟨text, alone, cropped⟩, fits⟩
  · rw [draw_of_small alone small, done]
    rfl
  · exact Drawing.shownLines_eq (by omega) (List.forall_mem_singleton.2 fits)

/-! ## Every region -/

/-- For a table of texts of one line, a panel has the lines that its region asks for, and a region
too small for one shows one line.  If no text of the grid starts with a joiner, and the title does
not have both tabs and joiners, the panel is drawn and fills its region.  If the title starts with
no joiner, it is shown alone as it is cropped. -/
theorem drawing_fills_region (feedless : table.AllTexts IsFeedless)
    (title : IsFeedless table.title) (theme : Theme) (width : Int) (height : Option Int) :
    (8 ≤ width → (∀ given ∈ height, 3 ≤ given) →
      (∀ drawing, table.draw theme width.toNat width height = .ok drawing →
        ∃ lines, drawing = .panel lines ∧ lines.length = table.panelHeight height) ∧
      (table.AllTexts IsCuttable →
        ('\t' ∈ table.title.toList → Text.joiner ∉ table.title.toList) →
        ∃ lines, table.FillsRegion theme width height lines)) ∧
    (1 ≤ width → (width < 8 ∨ ∃ given ∈ height, given < 3) →
      (∀ drawing, table.draw theme width.toNat width height = .ok drawing →
        ∃ shown, drawing = .title [[⟨shown, .plain⟩]]) ∧
      (IsCuttable table.title → ∃ shown, table.ShowsTitle theme width height shown)) := by
  refine ⟨fun wide high => ⟨fun _ drawn => length_lines_of_draw feedless wide high drawn,
    fun cuttable tabs => exists_fillsRegion feedless cuttable tabs theme wide high⟩,
    fun positive small => ?_⟩
  have tooSmall := isTooSmall_eq_true small
  exact ⟨fun _ drawn => exists_title_of_draw title tooSmall drawn,
    fun cuttable => exists_showsTitle title cuttable theme positive tooSmall⟩

/-- A table of one layout, which shows two of its three columns. -/
def plainTable (title : String) (first third : Int) (rows : List Utilization.Row) : Table :=
  Utilization.table title ("A", "B", "C")
    ⟨[(0, Utilization.twoColumns first third)], List.pairwise_singleton _ 0⟩
    (List.mem_singleton_self 0) (List.forall_mem_singleton.2 (Nat.le_refl 3)) rows

theorem layout_plainTable (title : String) (first third : Int) (rows : List Utilization.Row)
    (positive : 0 < width) :
    (plainTable title first third rows).layout width =
      ⟨Utilization.twoColumns first third,
        Layout.spacingAt (Utilization.twoColumns first third) width⟩ := by
  have below : Layout.lastBelow width [(0, Utilization.twoColumns first third)] =
      some (0, Utilization.twoColumns first third) := by
    rw [Layout.lastBelow, List.filter_singleton, decide_eq_true positive]
    rfl
  exact Utilization.layout_table (List.pairwise_singleton _ _) below title _ _ _ rows

/-- A title and cells of wide characters. -/
def wideTable : Table := plainTable "日本語" 7 5 [⟨"日本語", "b", "z"⟩, ⟨"a", "b", "語語語"⟩]

theorem drawing_fills_region_wideTable :
    wideTable.AllTexts IsFeedless ∧ IsFeedless wideTable.title ∧ wideTable.AllTexts IsCuttable ∧
      '\t' ∉ wideTable.title.toList ∧ IsCuttable wideTable.title ∧
      (∃ lines, wideTable.FillsRegion .orange 9 (some 5) lines) ∧
      (∃ lines, wideTable.FillsRegion .orange 9 none lines) ∧
      ∃ shown, wideTable.ShowsTitle .orange 5 none shown := by
  have feedless : wideTable.AllTexts IsFeedless := by constructor <;> decide
  have title : IsFeedless wideTable.title := by decide
  have cuttable : wideTable.AllTexts IsCuttable := by constructor <;> decide
  have noTab : '\t' ∉ wideTable.title.toList := by decide
  have starts : IsCuttable wideTable.title := by decide
  have tabs : '\t' ∈ wideTable.title.toList → Text.joiner ∉ wideTable.title.toList :=
    fun tab => absurd tab noTab
  have limited := (drawing_fills_region feedless title .orange 9 (some 5)).1 (by decide)
    (by decide)
  have free := (drawing_fills_region feedless title .orange 9 none).1 (by decide)
    fun _ given => by cases given
  have alone := (drawing_fills_region feedless title .orange 5 none).2 (by decide)
    (.inl (by decide))
  exact ⟨feedless, title, cuttable, noTab, starts, limited.2 cuttable tabs,
    free.2 cuttable tabs, alone.2 starts⟩

/-- Cells that start with joiners. -/
def joinedCellTable : Table :=
  plainTable "T" 7 5 [⟨"\u200d\u200d日本", "b", "z"⟩, ⟨"z", "b", "\u200d\u200d日本"⟩]

theorem draw_joinedCellTable : joinedCellTable.draw .orange 10 10 none = .error .tooFewCells := by
  have layout : joinedCellTable.layout 10 = ⟨Utilization.twoColumns 7 5, 0⟩ :=
    layout_plainTable _ _ _ _ (by decide)
  have columns : joinedCellTable.visibleColumns 10 = ["A", "C"] := by
    rw [visibleColumns, visible_eq_filterMap, layout]
    decide
  have rows : joinedCellTable.visibleRows 10 =
      [["\u200d\u200d日本", "z"], ["z", "\u200d\u200d日本"]] := by
    have cells : joinedCellTable.rows =
        [["\u200d\u200d日本", "b", "z"], ["z", "b", "\u200d\u200d日本"]] := rfl
    rw [visibleRows_eq_map, cells, List.map_cons, List.map_singleton, shownTexts, shownTexts,
      layout]
    decide
  have grid : Grid.lines 8 0 [7, 5] (.bold Theme.orange.header) ["A", "C"]
      [["\u200d\u200d日本", "z"], ["z", "\u200d\u200d日本"]] none = .error .tooFewCells := by
    decide +kernel
  have body : Drawing.body joinedCellTable .orange 8 10 none = .error .tooFewCells := by
    rw [Drawing.body, columns, rows, layout]
    exact congrArg (· >>= _) grid
  rw [draw, if_neg (by decide), Drawing.panelLines]
  change (Except.map _ (Drawing.body _ .orange (Drawing.innerWidth _ 10 10) 10 _ >>= _)) = _
  rw [innerWidth_eq, body]
  rfl

/-- A title with a tab in it and a joiner at its end. -/
def joinedTitleTable : Table := plainTable "a\tb\u200d" 5 6 []

/-- The upper edge with that title, up to what fills it behind the title. -/
def joinedTitleEdge : Line :=
  [⟨['┌', '─'], .colour Theme.orange.border⟩, ⟨[' '], .bold Theme.orange.title⟩,
    ⟨'a' :: Text.blank 7, .bold Theme.orange.title⟩,
    ⟨['b', Text.joiner], .bold Theme.orange.title⟩, ⟨[' '], .bold Theme.orange.title⟩]

/-- In the measure of the whole title the joiner takes the space behind it, but not in that of its
last part.  So the upper edge is a cell too wide, and the terminal cuts its corner. -/
theorem topEdge_joinedTitleTable :
    Drawing.topEdge .orange (Drawing.titleParts joinedTitleTable.title) 12 =
        .ok (joinedTitleEdge ++ [⟨['─', '┐'], .colour Theme.orange.border⟩]) ∧
      Line.cells (joinedTitleEdge ++ [⟨['─', '┐'], .colour Theme.orange.border⟩]) = 15 ∧
      Line.crop 14 (joinedTitleEdge ++ [⟨['─', '┐'], .colour Theme.orange.border⟩]) =
        .ok (joinedTitleEdge ++ [⟨['─'], .colour Theme.orange.border⟩]) ∧
      Text.cells (Line.characters
        (joinedTitleEdge ++ [⟨['─'], .colour Theme.orange.border⟩])) = 13 := by
  refine ⟨?_, ?_, ?_, ?_⟩ <;> decide +kernel

theorem exists_draw_joinedTitleTable : ∃ others,
    joinedTitleTable.draw .orange 14 14 none = .ok (.panel
      ((joinedTitleEdge ++ [⟨['─', '┐'], .colour Theme.orange.border⟩]) :: others)) := by
  have feedless : joinedTitleTable.AllTexts IsFeedless := by constructor <;> decide
  have cuttable : joinedTitleTable.AllTexts IsCuttable := by constructor <;> decide
  have texts : joinedTitleTable.HasCuttableTexts fun _ => True :=
    hasCuttableTexts_of_isCuttable feedless cuttable
      ⟨fun _ _ _ _ => trivial, fun _ _ _ _ _ _ => trivial⟩
  obtain ⟨body, done, -⟩ := exists_body texts Text.allowsNarrow_all .orange 12 14 none
  have lines : Drawing.panelLines joinedTitleTable .orange 14 14 none =
      .ok ((joinedTitleEdge ++ [⟨['─', '┐'], .colour Theme.orange.border⟩]) ::
        (body.map (Drawing.framed .orange) ++ [Drawing.bottomEdge .orange 12])) := by
    rw [Drawing.panelLines]
    change (Drawing.body _ .orange (Drawing.innerWidth _ 14 14) 14 _ >>= _) = _
    rw [innerWidth_eq]
    exact Attempt.bind_eq_ok_iff.2 ⟨body, done,
      Attempt.bind_eq_ok_iff.2 ⟨_, topEdge_joinedTitleTable.1, rfl⟩⟩
  exact ⟨_, draw_eq_panel (by decide) (fun _ given => by cases given) lines⟩

/-- A title that starts with joiners. -/
def joinedStartTable : Table := plainTable "\u200d\u200d👍1" 5 6 []

theorem draw_joinedStartTable : joinedStartTable.draw .orange 2 2 none = .error .tooFewCells := by
  have cut : Text.crop 2 "\u200d\u200d👍1".toList = .error .tooFewCells := by decide +kernel
  have alone : Text.displayLines joinedStartTable.title.toList =
      ["\u200d\u200d👍1".toList] := by decide
  rw [draw_of_small alone (by decide), cut]
  rfl

/-- Texts of one line do not suffice.  A cell or a lone title that starts with joiners can leave
nothing to cut it by, and a title with a tab and a joiner can make its edge too wide. -/
theorem some_drawings_do_not_fill :
    (joinedCellTable.AllTexts IsFeedless ∧ IsFeedless joinedCellTable.title ∧
      joinedCellTable.draw .orange 10 10 none = .error .tooFewCells) ∧
    (joinedTitleTable.AllTexts IsFeedless ∧ IsFeedless joinedTitleTable.title ∧
      ∃ top others shown, joinedTitleTable.draw .orange 14 14 none =
          .ok (.panel (top :: others)) ∧ top.cells = 15 ∧
        Line.crop 14 top = .ok shown ∧ Text.cells shown.characters = 13) ∧
    (joinedStartTable.AllTexts IsFeedless ∧ IsFeedless joinedStartTable.title ∧
      joinedStartTable.draw .orange 2 2 none = .error .tooFewCells) := by
  obtain ⟨others, drawn⟩ := exists_draw_joinedTitleTable
  obtain ⟨-, wide, cropped, short⟩ := topEdge_joinedTitleTable
  refine ⟨⟨?_, by decide, draw_joinedCellTable⟩,
    ⟨?_, by decide, _, others, _, drawn, wide, cropped, short⟩,
    ⟨?_, by decide, draw_joinedStartTable⟩⟩ <;> constructor <;> decide

end Table

end TrafficBoard
