import TrafficBoard.Proofs.Dashboard.Screen

/-!
# The dashboard tiles the terminal

On a terminal of two columns and four rows or more, every cell belongs to the header, to the
footer or to one table.  The frame is drawn in rows exactly as wide as the terminal, unless a
line of a text starts with a joiner.
-/

namespace TrafficBoard

namespace Tables

variable {snapshot : Snapshot} {hostnames : Hostnames} {tables : Tables}

/-- What holds of numbers, rates and column names and of the texts of a snapshot holds of all
texts of its tables. -/
theorem allTexts_ofSnapshot {property : String → Prop}
    (basic : ∀ {text : String}, Text.IsBasic text.toList → property text)
    (texts : snapshot.AllTexts property hostnames)
    (made : ofSnapshot snapshot hostnames = .ok tables) :
    ∀ table ∈ tables.toList, table.AllTexts property := by
  obtain ⟨processesDone, connectionsDone, remotesDone⟩ := ofSnapshot_eq_ok_iff.1 made
  exact List.forall_mem_cons.2 ⟨Utilization.allTexts_processes basic texts processesDone,
    List.forall_mem_cons.2 ⟨Utilization.allTexts_connections basic texts connectionsDone,
      List.forall_mem_singleton.2 (Utilization.allTexts_remotes basic texts remotesDone)⟩⟩

theorem isNarrow_title (made : ofSnapshot snapshot hostnames = .ok tables) :
    ∀ table ∈ tables.toList, Text.IsNarrow table.title.toList := by
  obtain ⟨processesDone, connectionsDone, remotesDone⟩ := ofSnapshot_eq_ok_iff.1 made
  obtain ⟨_, -, processesSame⟩ := Utilization.processes_eq_ok_iff.1 processesDone
  obtain ⟨_, -, connectionsSame⟩ := Utilization.connections_eq_ok_iff.1 connectionsDone
  obtain ⟨_, -, remotesSame⟩ := Utilization.remotes_eq_ok_iff.1 remotesDone
  have narrow : ∀ title ∈ ["Utilization by process name", "Utilization by connection",
      "Utilization by remote address"], Text.IsNarrow title.toList := by decide +kernel
  refine List.forall_mem_cons.2 ⟨?_, List.forall_mem_cons.2 ⟨?_, List.forall_mem_singleton.2 ?_⟩⟩
  · rw [processesSame]
    exact narrow "Utilization by process name" (by decide)
  · rw [connectionsSame]
    exact narrow "Utilization by connection" (by decide)
  · rw [remotesSame]
    exact narrow "Utilization by remote address" (by decide)

/-- Tables can be made of a snapshot only if all its entries have rates. -/
theorem hasRates_of_ofSnapshot (made : ofSnapshot snapshot hostnames = .ok tables)
    (total : snapshot.total.HasRates) : snapshot.HasRates := by
  obtain ⟨processesDone, connectionsDone, remotesDone⟩ := ofSnapshot_eq_ok_iff.1 made
  obtain ⟨_, processesListed, -⟩ := Utilization.processes_eq_ok_iff.1 processesDone
  obtain ⟨_, connectionsListed, -⟩ := Utilization.connections_eq_ok_iff.1 connectionsDone
  obtain ⟨_, remotesListed, -⟩ := Utilization.remotes_eq_ok_iff.1 remotesDone
  exact ⟨Utilization.hasRates_of_lists connectionsListed,
    Utilization.hasRates_of_lists processesListed, Utilization.hasRates_of_lists remotesListed,
    total⟩

end Tables

/-! ## Frames on a terminal -/

/-- Whether no line in which a text is displayed starts with a joiner. -/
def Table.IsDrawable (text : String) : Prop :=
  ∀ line ∈ Text.displayLines text.toList, line.head? ≠ some Text.joiner

instance (text : String) : Decidable (Table.IsDrawable text) :=
  inferInstanceAs (Decidable (∀ line ∈ Text.displayLines text.toList, _))

theorem Table.isDrawable_of_isBasic {text : String} (basic : Text.IsBasic text.toList) :
    Table.IsDrawable text :=
  (basic.isNarrow.hasCuttableLines Text.allowsNarrow_all).lines

namespace Frame

/-- Whether a frame shows its first tables, one for each division and one more, in regions that
tile the rows between the header, which has the first row, and the footer, which has the last. -/
structure TilesTerminal (appearance : Appearance) (frame : Frame) (width height : Nat) : Prop where
  enough : (appearance.limits.divisions width height).length + 1 ≤ frame.tables.toList.length
  shown : (frame.placed appearance width height).map Prod.fst =
    frame.tables.toList.take ((appearance.limits.divisions width height).length + 1)
  tables : Region.IsTiledBy ⟨0, 1, width, height - 2⟩
    ((frame.placed appearance width height).map Prod.snd)
  tiles : (frame.tiles appearance width height).Perm
    (⟨⟨0, 0, width, 1⟩, .banner frame.header⟩ ::
      ⟨⟨0, height - 1, width, 1⟩, .banner frame.footer⟩ ::
      (frame.placed appearance width height).map fun placed => ⟨placed.2, .table placed.1⟩)

/-- Whether a frame is drawn as a row for each row of the terminal, all as wide as the terminal,
the first one its header and the last one its footer. -/
def FillsTerminal (appearance : Appearance) (frame : Frame) (width height : Nat) : Prop :=
  ∃ rows : List Line, frame.draw appearance width height = .ok (rows.map Line.text) ∧
    rows.length = height ∧ (∀ row ∈ rows, row.cells = width) ∧
    (∃ first, frame.header.draw width = .ok first ∧ rows.head? = some first) ∧
    ∃ last, frame.footer.draw width = .ok last ∧ rows.getLast? = some last

variable {allowed : Char → Prop} {frame : Frame} {width height : Nat}

theorem tilesTerminal (appearance : Appearance) (frame : Frame) (wide : 2 ≤ width)
    (high : 4 ≤ height) : frame.TilesTerminal appearance width height where
  enough := by
    rw [← Region.length_tile (Region.body width height)]
    exact length_tile_divisions_le appearance frame width height
  shown := map_fst_placed appearance frame width height
  tables := by
    rw [map_snd_placed, ← body_eq high]
    exact Region.isTiledBy_tile (appearance.limits.nodup_divisions width height)
      (two_le_extent_body wide high _)
  tiles := by
    rw [← footer_eq high]
    exact perm_tiles appearance frame width height

theorem length_placed (appearance : Appearance) (frame : Frame) (width height : Nat) :
    (frame.placed appearance width height).length =
      (appearance.limits.divisions width height).length + 1 := by
  have same := congrArg List.length (map_snd_placed appearance frame width height)
  rw [List.length_map, Region.length_tile] at same
  exact same

/-- A larger terminal shows no fewer tables. -/
theorem length_placed_mono (appearance : Appearance) (frame : Frame) {wider higher : Nat}
    (widened : width ≤ wider) (heightened : height ≤ higher) :
    (frame.placed appearance width height).length ≤
      (frame.placed appearance wider higher).length := by
  rw [length_placed, length_placed]
  exact Nat.succ_le_succ (appearance.limits.length_divisions_mono (Int.ofNat_le.2 widened)
    (Int.ofNat_le.2 heightened))

variable {appearance : Appearance}

/-- A frame that can be drawn is its screen. -/
theorem IsDrawable.draw_eq (drawable : frame.IsDrawable allowed appearance width height)
    (allows : Text.AllowsNarrow allowed) (wide : 2 ≤ width) (high : 4 ≤ height) :
    frame.draw appearance width height =
      .ok ((frame.screen appearance width height).map Line.text) := by
  have fills := drawable.fills_screen allows wide high
  exact draw_eq_screen (drawable.isDrawn allows)
    (fun line member => Nat.le_of_eq (fills line member).cells_eq) (by omega)

theorem IsDrawable.fillsTerminal (drawable : frame.IsDrawable allowed appearance width height)
    (allows : Text.AllowsNarrow allowed) (wide : 2 ≤ width) (high : 4 ≤ height) :
    frame.FillsTerminal appearance width height := by
  obtain ⟨first, firstDone, -⟩ := Banner.exists_draw drawable.header allows width
  obtain ⟨last, lastDone, -⟩ := Banner.exists_draw drawable.footer allows width
  have fills := drawable.fills_screen allows wide high
  have some : height ≠ 0 := by omega
  refine ⟨frame.screen appearance width height, drawable.draw_eq allows wide high, ?_,
    fun row member => (fills row member).cells_eq, ⟨first, firstDone, ?_⟩, last, lastDone, ?_⟩
  · rw [screen, List.length_map, List.length_range]
  · rw [screen, List.head?_map, List.head?_range, if_neg some, Option.map_some,
      screenLine_zero drawable allows wide high firstDone]
  · rw [screen, List.getLast?_map, List.getLast?_range, if_neg some, Option.map_some,
      screenLine_last drawable allows wide high lastDone]

/-- If no text takes or gives cells beside it, the characters of every row take the width. -/
theorem IsDrawable.cells_eq
    (drawable : frame.IsDrawable (fun c => c ≠ Text.joiner ∧ c ≠ Text.pictureSelector) appearance
      width height)
    (wide : 2 ≤ width) (high : 4 ≤ height) :
    ∀ text ∈ (frame.screen appearance width height).map Line.text,
      Text.cells text.toList = width := by
  refine List.forall_mem_map.2 fun line member => ?_
  have fills := drawable.fills_screen Text.allowsNarrow_separate wide high line member
  have separate : line.IsSeparate := fun run inside => (fills.cuttable run inside).mem
  rw [Line.text, String.toList_ofList, Line.cells_characters_of_isSeparate separate,
    fills.cells_eq]

end Frame

namespace Board

variable {board : Board} {frame : Frame} {theme : Theme} {answers : Address → LookupOutcome}

theorem hasRates_of_frame (shown : (board.frame theme answers).result = .ok frame) :
    board.snapshot.HasRates := by
  obtain ⟨tablesDone, headerDone, -⟩ := frame_eq_ok_iff.1 shown
  exact Tables.hasRates_of_ofSnapshot tablesDone (Banner.hasRates_of_header headerDone)

/-- The frame of a board can be drawn on a terminal where no line of a text of its tables
starts with a joiner. -/
theorem isDrawable_frame {allowed : Char → Prop} {appearance : Appearance} {width height : Nat}
    (shown : (board.frame theme answers).result = .ok frame)
    (texts : ∀ placed ∈ frame.placed appearance width height,
      placed.1.HasCuttableTexts allowed) :
    frame.IsDrawable allowed appearance width height := by
  obtain ⟨tablesDone, headerDone, footer⟩ := frame_eq_ok_iff.1 shown
  refine ⟨Banner.isNarrow_header headerDone, ?_, Tables.isNarrow_title tablesDone, texts⟩
  rw [footer]
  exact Banner.isNarrow_footer theme _

/-- The dashboard tiles the terminal.  A frame exists exactly if no count of the snapshot is
too large for a rate.  Its tables are the first ones, one for each division and one more, and
never fewer on a larger terminal.  Their regions tile the rows between the header and the footer.
If no line of a text of these tables starts with a joiner, then the frame fills the terminal with
rows of exactly its width; and if the texts have no joiners or picture selectors at all, then the
characters of each row take that width. -/
theorem frame_tiles_terminal (appearance : Appearance) (answers : Address → LookupOutcome)
    (board : Board) {width height : Nat} (wide : 2 ≤ width) (high : 4 ≤ height) :
    (board.snapshot.HasRates ↔
      ∃ frame, (board.frame appearance.theme answers).result = .ok frame) ∧
    ∀ frame, (board.frame appearance.theme answers).result = .ok frame →
      frame.TilesTerminal appearance width height ∧
      (∀ wider higher, width ≤ wider → height ≤ higher →
        (frame.placed appearance width height).length ≤
          (frame.placed appearance wider higher).length) ∧
      ((∀ placed ∈ frame.placed appearance width height, placed.1.AllTexts Table.IsDrawable) →
        frame.FillsTerminal appearance width height) ∧
      ((∀ placed ∈ frame.placed appearance width height,
          placed.1.AllTexts fun text => Text.IsSeparate text.toList) →
        ∃ texts, frame.draw appearance width height = .ok texts ∧
          ∀ text ∈ texts, Text.cells text.toList = width) := by
  refine ⟨⟨exists_frame appearance.theme answers board, fun ⟨_, shown⟩ => hasRates_of_frame shown⟩,
    fun frame shown => ⟨frame.tilesTerminal appearance wide high,
      fun _ _ => frame.length_placed_mono appearance, fun texts => ?_, fun texts => ?_⟩⟩
  · have drawable := isDrawable_frame shown fun placed member =>
      (texts placed member).imp fun _ lines => ⟨lines, fun _ _ => trivial⟩
    exact drawable.fillsTerminal Text.allowsNarrow_all wide high
  · have drawable := isDrawable_frame shown fun placed member =>
      (texts placed member).imp fun text separate =>
        Text.hasCuttableLines_of_notMem (fun inside => (separate _ inside).1 rfl) separate
    exact ⟨_, drawable.draw_eq Text.allowsNarrow_separate wide high, drawable.cells_eq wide high⟩

/-- A board that has seen one process on one connection. -/
def ofProcess (process : String) (volume : Volume) : Board where
  ledger := Ledger.empty.add ⟨⟨.four 10 0 0 1, 443, .tcp, 5000⟩, process, "eth0", volume⟩
  simulator := .start .idle
  lookups := none

/-- A terminal that reaches the first two limits shows all three tables. -/
theorem frame_tiles_terminal_three_tables :
    2 ≤ 120 ∧ 4 ≤ 30 ∧
      ∃ frame, ((ofProcess "ssh" ⟨1, 2⟩).frame .orange fun _ => .failure "").result = .ok frame ∧
        frame.TilesTerminal ⟨.orange, ⟨30, 120, 150⟩⟩ 120 30 ∧
        (frame.placed ⟨.orange, ⟨30, 120, 150⟩⟩ 120 30).length = 3 ∧
        frame.FillsTerminal ⟨.orange, ⟨30, 120, 150⟩⟩ 120 30 := by
  have wide : 2 ≤ 120 := by decide
  have high : 4 ≤ 30 := by decide
  obtain ⟨exists_iff, each⟩ := frame_tiles_terminal ⟨.orange, ⟨30, 120, 150⟩⟩
    (fun _ => .failure "") (ofProcess "ssh" ⟨1, 2⟩) wide high
  obtain ⟨frame, shown⟩ := exists_iff.1 (Snapshot.hasRates_iff.2 (by decide +kernel))
  obtain ⟨tiles, -, fills, -⟩ := each frame shown
  have texts : (ofProcess "ssh" ⟨1, 2⟩).snapshot.AllTexts Table.IsDrawable .empty := by
    constructor <;> decide +kernel
  have drawable := Tables.allTexts_ofSnapshot Table.isDrawable_of_isBasic texts
    (frame_eq_ok_iff.1 shown).1
  exact ⟨wide, high, frame, shown, tiles, rfl,
    fills fun placed member => drawable placed.1 (List.of_mem_zip member).1⟩

/-- The only table on a small terminal is that of the processes.  If it cannot be drawn, the
frame is not drawn. -/
theorem draw_small_terminal {fault : Text.CutError}
    (header : Text.IsNarrow frame.header.line.characters)
    (footer : Text.IsNarrow frame.footer.line.characters)
    (undrawn : frame.tables.processes.draw .orange 8 8 (some 4) = .error fault) :
    frame.draw ⟨.orange, ⟨30, 120, 150⟩⟩ 8 6 = .error fault := by
  have tiles : (frame.tiles ⟨.orange, ⟨30, 120, 150⟩⟩ 8 6).Perm
      [⟨⟨0, 0, 8, 1⟩, .banner frame.header⟩, ⟨⟨0, 5, 8, 1⟩, .banner frame.footer⟩,
        ⟨⟨0, 1, 8, 4⟩, .table frame.tables.processes⟩] :=
    (frame.tilesTerminal ⟨.orange, ⟨30, 120, 150⟩⟩ (by decide) (by decide)).tiles
  have fails : Frame.Tile.lines .orange ⟨⟨0, 1, 8, 4⟩, .table frame.tables.processes⟩ =
      .error fault := congrArg (· >>= _) undrawn
  have failing := tiles.symm.subset (List.mem_cons_of_mem _ (List.mem_cons_of_mem _
    (List.mem_singleton_self _)))
  refine Frame.draw_eq_error (by decide) (fun tile member => ?_) failing fails
  rcases List.mem_cons.1 (tiles.subset member) with rfl | member
  · exact .inr (Frame.isDrawn_banner header Text.allowsNarrow_all .orange rfl).exists_lines
  · rcases List.mem_cons.1 member with rfl | member
    · exact .inr (Frame.isDrawn_banner footer Text.allowsNarrow_all .orange rfl).exists_lines
    · rw [List.mem_singleton.1 member]
      exact .inl fails

/-- A name that starts with joiners can leave nothing to cut, and a count can be too large for a
rate.  There is no drawn frame then. -/
theorem some_frames_are_not_drawn :
    (∃ frame, ((ofProcess "\u200d\u200d日本" ⟨1, 1⟩).frame .orange fun _ => .failure "").result =
        .ok frame ∧
      frame.draw ⟨.orange, ⟨30, 120, 150⟩⟩ 8 6 = .error .tooFewCells) ∧
    ¬∃ frame, ((ofProcess "ssh" ⟨2 ^ 1024, 1⟩).frame .orange fun _ => .failure "").result =
      .ok frame := by
  constructor
  · obtain ⟨frame, shown⟩ := exists_frame .orange (fun _ => .failure "")
      (ofProcess "\u200d\u200d日本" ⟨1, 1⟩) (Snapshot.hasRates_iff.2 (by decide +kernel))
    obtain ⟨tablesDone, headerDone, footer⟩ := frame_eq_ok_iff.1 shown
    have footerNarrow : Text.IsNarrow frame.footer.line.characters := by
      rw [footer]
      exact Banner.isNarrow_footer .orange none
    refine ⟨frame, shown, draw_small_terminal (Banner.isNarrow_header headerDone) footerNarrow ?_⟩
    have entries : (ofProcess "\u200d\u200d日本" ⟨1, 1⟩).snapshot.processes.entries =
        Utilization.joinedProcess.processes.entries := by decide +kernel
    have listed := Utilization.lists_joinedProcess
    rw [← entries] at listed
    have same := (Tables.ofSnapshot_eq_ok_iff.1 tablesDone).1.symm.trans
      (Utilization.processes_eq_ok_iff.2 ⟨_, listed, rfl⟩)
    rw [Except.ok.inj same]
    exact Utilization.draw_joinedProcess (Utilization.layout_narrowBreakpoints _ _ _ _ _) rfl rfl
  · rintro ⟨frame, shown⟩
    exact absurd (hasRates_of_frame shown) (mt Snapshot.hasRates_iff.1 (by decide +kernel))

end Board

end TrafficBoard
