import TrafficBoard.Proofs.Dashboard.Banners
import TrafficBoard.Proofs.Dashboard.Frames
import TrafficBoard.Proofs.Dashboard.Tiling
import TrafficBoard.Proofs.Table.ShortRegion

/-!
# The screen

A frame divides the terminal among its header, its footer and its tables.  Every tile draws
as many lines as its region has, each as wide as the region, so the parts of a row of the
screen are as wide as the terminal together.
-/

namespace TrafficBoard

namespace Frame

/-! ## Tiles -/

/-- Whether a tile draws as many lines as its region has, each as wide as the region. -/
def Tile.IsDrawn (allowed : Char → Prop) (theme : Theme) (tile : Tile) : Prop :=
  ∃ lines, tile.lines theme = .ok lines ∧ lines.length = tile.region.height ∧
    ∀ line ∈ lines, line.Fills allowed tile.region.width

section Tiles

variable {allowed : Char → Prop}

theorem isDrawn_banner {banner : Banner} (narrow : Text.IsNarrow banner.line.characters)
    (allows : Text.AllowsNarrow allowed) (theme : Theme) {region : Region}
    (low : region.height = 1) : Tile.IsDrawn allowed theme ⟨region, .banner banner⟩ := by
  obtain ⟨line, done, fills⟩ := Banner.exists_draw narrow allows region.width
  exact ⟨[line], Attempt.map_eq_ok_iff.2 ⟨line, done, rfl⟩, low.symm,
    List.forall_mem_singleton.2 fills⟩

/-- A table is cut or filled to its region, be it drawn as a panel or by its title alone. -/
theorem isDrawn_table {table : Table} (title : Text.IsNarrow table.title.toList)
    (cuttable : table.HasCuttableTexts allowed) (allows : Text.AllowsNarrow allowed)
    (theme : Theme) (region : Region) : Tile.IsDrawn allowed theme ⟨region, .table table⟩ := by
  obtain ⟨drawing, drawn, fits⟩ := Table.exists_draw title cuttable allows theme region.width
    (some region.height)
  obtain ⟨lines, done, length, fills⟩ := Attempt.exists_mapM fun line member =>
    (fits line (List.mem_of_mem_take (i := region.height) member)).1.exists_fit allows.space
      .plain region.width
  refine ⟨_, Attempt.bind_eq_ok_iff.2 ⟨drawing, drawn, Attempt.bind_eq_ok_iff.2
    ⟨lines, done, rfl⟩⟩, ?_, List.forall_mem_append.2 ⟨fills, ?_⟩⟩
  · rw [List.length_append, List.length_replicate]
    exact Nat.add_sub_of_le (length ▸ List.length_take_le region.height drawing.lines)
  · intro line member
    rw [(List.mem_replicate.1 member).2]
    exact Line.fills_blank allows.space .plain region.width

theorem Tile.IsDrawn.exists_lines {tile : Tile} {theme : Theme}
    (drawn : tile.IsDrawn allowed theme) : ∃ lines, tile.lines theme = .ok lines := by
  obtain ⟨lines, done, -⟩ := drawn
  exact ⟨lines, done⟩

/-- The lines that a tile draws; none if it cannot be drawn. -/
def Tile.shown (theme : Theme) (tile : Tile) : List Line := (tile.lines theme).toOption.getD []

/-- What a tile draws of a row of the screen. -/
def Tile.part (theme : Theme) (row : Nat) (tile : Tile) : Line :=
  Frame.part row tile.region (tile.shown theme)

variable {theme : Theme}

/-- A tile draws nothing of a row beside its region. -/
theorem Tile.IsDrawn.part_eq_nil {tile : Tile} (drawn : tile.IsDrawn allowed theme) {row : Nat}
    (outside : ¬(tile.region.y ≤ row ∧ row < tile.region.y + tile.region.height)) :
    tile.part theme row = [] := by
  obtain ⟨lines, done, length, -⟩ := drawn
  rw [part, shown, done]
  change Frame.part row tile.region lines = []
  unfold Frame.part
  split
  · rfl
  · rw [List.getElem?_eq_none (by omega)]
    rfl

/-- A tile draws as much of a row as its region has of it. -/
theorem Tile.IsDrawn.fills_part {tile : Tile} (drawn : tile.IsDrawn allowed theme) (row : Nat) :
    (tile.part theme row).Fills allowed (Region.widthAt row tile.region) := by
  unfold Region.widthAt
  split
  · next inside =>
      obtain ⟨lines, done, length, fills⟩ := drawn
      have short : row - tile.region.y < lines.length := by omega
      rw [part, shown, done]
      change (Frame.part row tile.region lines).Fills allowed _
      rw [Frame.part, if_neg (by omega), List.getElem?_eq_getElem short]
      exact fills _ (List.getElem_mem short)
  · next outside =>
      rw [drawn.part_eq_nil outside]
      exact ⟨Line.isCuttable_nil, rfl⟩

theorem fills_flatMap_part {tiles : List Tile}
    (drawn : ∀ tile ∈ tiles, tile.IsDrawn allowed theme) (row : Nat) :
    Line.Fills allowed (Region.totalAt row (tiles.map Tile.region))
      (tiles.flatMap (Tile.part theme row)) := by
  induction tiles with
  | nil => exact ⟨Line.isCuttable_nil, rfl⟩
  | cons tile rest ih =>
      obtain ⟨first, others⟩ := List.forall_mem_cons.1 drawn
      have front := first.fills_part row
      have behind := ih others
      refine ⟨Line.isCuttable_append.2 ⟨front.cuttable, behind.cuttable⟩, ?_⟩
      rw [List.flatMap_cons, Line.cells_append, front.cells_eq, behind.cells_eq]
      exact List.sum_cons.symm

end Tiles

/-! ## Rows of the screen -/

/-- A row of the screen: the parts of the tiles side by side. -/
def screenLine (appearance : Appearance) (frame : Frame) (width height row : Nat) : Line :=
  (frame.tiles appearance width height).flatMap (Tile.part appearance.theme row)

/-- The rows of the screen. -/
def screen (appearance : Appearance) (frame : Frame) (width height : Nat) : List Line :=
  (List.range height).map (frame.screenLine appearance width height)

variable {allowed : Char → Prop} {appearance : Appearance} {frame : Frame} {width height : Nat}

/-- A frame is drawn as its screen if its tiles are drawn and no row is too long. -/
theorem draw_eq_screen
    (drawn : ∀ tile ∈ frame.tiles appearance width height, tile.IsDrawn allowed appearance.theme)
    (fits : ∀ line ∈ frame.screen appearance width height, line.cells ≤ width)
    (positive : width ≠ 0) :
    frame.draw appearance width height =
      .ok ((frame.screen appearance width height).map Line.text) := by
  rw [draw, if_neg positive, Attempt.bind_eq_ok_iff]
  refine ⟨(frame.tiles appearance width height).map fun tile =>
    (tile.region, tile.shown appearance.theme), ?_, ?_⟩
  · rw [Attempt.mapM_eq_ok_iff, List.forall₂_map_right_iff, List.forall₂_same]
    intro tile member
    obtain ⟨lines, done, -, -⟩ := drawn tile member
    rw [Tile.shown, done]
    rfl
  · rw [screen, List.map_map, Attempt.mapM_eq_ok_iff, List.forall₂_map_right_iff,
      List.forall₂_same]
    intro row member
    rw [List.flatMap_map]
    have short := fits _ (List.mem_map.2 ⟨row, member, rfl⟩)
    exact Attempt.map_eq_ok_iff.2 ⟨_, Line.crop_of_cells_le short, rfl⟩

/-- A frame is not drawn if a tile cannot be drawn. -/
theorem draw_eq_error {fault : Text.CutError} (positive : width ≠ 0)
    (only : ∀ tile ∈ frame.tiles appearance width height,
      tile.lines appearance.theme = .error fault ∨
        ∃ lines, tile.lines appearance.theme = .ok lines)
    {failing : Tile} (member : failing ∈ frame.tiles appearance width height)
    (fails : failing.lines appearance.theme = .error fault) :
    frame.draw appearance width height = .error fault := by
  have failed : (frame.tiles appearance width height).mapM (fun tile =>
      (tile.lines appearance.theme).map fun lines => (tile.region, lines)) = .error fault := by
    apply Attempt.mapM_eq_error _ member
    · rw [fails]
      rfl
    · intro tile tileMember
      refine (only tile tileMember).imp (fun wrong => ?_) fun ⟨lines, done⟩ => ?_
      · rw [wrong]
        rfl
      · rw [done]
        exact ⟨_, rfl⟩
  rw [draw, if_neg positive, failed]
  rfl

/-! ## The tiles of a frame -/

/-- The tile of the header. -/
def headerTile (frame : Frame) (width : Nat) : Tile := ⟨Region.header width, .banner frame.header⟩

/-- The tile of the footer. -/
def footerTile (frame : Frame) (width height : Nat) : Tile :=
  ⟨Region.footer width height, .banner frame.footer⟩

/-- The tiles of the tables. -/
def tableTiles (appearance : Appearance) (frame : Frame) (width height : Nat) : List Tile :=
  (frame.placed appearance width height).map fun placed => ⟨placed.2, .table placed.1⟩

theorem perm_tiles (appearance : Appearance) (frame : Frame) (width height : Nat) :
    (frame.tiles appearance width height).Perm
      (frame.headerTile width :: frame.footerTile width height ::
        frame.tableTiles appearance width height) := by
  refine (List.mergeSort_perm _ _).trans (.trans (.cons _ ?_) (.swap _ _ _))
  exact List.perm_append_singleton _ _ |>.trans (.cons _ (List.reverse_perm _))

theorem length_tile_divisions_le (appearance : Appearance) (frame : Frame) (width height : Nat) :
    ((Region.body width height).tile (appearance.limits.divisions width height)).length ≤
      frame.tables.toList.length := by
  rw [Region.length_tile]
  exact Nat.succ_le_succ (appearance.limits.length_divisions_le width height)

/-- The tables that are shown come first in their order. -/
theorem map_fst_placed (appearance : Appearance) (frame : Frame) (width height : Nat) :
    (frame.placed appearance width height).map Prod.fst =
      frame.tables.toList.take ((appearance.limits.divisions width height).length + 1) := by
  have enough := length_tile_divisions_le appearance frame width height
  rw [placed, List.zip_eq_zip_take_min, Nat.min_eq_right enough, List.take_length,
    List.map_fst_zip (by rw [List.length_take]; omega), Region.length_tile]

theorem map_snd_placed (appearance : Appearance) (frame : Frame) (width height : Nat) :
    (frame.placed appearance width height).map Prod.snd =
      (Region.body width height).tile (appearance.limits.divisions width height) :=
  List.map_snd_zip (length_tile_divisions_le appearance frame width height)

theorem map_region_tableTiles (appearance : Appearance) (frame : Frame) (width height : Nat) :
    (frame.tableTiles appearance width height).map Tile.region =
      (Region.body width height).tile (appearance.limits.divisions width height) := by
  rw [← map_snd_placed appearance frame, tableTiles, List.map_map]
  rfl

theorem body_eq (high : 4 ≤ height) : Region.body width height = ⟨0, 1, width, height - 2⟩ := by
  rw [Region.body, Nat.max_eq_right (by omega)]

theorem footer_eq (high : 4 ≤ height) :
    Region.footer width height = ⟨0, height - 1, width, 1⟩ := by
  rw [Region.footer, Nat.max_eq_right (by omega)]
  congr 1
  omega

/-- Between the header and the footer there is room for a division in each direction. -/
theorem two_le_extent_body (wide : 2 ≤ width) (high : 4 ≤ height) (divisions : List Division) :
    ∀ division ∈ divisions, 2 ≤ (Region.body width height).extent division := by
  intro division _
  rw [body_eq high]
  cases division with
  | row => exact wide
  | column => exact Nat.le_sub_of_add_le high

/-- The tiles of a frame have all cells of every row. -/
theorem totalAt_tiles (appearance : Appearance) (frame : Frame) (wide : 2 ≤ width)
    (high : 4 ≤ height) {row : Nat} (inside : row < height) :
    Region.totalAt row ((frame.tiles appearance width height).map Tile.region) = width := by
  have same := ((perm_tiles appearance frame width height).map Tile.region).map
    (Region.widthAt row)
  have tables := Region.totalAt_tile (appearance.limits.nodup_divisions width height)
    (two_le_extent_body wide high _) row
  rw [Region.totalAt, same.sum_eq, List.map_cons, List.map_cons, List.map_cons, List.map_cons,
    map_region_tableTiles, List.sum_cons, List.sum_cons]
  change Region.widthAt row (Region.header width) + (Region.widthAt row
    (Region.footer width height) + Region.totalAt row _) = width
  rw [tables, body_eq high, footer_eq high, Region.header, Region.widthAt_mk, Region.widthAt_mk,
    Region.widthAt_mk]
  split <;> split <;> split <;> omega

/-! ## Frames that are drawn -/

/-- Whether a frame has what it takes to be drawn on a terminal: banners and titles of narrow
characters, and no text of a table on it with a line that starts with a joiner. -/
structure IsDrawable (allowed : Char → Prop) (appearance : Appearance) (frame : Frame)
    (width height : Nat) : Prop where
  header : Text.IsNarrow frame.header.line.characters
  footer : Text.IsNarrow frame.footer.line.characters
  titles : ∀ table ∈ frame.tables.toList, Text.IsNarrow table.title.toList
  texts : ∀ placed ∈ frame.placed appearance width height, placed.1.HasCuttableTexts allowed

theorem IsDrawable.isDrawn (drawable : frame.IsDrawable allowed appearance width height)
    (allows : Text.AllowsNarrow allowed) :
    ∀ tile ∈ frame.tiles appearance width height, tile.IsDrawn allowed appearance.theme := by
  intro tile member
  have parts := (perm_tiles appearance frame width height).subset member
  rcases List.mem_cons.1 parts with rfl | member
  · exact isDrawn_banner drawable.header allows appearance.theme rfl
  · rcases List.mem_cons.1 member with rfl | member
    · exact isDrawn_banner drawable.footer allows appearance.theme rfl
    · obtain ⟨⟨table, region⟩, inside, rfl⟩ := List.mem_map.1 member
      have title := drawable.titles table (List.of_mem_zip inside).1
      exact isDrawn_table title (drawable.texts _ inside) allows appearance.theme region

theorem IsDrawable.fills_screen (drawable : frame.IsDrawable allowed appearance width height)
    (allows : Text.AllowsNarrow allowed) (wide : 2 ≤ width) (high : 4 ≤ height) :
    ∀ line ∈ frame.screen appearance width height, line.Fills allowed width := by
  refine List.forall_mem_map.2 fun row member => ?_
  have fills := fills_flatMap_part (drawable.isDrawn allows) row
  rw [totalAt_tiles appearance frame wide high (List.mem_range.1 member)] at fills
  exact fills

/-! ## The first and the last row -/

theorem flatMap_of_perm_cons {α β : Type} {items others : List α} {item : α}
    {change : α → List β} (perm : items.Perm (item :: others))
    (nothing : ∀ other ∈ others, change other = []) : items.flatMap change = change item := by
  obtain ⟨front, back, rfl⟩ := List.append_of_mem (perm.symm.subset List.mem_cons_self)
  have rest : (front ++ back).Perm others := (List.perm_middle.symm.trans perm).cons_inv
  have frontNothing : front.flatMap change = [] := List.flatMap_eq_nil_iff.2 fun other member =>
    nothing other (rest.subset (List.mem_append_left back member))
  have backNothing : back.flatMap change = [] := List.flatMap_eq_nil_iff.2 fun other member =>
    nothing other (rest.subset (List.mem_append_right front member))
  rw [List.flatMap_append, List.flatMap_cons, frontNothing, backNothing, List.nil_append,
    List.append_nil]

theorem part_banner {banner : Banner} (region : Region) {line : Line}
    (done : banner.draw region.width = .ok line) (theme : Theme) :
    Tile.part theme region.y ⟨region, .banner banner⟩ = line := by
  have lines : Tile.lines theme ⟨region, .banner banner⟩ = .ok [line] :=
    Attempt.map_eq_ok_iff.2 ⟨line, done, rfl⟩
  rw [Tile.part, Tile.shown, lines, part, if_neg (Nat.lt_irrefl _), Nat.sub_self]
  rfl

theorem rows_of_mem_tableTiles (wide : 2 ≤ width) (high : 4 ≤ height) {tile : Tile}
    (member : tile ∈ frame.tableTiles appearance width height) :
    1 ≤ tile.region.y ∧ tile.region.y + tile.region.height ≤ height - 1 := by
  have inside : tile.region ∈
      (Region.body width height).tile (appearance.limits.divisions width height) := by
    rw [← map_region_tableTiles appearance frame]
    exact List.mem_map.2 ⟨tile, member, rfl⟩
  have within := Region.rowsWithin_of_mem_tile (appearance.limits.nodup_divisions width height)
    (two_le_extent_body wide high _) tile.region inside
  rw [body_eq high] at within
  obtain ⟨above, below⟩ := within
  change tile.region.y + tile.region.height ≤ 1 + (height - 2) at below
  exact ⟨above, by omega⟩

section Edges

variable (drawable : frame.IsDrawable allowed appearance width height)
variable (allows : Text.AllowsNarrow allowed)
include drawable allows

/-- The first row of the screen is the header. -/
theorem screenLine_zero (wide : 2 ≤ width) (high : 4 ≤ height) {line : Line}
    (done : frame.header.draw width = .ok line) :
    frame.screenLine appearance width height 0 = line := by
  have drawn := drawable.isDrawn allows
  have headerFirst := perm_tiles appearance frame width height
  rw [screenLine, flatMap_of_perm_cons headerFirst]
  · exact part_banner (Region.header width) done appearance.theme
  · intro tile member
    refine (drawn tile (headerFirst.symm.subset (List.mem_cons_of_mem _ member))).part_eq_nil ?_
    rcases List.mem_cons.1 member with rfl | member
    · have below : (frame.footerTile width height).region.y = height - 1 :=
        congrArg Region.y (footer_eq high)
      omega
    · have rows := rows_of_mem_tableTiles wide high member
      omega

/-- The last row of the screen is the footer. -/
theorem screenLine_last (wide : 2 ≤ width) (high : 4 ≤ height) {line : Line}
    (done : frame.footer.draw width = .ok line) :
    frame.screenLine appearance width height (height - 1) = line := by
  have drawn := drawable.isDrawn allows
  have footerFirst := (perm_tiles appearance frame width height).trans (.swap _ _ _)
  rw [screenLine, flatMap_of_perm_cons footerFirst]
  · have shown := part_banner (Region.footer width height) done appearance.theme
    rw [footer_eq high] at shown
    rw [footerTile, footer_eq high]
    exact shown
  · intro tile member
    refine (drawn tile (footerFirst.symm.subset (List.mem_cons_of_mem _ member))).part_eq_nil ?_
    rcases List.mem_cons.1 member with rfl | member
    · change ¬(0 ≤ height - 1 ∧ height - 1 < 0 + 1)
      omega
    · have rows := rows_of_mem_tableTiles wide high member
      omega

end Edges

end Frame

end TrafficBoard
