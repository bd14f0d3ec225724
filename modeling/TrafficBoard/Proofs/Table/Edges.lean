import TrafficBoard.Proofs.Table.Panels
import TrafficBoard.Proofs.Table.Titles

/-!
# Panels as a terminal shows them

The edges of a panel are drawn in characters of one cell.  With them around lines that fit,
a panel is no wider than its terminal, so the terminal shows its lines as they are.
-/

namespace TrafficBoard

namespace Drawing

open Text

/-! ## Edges -/

theorem isNarrow_horizontal (count : Nat) : IsNarrow (List.replicate count '─') :=
  isNarrow_replicate (by decide +kernel) count

theorem isNarrow_edge {left right : Char} (narrow : IsNarrow [left, right]) (inner : Nat) :
    IsNarrow (left :: (List.replicate inner '─' ++ [right])) := by
  obtain ⟨first, others⟩ := isNarrow_cons.1 narrow
  exact isNarrow_cons.2 ⟨first, isNarrow_append.2 ⟨isNarrow_horizontal inner, others⟩⟩

theorem cells_edge {left right : Char} (narrow : IsNarrow [left, right]) (inner : Nat)
    (style : Style) :
    Line.cells [⟨left :: (List.replicate inner '─' ++ [right]), style⟩] = inner + 2 := by
  rw [Line.cells_cons, Line.cells_nil, Run.cells, (isNarrow_edge narrow inner).cells_eq]
  simp

theorem cells_bottomEdge (theme : Theme) (inner : Nat) :
    Line.cells (bottomEdge theme inner) = inner + 2 :=
  cells_edge (by decide +kernel) inner _

theorem characters_singleton (run : Run) : Line.characters [run] = run.text :=
  List.flatMap_singleton Run.text run

theorem isNarrow_bottomEdge (theme : Theme) (inner : Nat) :
    IsNarrow (bottomEdge theme inner).characters := by
  rw [bottomEdge, characters_singleton]
  exact isNarrow_edge (by decide +kernel) inner

theorem cells_framed (theme : Theme) (line : Line) :
    Line.cells (framed theme line) = line.cells + 2 := by
  have side : Text.cells ['│'] = 1 := by decide +kernel
  simp only [framed, Line.cells_cons, Line.cells_append, Line.cells_nil, Run.cells, side]
  omega

/-! ## The upper edge -/

section Cuttable

variable {allowed : Char → Prop} {title : String}

/-- The upper edge of a panel is as wide as its sides, however long the title is, if the title
does not have both tabs and joiners. -/
theorem exists_topEdge_fills (tabs : '\t' ∈ title.toList → joiner ∉ title.toList)
    (mem : ∀ c ∈ title.toList, allowed c) (allows : AllowsNarrow allowed) (theme : Theme)
    (inner : Nat) :
    ∃ top, topEdge theme (titleParts title) inner = .ok top ∧ top.Fills allowed (inner + 2) := by
  have corners : IsNarrow ['┌', '┐'] := by decide +kernel
  unfold topEdge
  split
  · have edge := isNarrow_edge corners inner
    refine ⟨_, rfl, Line.isCuttable_singleton.2 (edge.isCuttable allows), ?_⟩
    exact cells_edge corners inner _
  · next room =>
      rcases titleParts_cases title with none | are
      · exact absurd (.inl (none ▸ rfl)) room
      · obtain ⟨shown, done, fits, pieces⟩ :=
          are.exists_crop tabs mem allows (.bold theme.title) (inner - 2)
        have start : IsNarrow ['┌', '─'] := by decide +kernel
        have ends : IsNarrow (List.replicate (inner - 2 - Text.cells shown) '─' ++ ['─', '┐']) :=
          isNarrow_append.2 ⟨isNarrow_horizontal _, by decide +kernel⟩
        refine ⟨_, Attempt.bind_eq_ok_iff.2 ⟨shown, done, rfl⟩, List.forall_mem_cons.2
          ⟨start.isCuttable allows, Line.isCuttable_append.2
            ⟨pieces.cuttable, Line.isCuttable_singleton.2 (ends.isCuttable allows)⟩⟩, ?_⟩
        have measured := pieces.cells_eq
        rw [runs] at measured
        simp only [Line.cells_cons, Line.cells_append, Line.cells_nil, Run.cells, measured,
          start.cells_eq, ends.cells_eq, List.length_append, List.length_replicate,
          List.length_cons, List.length_nil]
        omega

end Cuttable

/-! ## Panels -/

section Cuttable

variable {allowed : Char → Prop} {table : Table} {width : Int}

theorem fills_framed {line : Line} {inner : Nat} (fills : line.Fills allowed inner)
    (allows : AllowsNarrow allowed) (theme : Theme) :
    (framed theme line).Fills allowed (inner + 2) := by
  have side : IsNarrow ['│'] := by decide +kernel
  have sides : Run.IsCuttable allowed ⟨['│'], .colour theme.border⟩ := side.isCuttable allows
  refine ⟨List.forall_mem_cons.2 ⟨sides, Line.isCuttable_append.2
    ⟨fills.cuttable, Line.isCuttable_singleton.2 sides⟩⟩, ?_⟩
  rw [cells_framed, fills.cells_eq]

/-- A panel as wide as its terminal can be drawn if no line of a text starts with a joiner and
the title does not have both tabs and joiners. -/
theorem exists_panelLines (tabs : '\t' ∈ table.title.toList → joiner ∉ table.title.toList)
    (mem : ∀ c ∈ table.title.toList, allowed c)
    (cuttable : table.HasCuttableTexts allowed) (allows : AllowsNarrow allowed) (theme : Theme)
    (wide : 2 ≤ width) (height : Option Int) :
    ∃ lines, panelLines table theme width.toNat width height = .ok lines ∧
      ∀ line ∈ lines, line.Fills allowed width.toNat := by
  have whole : width.toNat - 2 + 2 = width.toNat := by omega
  obtain ⟨top, edge, topFills⟩ := exists_topEdge_fills tabs mem allows theme (width.toNat - 2)
  obtain ⟨body, done, fills⟩ :=
    Table.exists_body cuttable allows theme (width.toNat - 2) width height
  rw [panelLines, Table.innerWidth_eq]
  refine ⟨_, Attempt.bind_eq_ok_iff.2 ⟨body, done, Attempt.bind_eq_ok_iff.2 ⟨top, edge, rfl⟩⟩,
    List.forall_mem_cons.2 ⟨?_, List.forall_mem_append.2 ⟨List.forall_mem_map.2 ?_,
      List.forall_mem_singleton.2 ?_⟩⟩⟩
  · exact ⟨topFills.cuttable, topFills.cells_eq.trans whole⟩
  · intro line member
    rw [← whole]
    exact fills_framed (fills line member) allows theme
  · exact ⟨Line.isCuttable_of_isNarrow (isNarrow_bottomEdge theme _) allows,
      (cells_bottomEdge theme _).trans whole⟩

end Cuttable

/-- A terminal shows what fits on it as it is. -/
theorem shownLines_eq {drawing : Drawing} {terminal : Nat} (positive : terminal ≠ 0)
    (fits : ∀ line ∈ drawing.lines, line.cells ≤ terminal) :
    drawing.shownLines terminal = .ok drawing.lines := by
  rw [shownLines, if_neg positive, Attempt.mapM_eq_ok_iff, List.forall₂_same]
  exact fun line member => Line.crop_of_cells_le (fits line member)

end Drawing

namespace Table

variable {table : Table} {theme : Theme} {width : Int} {height : Option Int}

theorem shownLines_panel (wide : 8 ≤ width) {top : Line} {body : List Line}
    (topFits : top.cells ≤ innerAt width + 2)
    (bodyFits : ∀ line ∈ body, line.cells ≤ innerAt width) :
    (panel theme width top body).shownLines width.toNat =
      .ok (panel theme width top body).lines := by
  have whole : innerAt width + 2 = width.toNat := by
    unfold innerAt
    omega
  apply Drawing.shownLines_eq (by omega)
  rw [← whole]
  refine List.forall_mem_cons.2 ⟨topFits, List.forall_mem_append.2 ⟨List.forall_mem_map.2 ?_,
    List.forall_mem_singleton.2 (Nat.le_of_eq (Drawing.cells_bottomEdge theme _))⟩⟩
  intro line member
  rw [Drawing.cells_framed]
  exact Nat.add_le_add_right (bodyFits line member) 2

/-- A region too small for a panel shows as much of the title as fits. -/
theorem draw_of_isTooSmall (title : Text.IsNarrow table.title.toList) (theme : Theme)
    (terminal : Nat) (small : Drawing.isTooSmall width height = true) :
    table.draw theme terminal width height =
      .ok (.title [[⟨table.title.toList.take terminal, .plain⟩]]) := by
  rw [draw, if_pos small, Drawing.titleLines, title.displayLines_eq, List.mapM_cons,
    title.crop_eq]
  rfl

/-- A table is drawn for any region if no line of its texts starts with a joiner, and it fits
on a terminal of the width of the region. -/
theorem exists_draw {allowed : Char → Prop} (title : Text.IsNarrow table.title.toList)
    (cuttable : table.HasCuttableTexts allowed) (allows : Text.AllowsNarrow allowed)
    (theme : Theme) (width : Int) (height : Option Int) :
    ∃ drawing, table.draw theme width.toNat width height = .ok drawing ∧
      ∀ line ∈ drawing.lines, line.IsCuttable allowed ∧ line.cells ≤ width.toNat := by
  by_cases small : Drawing.isTooSmall width height = true
  · refine ⟨_, draw_of_isTooSmall title theme width.toNat small, List.forall_mem_singleton.2 ?_⟩
    have kept := title.take width.toNat
    refine ⟨Line.isCuttable_singleton.2 (kept.isCuttable allows), ?_⟩
    rw [Line.cells_cons, Line.cells_nil, Run.cells, kept.cells_eq]
    exact List.length_take_le _ _
  · have wide : 8 ≤ width := by
      rw [Drawing.isTooSmall, Bool.or_eq_true, not_or] at small
      exact Int.not_lt.1 fun narrow => small.1 (decide_eq_true narrow)
    obtain ⟨lines, done, fills⟩ := Drawing.exists_panelLines
      (fun _ member => (title Text.joiner member).1 rfl)
      (fun c member => allows c (title c member)) cuttable allows theme
      (Int.le_trans (by decide) wide) height
    refine ⟨.panel lines, ?_, fun line member =>
      ⟨(fills line member).cuttable, Nat.le_of_eq (fills line member).cells_eq⟩⟩
    rw [draw, if_neg small]
    exact Attempt.map_eq_ok_iff.2 ⟨lines, done, rfl⟩

end Table

end TrafficBoard
