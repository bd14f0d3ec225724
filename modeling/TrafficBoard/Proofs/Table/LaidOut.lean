import Mathlib.Algebra.Ring.Nat
import TrafficBoard.Proofs.Table.Edges
import TrafficBoard.Proofs.Table.Sharing

/-!
# Rows of narrow texts

In a table of narrow characters every cell of the terminal can be told.  A row is the texts
in the rooms of their columns with the spacing between them, and what the columns do not take
is left blank.
-/

namespace TrafficBoard

namespace Text

/-- Texts in rooms, with a gap between each two of them. -/
def laidOut (gap : Nat) : List Nat → List (List Char) → List (List Char)
  | [room], [text] => [inRoom room text]
  | room :: rooms, text :: texts => (inRoom room text ++ blank gap) :: laidOut gap rooms texts
  | _, _ => []

end Text

namespace Grid

open Text

variable {style : Style} {spacing width : Nat}

theorem cells_inRoom {text : List Char} (narrow : IsNarrow text) (room : Nat) (style : Style) :
    Line.cells [⟨inRoom room text, style⟩] = room := by
  rw [Line.cells_cons, Line.cells_nil, Run.cells, (narrow.inRoom room).cells_eq, length_inRoom,
    Nat.add_zero]

theorem cellLine_of_isNarrow {text : List Char} (narrow : IsNarrow text) (room : Nat) :
    cellLine style spacing (room + spacing) text =
      .ok ([⟨inRoom room text, style⟩] ++ [.blank style spacing]) := by
  have spaced : Line.cells ([⟨inRoom room text, style⟩] ++ [.blank style spacing]) =
      room + spacing := by
    rw [Line.cells_append, cells_inRoom narrow, Line.cells_cons, Line.cells_nil,
      Run.cells_blank, Nat.add_zero]
  refine Attempt.bind_eq_ok_iff.2 ⟨inRoom room text, ?_, Attempt.bind_eq_ok_iff.2
    ⟨[⟨inRoom room text, style⟩], ?_, Line.fit_of_cells_eq spaced style⟩⟩
  · rw [Nat.add_sub_cancel, narrow.fit_eq]
  · rw [Nat.add_sub_cancel]
    exact Line.fit_of_cells_eq (cells_inRoom narrow room style) style

/-- A cell of one line shows its characters, each in one cell of the terminal, and one
without lines shows spaces. -/
inductive Cell.Shows : Cell → List Char → Prop where
  | none (width : Nat) : Shows ⟨width, []⟩ (blank width)
  | line {width : Nat} {line : Line} :
      line.cells = width → line.characters.length = width →
        Shows ⟨width, [line]⟩ line.characters

theorem Cell.exists_shows {text : String} (narrow : IsNarrow text.toList) (style : Style)
    (spacing room : Nat) :
    ∃ cell, ofText style spacing (room + spacing) text = .ok cell ∧
      cell.Shows (inRoom room text.toList ++ blank spacing) ∧ cell.width = room + spacing := by
  unfold ofText
  split
  · next none =>
      have noRoom : room = 0 := by omega
      rw [noRoom, inRoom, List.take_zero, Nat.zero_sub, Nat.zero_add]
      exact ⟨_, rfl, .none spacing, rfl⟩
  · have characters : Line.characters ([⟨inRoom room text.toList, style⟩] ++
        [.blank style spacing]) = inRoom room text.toList ++ blank spacing := by
      simp [Line.characters, Run.blank]
    refine ⟨⟨room + spacing, [[⟨inRoom room text.toList, style⟩] ++ [.blank style spacing]]⟩,
      ?_, ?_, rfl⟩
    · rw [narrow.displayLines_eq, List.mapM_cons, cellLine_of_isNarrow narrow]
      rfl
    · rw [← characters]
      refine .line ?_ ?_
      · rw [Line.cells_append, cells_inRoom narrow, Line.cells_cons, Line.cells_nil,
          Run.cells_blank, Nat.add_zero]
      · rw [characters, List.length_append, length_inRoom, blank, List.length_replicate]

/-- The cells of a row of narrow texts show the texts in their rooms. -/
theorem exists_shows_cells {rooms : List Int} (nonneg : ∀ room ∈ rooms, 0 ≤ room) {gap : Int}
    (gapNonneg : 0 ≤ gap) {texts : List String} (narrow : ∀ text ∈ texts, IsNarrow text.toList)
    (paired : texts.length = rooms.length) :
    ∃ row, cells style gap.toNat ((spacedWidths gap rooms).map Int.toNat) texts = .ok row ∧
      List.Forall₂ Cell.Shows row
        (laidOut gap.toNat (rooms.map Int.toNat) (texts.map String.toList)) ∧
      row.map Cell.width = (spacedWidths gap rooms).map Int.toNat := by
  induction rooms generalizing texts with
  | nil =>
      cases texts with
      | nil => exact ⟨[], rfl, .nil, rfl⟩
      | cons text rest => cases paired
  | cons room rest ih =>
      cases texts with
      | nil => cases paired
      | cons text others =>
          obtain ⟨firstNarrow, othersNarrow⟩ := List.forall_mem_cons.1 narrow
          obtain ⟨first, restNonneg⟩ := List.forall_mem_cons.1 nonneg
          cases rest with
          | nil =>
              obtain rfl := List.length_eq_zero_iff.1 (Nat.succ.inj paired)
              obtain ⟨cell, done, shows, measured⟩ :=
                Cell.exists_shows firstNarrow style 0 room.toNat
              have alone : inRoom room.toNat text.toList ++ blank 0 =
                  inRoom room.toNat text.toList := List.append_nil _
              rw [alone] at shows
              exact ⟨[cell], Attempt.bind_eq_ok_iff.2 ⟨cell, done, rfl⟩, .cons shows .nil,
                congrArg (fun width => [width]) measured⟩
          | cons second more =>
              cases others with
              | nil => cases paired
              | cons next texts =>
                  obtain ⟨row, rowDone, rowShows, rowWidths⟩ :=
                    ih restNonneg othersNarrow (Nat.succ.inj paired)
                  obtain ⟨cell, done, shows, measured⟩ :=
                    Cell.exists_shows firstNarrow style gap.toNat room.toNat
                  rw [← Int.toNat_add first gapNonneg] at done measured
                  refine ⟨cell :: row, ?_, .cons shows rowShows,
                    congrArg₂ List.cons measured rowWidths⟩
                  have spaced : spacedWidths gap (room :: second :: more) =
                      (room + gap) :: spacedWidths gap (second :: more) := rfl
                  rw [spaced, List.map_cons, cells]
                  · exact Attempt.bind_eq_ok_iff.2 ⟨cell, done,
                      Attempt.bind_eq_ok_iff.2 ⟨row, rowDone, rfl⟩⟩
                  · intro _ none
                    cases none

/-! ## One line for a row -/

/-- The columns of one line each are one line side by side. -/
theorem sideBySide_one (lines : List Line) :
    sideBySide 1 (lines.map fun line => [line]) = [lines.flatten] := by
  induction lines with
  | nil => rfl
  | cons line rest ih =>
      rw [List.map_cons, sideBySide, List.foldr_cons]
      change List.zipWith _ [line] (sideBySide 1 _) = _
      rw [ih]
      rfl

theorem Cell.Shows.exists_stand {cell : Cell} {text : List Char} (shows : cell.Shows text)
    (style : Style) (standing : Standing) :
    ∃ line : Line, cell.stand style standing 1 = [line] ∧ line.characters = text ∧
      line.cells = cell.width := by
  cases shows with
  | none width =>
      refine ⟨[.blank style width], ?_, List.append_nil _, Run.cells_blank style width⟩
      cases standing <;> rfl
  | @line width line measured _ =>
      refine ⟨line, ?_, rfl, measured⟩
      cases standing <;> rfl

theorem length_lines_le_one {row : List Cell} {texts : List (List Char)}
    (shows : List.Forall₂ Cell.Shows row texts) : ∀ cell ∈ row, cell.lines.length ≤ 1 := by
  induction shows with
  | nil => exact List.forall_mem_nil _
  | cons first _ ih =>
      refine List.forall_mem_cons.2 ⟨?_, ih⟩
      cases first with
      | none => exact Nat.zero_le 1
      | line => exact Nat.le_refl 1

/-- Cells without lines show spaces. -/
theorem characters_blanks {row : List Cell} {texts : List (List Char)}
    (shows : List.Forall₂ Cell.Shows row texts) (none : textHeight row = 0) :
    Line.characters (row.map fun cell => .blank .plain cell.width) = texts.flatten := by
  induction shows with
  | nil => rfl
  | cons first _ ih =>
      obtain ⟨firstNone, othersNone⟩ := Nat.max_eq_zero_iff.1 none
      rw [List.map_cons, List.flatten_cons, ← ih othersNone]
      cases first with
      | none width => rfl
      | line => cases firstNone

theorem cells_blanks (row : List Cell) :
    Line.cells (row.map fun cell => .blank .plain cell.width) = (row.map Cell.width).sum := by
  induction row with
  | nil => rfl
  | cons cell rest ih =>
      rw [List.map_cons, Line.cells_cons, Run.cells_blank, ih, List.map_cons, List.sum_cons]

/-- Cells that stand in one line show their characters there. -/
theorem exists_stands {row : List Cell} {texts : List (List Char)}
    (shows : List.Forall₂ Cell.Shows row texts) (style : Style) (standing : Standing) :
    ∃ lines : List Line, row.map (·.stand style standing 1) = lines.map (fun line => [line]) ∧
      Line.characters lines.flatten = texts.flatten ∧
      Line.cells lines.flatten = (row.map Cell.width).sum := by
  induction shows with
  | nil => exact ⟨[], rfl, rfl, rfl⟩
  | cons first _ ih =>
      obtain ⟨line, stands, characters, measured⟩ := first.exists_stand style standing
      obtain ⟨lines, restStands, restCharacters, restMeasured⟩ := ih
      refine ⟨line :: lines, ?_, ?_, ?_⟩
      · rw [List.map_cons, stands, restStands, List.map_cons]
      · rw [List.flatten_cons, Line.characters, List.flatMap_append]
        exact congrArg₂ _ characters restCharacters
      · rw [List.flatten_cons, Line.cells_append, measured, restMeasured, List.map_cons,
          List.sum_cons]

/-- Cells that show characters are one line together. -/
theorem exists_stack {row : List Cell} {texts : List (List Char)}
    (shows : List.Forall₂ Cell.Shows row texts) (style : Style) (standing : Standing) :
    ∃ line : Line, stack style standing row = [line] ∧ line.characters = texts.flatten ∧
      line.cells = (row.map Cell.width).sum := by
  unfold stack
  split
  · next none => exact ⟨_, rfl, characters_blanks shows none, cells_blanks row⟩
  · next some =>
      have low := textHeight_le (length_lines_le_one shows)
      have one : textHeight row = 1 := Nat.le_antisymm low (Nat.one_le_iff_ne_zero.2 some)
      obtain ⟨lines, stands, characters, measured⟩ := exists_stands shows style standing
      refine ⟨lines.flatten, ?_, characters, measured⟩
      rw [one, stands, sideBySide_one]

theorem length_flatten_of_shows {row : List Cell} {texts : List (List Char)}
    (shows : List.Forall₂ Cell.Shows row texts) :
    texts.flatten.length = (row.map Cell.width).sum := by
  induction shows with
  | nil => rfl
  | @cons cell text _ _ first _ ih =>
      have length : text.length = cell.width := by
        cases first with
        | none width => exact List.length_replicate
        | line _ length => exact length
      rw [List.flatten_cons, List.length_append, length, ih, List.map_cons, List.sum_cons]

theorem nonneg_spacedWidths {rooms : List Int} (nonneg : ∀ room ∈ rooms, 0 ≤ room) {gap : Int}
    (gapNonneg : 0 ≤ gap) : ∀ width ∈ spacedWidths gap rooms, 0 ≤ width := by
  fun_induction spacedWidths gap rooms with
  | case1 => exact nonneg
  | case2 last => exact nonneg
  | case3 width rest _ ih =>
      obtain ⟨first, others⟩ := List.forall_mem_cons.1 nonneg
      exact List.forall_mem_cons.2 ⟨Int.add_nonneg first gapNonneg, ih others⟩

theorem sum_map_toNat {widths : List Int} (nonneg : ∀ width ∈ widths, 0 ≤ width) :
    ((widths.map Int.toNat).sum : Int) = totalWidth widths := by
  induction widths with
  | nil => rfl
  | cons width rest ih =>
      obtain ⟨first, others⟩ := List.forall_mem_cons.1 nonneg
      rw [List.map_cons, List.sum_cons, Int.natCast_add, ih others, Int.toNat_of_nonneg first,
        totalWidth_cons]

/-- A row of narrow texts takes a line in which they stand in their rooms. -/
theorem exists_takes_laidOut {row : Row} {rooms : List Int} (nonneg : ∀ room ∈ rooms, 0 ≤ room)
    {gap : Int} (gapNonneg : 0 ≤ gap) (narrow : ∀ text ∈ row.texts, IsNarrow text.toList)
    (paired : row.texts.length = rooms.length) {inner : Nat}
    (fits : totalWidth (spacedWidths gap rooms) ≤ inner) :
    ∃ line, row.Takes inner gap.toNat ((spacedWidths gap rooms).map Int.toNat) line ∧
      line.cells = inner ∧
      line.characters = inRoom inner
        (laidOut gap.toNat (rooms.map Int.toNat) (row.texts.map String.toList)).flatten := by
  obtain ⟨found, done, shows, widths⟩ := exists_shows_cells nonneg gapNonneg narrow paired
  obtain ⟨stacked, alone, characters, measured⟩ := exists_stack shows row.style row.standing
  have room : stacked.cells ≤ inner := by
    rw [measured, widths, ← Int.ofNat_le, sum_map_toNat (nonneg_spacedWidths nonneg gapNonneg)]
    exact fits
  have length : stacked.characters.length = stacked.cells := by
    rw [characters, measured]
    exact length_flatten_of_shows shows
  obtain ⟨line, fitted, exactly, kept⟩ := Line.exists_fit_filled room .plain
  refine ⟨line, Attempt.bind_eq_ok_iff.2 ⟨found, done, ?_⟩, exactly, ?_⟩
  · rw [alone]
    exact Attempt.mapM_eq_ok_iff.2 (.cons fitted .nil)
  · rw [kept, ← characters, inRoom_of_length_le (length ▸ room), length]

end Grid

end TrafficBoard
