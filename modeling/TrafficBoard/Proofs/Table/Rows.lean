import TrafficBoard.Proofs.Text.Cutting
import TrafficBoard.Table.Grid

/-!
# Rows

A row whose texts have no line feeds takes one line.  Drawn up to a limit, a grid of such
rows has a line for each of the first rows, the one that the row takes alone, and none for
the rows behind them.

Rows of any texts can be drawn if no line of a text starts with a joiner, and all their lines
are as wide as the region.
-/

namespace TrafficBoard.Grid

/-! ## The cells of a row -/

section Cells

variable {allowed : Char → Prop} {style : Style} {spacing width : Nat}

theorem exists_cellLine {text : List Char} (cuttable : Text.IsCuttable allowed text)
    (space : allowed ' ') (style : Style) (spacing width : Nat) :
    ∃ line, cellLine style spacing width text = .ok line ∧ line.IsCuttable allowed := by
  obtain ⟨shown, fitted, shownCuttable⟩ := cuttable.exists_fit space (width - spacing)
  have alone : Line.IsCuttable allowed [⟨shown, style⟩] := Line.isCuttable_singleton.2 shownCuttable
  obtain ⟨filled, filledDone, filledFills⟩ := alone.exists_fit space style (width - spacing)
  have spaced : Line.IsCuttable allowed (filled ++ [.blank style spacing]) :=
    Line.isCuttable_append.2 ⟨filledFills.cuttable, Line.isCuttable_blank space style spacing⟩
  obtain ⟨line, done, fills⟩ := spaced.exists_fit space style width
  exact ⟨line, Attempt.bind_eq_ok_iff.2 ⟨shown, fitted,
    Attempt.bind_eq_ok_iff.2 ⟨filled, filledDone, done⟩⟩, fills.cuttable⟩

/-- A text without line feeds has at most one line in its cell. -/
theorem Cell.length_lines_le {text : String} {cell : Cell} (absent : '\n' ∉ text.toList)
    (done : ofText style spacing width text = .ok cell) : cell.lines.length ≤ 1 := by
  unfold ofText at done
  split at done
  · cases done
    exact Nat.zero_le 1
  · obtain ⟨lines, linesDone, rfl⟩ := Attempt.map_eq_ok_iff.1 done
    have paired := (Attempt.mapM_eq_ok_iff.1 linesDone).length_eq
    rw [Text.length_displayLines_of_not_mem absent] at paired
    exact Nat.le_of_eq paired.symm

theorem Cell.exists_ofText {text : String}
    (cuttable : Text.HasCuttableLines allowed text.toList) (space : allowed ' ') (style : Style)
    (spacing width : Nat) :
    ∃ cell, ofText style spacing width text = .ok cell ∧
      ∀ line ∈ cell.lines, line.IsCuttable allowed := by
  unfold ofText
  split
  · exact ⟨⟨width, []⟩, rfl, List.forall_mem_nil _⟩
  · obtain ⟨lines, done, -, kept⟩ := Attempt.exists_mapM fun line member =>
      exists_cellLine (cuttable.displayLines space line member) space style spacing width
    exact ⟨⟨width, lines⟩, Attempt.map_eq_ok_iff.2 ⟨lines, done, rfl⟩, kept⟩

end Cells

variable {style : Style} {spacing : Nat} {widths : List Nat} {texts : List String}

/-- What holds of the cell of each text of a row holds of the cells of the row. -/
theorem cells_forall {property : Cell → Prop} {found : List Cell}
    (each : ∀ text ∈ texts, ∀ gap width cell,
      Cell.ofText style gap width text = .ok cell → property cell)
    (done : cells style spacing widths texts = .ok found) : ∀ cell ∈ found, property cell := by
  fun_induction cells style spacing widths texts generalizing found with
  | case1 width text =>
      obtain ⟨cell, cellDone, same⟩ := Attempt.bind_eq_ok_iff.1 done
      cases same
      exact List.forall_mem_singleton.2 (each text List.mem_cons_self _ _ _ cellDone)
  | case2 width widths text texts _ ih =>
      obtain ⟨cell, cellDone, rest⟩ := Attempt.bind_eq_ok_iff.1 done
      obtain ⟨others, othersDone, same⟩ := Attempt.bind_eq_ok_iff.1 rest
      cases same
      exact List.forall_mem_cons.2 ⟨each text List.mem_cons_self _ _ _ cellDone,
        ih (fun other member => each other (List.mem_cons_of_mem _ member)) othersDone⟩
  | case3 =>
      cases done
      exact List.forall_mem_nil _

theorem exists_cells
    (each : ∀ text ∈ texts, ∀ gap width, ∃ cell, Cell.ofText style gap width text = .ok cell) :
    ∃ found, cells style spacing widths texts = .ok found := by
  fun_induction cells style spacing widths texts with
  | case1 width text =>
      obtain ⟨cell, done⟩ := each text List.mem_cons_self 0 width
      exact ⟨[cell], Attempt.bind_eq_ok_iff.2 ⟨cell, done, rfl⟩⟩
  | case2 width widths text texts _ ih =>
      obtain ⟨cell, done⟩ := each text List.mem_cons_self spacing width
      obtain ⟨others, othersDone⟩ :=
        ih fun other member => each other (List.mem_cons_of_mem _ member)
      exact ⟨cell :: others, Attempt.bind_eq_ok_iff.2 ⟨cell, done,
        Attempt.bind_eq_ok_iff.2 ⟨others, othersDone, rfl⟩⟩⟩
  | case3 => exact ⟨[], rfl⟩

/-! ## Cells side by side -/

theorem textHeight_le {row : List Cell} {bound : Nat}
    (each : ∀ cell ∈ row, cell.lines.length ≤ bound) : textHeight row ≤ bound := by
  induction row with
  | nil => exact Nat.zero_le bound
  | cons cell rest ih =>
      obtain ⟨first, others⟩ := List.forall_mem_cons.1 each
      exact Nat.max_le.2 ⟨first, ih others⟩

theorem length_lines_le_textHeight {row : List Cell} {cell : Cell} (member : cell ∈ row) :
    cell.lines.length ≤ textHeight row := by
  induction row with
  | nil => cases member
  | cons first rest ih =>
      rcases List.mem_cons.1 member with rfl | later
      · exact Nat.le_max_left _ _
      · exact Nat.le_trans (ih later) (Nat.le_max_right _ _)

theorem Cell.length_stand {cell : Cell} {height : Nat} (fits : cell.lines.length ≤ height)
    (style : Style) (standing : Standing) : (cell.stand style standing height).length = height := by
  cases standing <;>
    simp only [stand, List.length_append, List.length_replicate] <;> omega

theorem length_sideBySide {height : Nat} {columns : List (List Line)}
    (each : ∀ column ∈ columns, column.length = height) :
    (sideBySide height columns).length = height := by
  induction columns with
  | nil => exact List.length_replicate
  | cons column rest ih =>
      obtain ⟨first, others⟩ := List.forall_mem_cons.1 each
      rw [sideBySide, List.foldr_cons, List.length_zipWith, first]
      change min height (sideBySide height rest).length = height
      rw [ih others, Nat.min_self]

/-- A row has as many lines as its highest cell, and at least one. -/
theorem length_stack (style : Style) (standing : Standing) (row : List Cell) :
    (stack style standing row).length = max 1 (textHeight row) := by
  unfold stack
  split
  · next none => rw [none]; rfl
  · next none =>
      have some : 1 ≤ textHeight row := Nat.one_le_iff_ne_zero.2 none
      rw [Nat.max_eq_right some]
      apply length_sideBySide
      intro column member
      obtain ⟨cell, cellMember, rfl⟩ := List.mem_map.1 member
      exact Cell.length_stand (length_lines_le_textHeight cellMember) style standing

section Cuttable

variable {allowed : Char → Prop}

theorem isCuttable_sideBySide {height : Nat} {columns : List (List Line)}
    (each : ∀ column ∈ columns, ∀ line ∈ column, line.IsCuttable allowed) :
    ∀ line ∈ sideBySide height columns, line.IsCuttable allowed := by
  induction columns with
  | nil =>
      intro line member
      rw [(List.mem_replicate.1 member).2]
      exact Line.isCuttable_nil
  | cons column rest ih =>
      obtain ⟨first, others⟩ := List.forall_mem_cons.1 each
      intro line member
      rw [sideBySide, List.foldr_cons, ← List.map_uncurry_zip_eq_zipWith] at member
      obtain ⟨⟨front, back⟩, pair, rfl⟩ := List.mem_map.1 member
      obtain ⟨frontMember, backMember⟩ := List.of_mem_zip pair
      exact Line.isCuttable_append.2 ⟨first front frontMember, ih others back backMember⟩

theorem isCuttable_stack {row : List Cell}
    (each : ∀ cell ∈ row, ∀ line ∈ cell.lines, line.IsCuttable allowed) (space : allowed ' ')
    (style : Style) (standing : Standing) :
    ∀ line ∈ stack style standing row, line.IsCuttable allowed := by
  unfold stack
  split
  · refine List.forall_mem_singleton.2 ?_
    intro run member
    obtain ⟨cell, -, rfl⟩ := List.mem_map.1 member
    exact Run.isCuttable_blank space _ _
  · apply isCuttable_sideBySide
    intro column member
    obtain ⟨cell, cellMember, rfl⟩ := List.mem_map.1 member
    have blanks : ∀ line ∈ List.replicate (textHeight row - cell.lines.length)
        [Run.blank style cell.width], Line.IsCuttable allowed line := by
      intro line inside
      rw [(List.mem_replicate.1 inside).2]
      exact Line.isCuttable_blank space _ _
    cases standing with
    | top => exact List.forall_mem_append.2 ⟨each cell cellMember, blanks⟩
    | bottom => exact List.forall_mem_append.2 ⟨blanks, each cell cellMember⟩

end Cuttable

/-! ## Rows -/

/-- Whether the texts of a row have no line feeds. -/
def Row.IsFeedless (row : Row) : Prop := ∀ text ∈ row.texts, '\n' ∉ text.toList

/-- Whether no line of a text of a row starts with a joiner. -/
def Row.IsCuttable (allowed : Char → Prop) (row : Row) : Prop :=
  ∀ text ∈ row.texts, Text.HasCuttableLines allowed text.toList

/-- Whether a line is all that a row takes when it is drawn alone. -/
def Row.Takes (inner spacing : Nat) (widths : List Nat) (row : Row) (line : Line) : Prop :=
  row.lines inner spacing widths none = .ok [line]

@[simp] theorem upTo_nil {α : Type} (limit : Option Nat) : upTo limit ([] : List α) = [] := by
  cases limit with
  | none => rfl
  | some count => exact List.take_nil

theorem mem_of_mem_upTo {α : Type} {limit : Option Nat} {entries : List α} {entry : α}
    (member : entry ∈ upTo limit entries) : entry ∈ entries := by
  cases limit with
  | none => exact member
  | some count => exact List.mem_of_mem_take member

theorem upTo_cons {α : Type} {limit : Option Nat} (room : limit ≠ some 0) (first : α)
    (rest : List α) : upTo limit (first :: rest) = first :: upTo (limit.map (· - 1)) rest := by
  cases limit with
  | none => rfl
  | some count =>
      cases count with
      | zero => exact absurd rfl room
      | succ count => rfl

variable {inner : Nat} {row : Row}

/-- The cells of a row without line feeds are one line together. -/
theorem Row.IsFeedless.exists_stack_eq (feedless : row.IsFeedless) {found : List Cell}
    (done : cells row.style spacing widths row.texts = .ok found) :
    ∃ stacked, stack row.style row.standing found = [stacked] := by
  have low := textHeight_le (cells_forall (fun text member _ _ _ =>
    Cell.length_lines_le (feedless text member)) done)
  apply List.length_eq_one_iff.1
  rw [length_stack, Nat.max_eq_left low]

theorem Row.IsFeedless.lines_eq (feedless : row.IsFeedless) {limit : Option Nat}
    (room : limit ≠ some 0) :
    row.lines inner spacing widths limit = row.lines inner spacing widths none := by
  unfold lines
  cases done : cells row.style spacing widths row.texts with
  | error error => rfl
  | ok found =>
      obtain ⟨stacked, alone⟩ := feedless.exists_stack_eq done
      have kept : upTo limit [stacked] = [stacked] := by
        rw [upTo_cons room, upTo_nil]
      change (upTo limit (stack row.style row.standing found)).mapM _ =
        (upTo none (stack row.style row.standing found)).mapM _
      rw [alone, kept]
      rfl

/-- A row without line feeds takes one line, whatever the limit is. -/
theorem Row.IsFeedless.lines_eq_ok_iff (feedless : row.IsFeedless) {limit : Option Nat}
    (room : limit ≠ some 0) {lines : List Line} :
    row.lines inner spacing widths limit = .ok lines ↔
      ∃ line, lines = [line] ∧ row.Takes inner spacing widths line := by
  rw [feedless.lines_eq room]
  constructor
  · intro done
    obtain ⟨found, cellsDone, fitted⟩ := Attempt.bind_eq_ok_iff.1 done
    obtain ⟨stacked, alone⟩ := feedless.exists_stack_eq cellsDone
    have paired := (Attempt.mapM_eq_ok_iff.1 fitted).length_eq
    rw [alone] at paired
    obtain ⟨line, rfl⟩ := List.length_eq_one_iff.1 paired.symm
    exact ⟨line, rfl, done⟩
  · rintro ⟨line, rfl, taken⟩
    exact taken

section Cuttable

variable {allowed : Char → Prop}

/-- A row whose texts can be cut is drawn, and its lines are as wide as the region. -/
theorem Row.IsCuttable.exists_lines (cuttable : row.IsCuttable allowed) (space : allowed ' ')
    (inner spacing : Nat) (widths : List Nat) (limit : Option Nat) :
    ∃ lines, row.lines inner spacing widths limit = .ok lines ∧
      ∀ line ∈ lines, line.Fills allowed inner := by
  have each := fun text member => Cell.exists_ofText (cuttable text member) space row.style
  obtain ⟨found, cellsDone⟩ : ∃ found, cells row.style spacing widths row.texts = .ok found :=
    exists_cells fun text member gap width => (each text member gap width).imp fun _ => And.left
  have parts : ∀ cell ∈ found, ∀ line ∈ cell.lines, line.IsCuttable allowed := by
    refine cells_forall ?_ cellsDone
    intro text member gap width cell done
    obtain ⟨other, otherDone, lines⟩ := each text member gap width
    rw [done] at otherDone
    cases otherDone
    exact lines
  have stacked := isCuttable_stack parts space row.style row.standing
  have kept : ∀ line ∈ upTo limit (stack row.style row.standing found), line.IsCuttable allowed :=
    fun line member => stacked line (mem_of_mem_upTo member)
  obtain ⟨lines, fitted, -, fills⟩ := Attempt.exists_mapM fun line member =>
    (kept line member).exists_fit space .plain inner
  exact ⟨lines, Attempt.bind_eq_ok_iff.2 ⟨found, cellsDone, fitted⟩, fills⟩

end Cuttable

/-! ## Rows up to a limit -/

/-- Each of the first rows takes its own line, and the rows behind the limit take none. -/
theorem rowLines_eq_ok_iff {limit : Option Nat} {rows : List Row} {lines : List Line}
    (feedless : ∀ row ∈ rows, row.IsFeedless) :
    rowLines inner spacing widths limit rows = .ok lines ↔
      List.Forall₂ (Row.Takes inner spacing widths) (upTo limit rows) lines := by
  induction rows generalizing limit lines with
  | nil =>
      rw [upTo_nil, List.forall₂_nil_left_iff, rowLines]
      exact ⟨fun same => (Except.ok.inj same).symm, fun same => congrArg _ same.symm⟩
  | cons row rest ih =>
      obtain ⟨first, others⟩ := List.forall_mem_cons.1 feedless
      rw [rowLines]
      split
      · next full =>
          rw [full]
          change _ ↔ List.Forall₂ _ [] lines
          rw [List.forall₂_nil_left_iff]
          exact ⟨fun same => (Except.ok.inj same).symm, fun same => congrArg _ same.symm⟩
      · next room =>
          rw [upTo_cons room, List.forall₂_cons_left_iff, Attempt.bind_eq_ok_iff]
          simp only [Attempt.bind_eq_ok_iff, first.lines_eq_ok_iff room]
          constructor
          · rintro ⟨_, ⟨line, rfl, taken⟩, remaining, done, same⟩
            cases same
            exact ⟨line, remaining, taken, (ih others).1 done, rfl⟩
          · rintro ⟨line, remaining, taken, paired, rfl⟩
            exact ⟨[line], ⟨line, rfl, taken⟩, remaining, (ih others).2 paired, rfl⟩

theorem exists_rowLines {allowed : Char → Prop} {rows : List Row}
    (cuttable : ∀ row ∈ rows, row.IsCuttable allowed) (space : allowed ' ')
    (inner spacing : Nat) (widths : List Nat) (limit : Option Nat) :
    ∃ lines, rowLines inner spacing widths limit rows = .ok lines ∧
      ∀ line ∈ lines, line.Fills allowed inner := by
  induction rows generalizing limit with
  | nil => exact ⟨[], rfl, List.forall_mem_nil _⟩
  | cons row rest ih =>
      obtain ⟨first, others⟩ := List.forall_mem_cons.1 cuttable
      rw [rowLines]
      split
      · exact ⟨[], rfl, List.forall_mem_nil _⟩
      · obtain ⟨lines, done, fills⟩ := first.exists_lines space inner spacing widths limit
        obtain ⟨behind, behindDone, behindFills⟩ := ih others (limit.map (· - lines.length))
        exact ⟨lines ++ behind, Attempt.bind_eq_ok_iff.2 ⟨lines, done,
          Attempt.bind_eq_ok_iff.2 ⟨behind, behindDone, rfl⟩⟩,
          List.forall_mem_append.2 ⟨fills, behindFills⟩⟩

end TrafficBoard.Grid
