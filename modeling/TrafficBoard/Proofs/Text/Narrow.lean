import TrafficBoard.Proofs.Text.Cutting

/-!
# Texts of narrow characters

Where every character takes one cell, the cells of a text are its characters.  Such a text
is displayed as it is, and it is cut after as many characters as there is room for.
-/

namespace TrafficBoard

namespace Text

/-- Whether a character takes one cell, whatever stands beside it. -/
def IsNarrowChar (c : Char) : Prop := c ≠ joiner ∧ c ≠ pictureSelector ∧ cellWidth c = 1
  deriving Decidable

/-- Whether every character of a text takes one cell, whatever stands beside it. -/
def IsNarrow (text : List Char) : Prop := ∀ c ∈ text, IsNarrowChar c

instance (text : List Char) : Decidable (IsNarrow text) := List.decidableBAll IsNarrowChar text

theorem isNarrow_append {text other : List Char} :
    IsNarrow (text ++ other) ↔ IsNarrow text ∧ IsNarrow other :=
  List.forall_mem_append

theorem isNarrow_cons {c : Char} {rest : List Char} :
    IsNarrow (c :: rest) ↔ IsNarrowChar c ∧ IsNarrow rest :=
  List.forall_mem_cons

theorem IsNarrow.isSeparate {text : List Char} (narrow : IsNarrow text) : IsSeparate text :=
  fun c member => ⟨(narrow c member).1, (narrow c member).2.1⟩

theorem IsNarrow.cells_eq {text : List Char} (narrow : IsNarrow text) :
    cells text = text.length := by
  rw [cells_of_isSeparate narrow.isSeparate]
  induction text with
  | nil => rfl
  | cons c rest ih =>
      obtain ⟨⟨-, -, one⟩, others⟩ := isNarrow_cons.1 narrow
      rw [separateCells, one, ih others, List.length_cons, Nat.add_comm]

theorem isNarrow_replicate {c : Char} (narrow : IsNarrowChar c) (count : Nat) :
    IsNarrow (List.replicate count c) := by
  intro d member
  rw [(List.mem_replicate.1 member).2]
  exact narrow

theorem IsBasic.isNarrow {text : List Char} (basic : IsBasic text) : IsNarrow text := by
  intro c member
  have char := basic c member
  refine ⟨?_, ?_, cellWidth_of_ascii char.1 char.2⟩
  · rintro rfl
    exact absurd char (by decide)
  · rintro rfl
    exact absurd char (by decide)

theorem isNarrow_blank (width : Nat) : IsNarrow (blank width) :=
  isNarrow_replicate (by decide +kernel) width

theorem IsNarrow.take {text : List Char} (narrow : IsNarrow text) (count : Nat) :
    IsNarrow (text.take count) :=
  fun c member => narrow c (List.mem_of_mem_take member)

theorem isNarrow_marker : IsNarrow marker := by decide +kernel

/-- Whether all narrow characters are allowed. -/
def AllowsNarrow (allowed : Char → Prop) : Prop := ∀ c, IsNarrowChar c → allowed c

theorem AllowsNarrow.space {allowed : Char → Prop} (allows : AllowsNarrow allowed) :
    allowed ' ' :=
  allows ' ' (by decide +kernel)

theorem allowsNarrow_all : AllowsNarrow fun _ => True := fun _ _ => trivial

theorem allowsNarrow_separate : AllowsNarrow fun c => c ≠ joiner ∧ c ≠ pictureSelector :=
  fun _ narrow => ⟨narrow.1, narrow.2.1⟩

theorem IsNarrow.isCuttable {allowed : Char → Prop} {text : List Char} (narrow : IsNarrow text)
    (allows : AllowsNarrow allowed) : IsCuttable allowed text where
  head := narrow.isSeparate.head?_ne
  mem c member := allows c (narrow c member)

/-! ## Display -/

/-- No character that does something to a line is a narrow one. -/
theorem IsNarrow.notMem {text : List Char} (narrow : IsNarrow text) {c : Char}
    (wide : cellWidth c ≠ 1) : c ∉ text :=
  fun member => wide (narrow c member).2.2

theorem isDropped_of_isNarrowChar {c : Char} (narrow : IsNarrowChar c) : isDropped c = false := by
  rw [isDropped, List.contains_eq_mem, decide_eq_false_iff_not]
  simp only [List.mem_cons, List.not_mem_nil, or_false]
  rintro (rfl | rfl | rfl | rfl | rfl) <;> exact absurd narrow.2.2 (by decide +kernel)

theorem IsNarrow.dropControls_eq {text : List Char} (narrow : IsNarrow text) :
    dropControls text = text :=
  List.filter_eq_self.2 fun c member => by
    rw [isDropped_of_isNarrowChar (narrow c member), Bool.not_false]

theorem IsNarrow.displayLines_eq {text : List Char} (narrow : IsNarrow text) :
    displayLines text = [text] := by
  have noFeed : '\n' ∉ text := narrow.notMem (by decide +kernel)
  have noTab : '\t' ∉ text := narrow.notMem (by decide +kernel)
  rw [displayLines, narrow.dropControls_eq, pieces_of_not_mem noFeed, List.map_singleton,
    expandTabs_of_not_mem noTab]

theorem IsNarrow.hasCuttableLines {allowed : Char → Prop} {text : List Char}
    (narrow : IsNarrow text) (allows : AllowsNarrow allowed) : HasCuttableLines allowed text :=
  hasCuttableLines_of_notMem (fun member => (narrow joiner member).1 rfl)
    fun c member => allows c (narrow c member)

/-! ## Cutting -/

/-- Each narrow character is a cluster of its own. -/
theorem IsNarrow.clustersAfter_eq {text : List Char} (narrow : IsNarrow text) (widens : Bool) :
    clustersAfter widens text = (⟨[], 0⟩, text.map fun c => ⟨[c], 1⟩) := by
  induction text generalizing widens with
  | nil => rfl
  | cons c rest ih =>
      obtain ⟨⟨notJoiner, notSelector, one⟩, others⟩ := isNarrow_cons.1 narrow
      rw [clustersAfter.eq_def]
      simp only [if_neg notJoiner, if_neg notSelector, one, ih others, Cluster.extend,
        List.map_cons]
      rfl

theorem IsNarrow.clusters_eq {text : List Char} (narrow : IsNarrow text) :
    clusters text = text.map fun c => ⟨[c], 1⟩ := by
  cases text with
  | nil => rfl
  | cons c rest =>
      obtain ⟨⟨-, -, one⟩, others⟩ := isNarrow_cons.1 narrow
      rw [clusters, others.clustersAfter_eq, one]
      rfl

theorem take_single_clusters (text : List Char) (width : Nat) :
    Cluster.take width (text.map fun c => ⟨[c], 1⟩) = text.take width := by
  induction text generalizing width with
  | nil => rw [List.map_nil, List.take_nil, Cluster.take]
  | cons c rest ih =>
      rw [List.map_cons, Cluster.take]
      cases width with
      | zero => rfl
      | succ width => rw [if_pos (Nat.le_add_left 1 width), Nat.add_sub_cancel, ih]; rfl

theorem IsNarrow.crop_eq {text : List Char} (narrow : IsNarrow text) (width : Nat) :
    crop width text = .ok (text.take width) := by
  rw [crop_eq_ok narrow.isSeparate.head?_ne, narrow.cells_eq, narrow.clusters_eq,
    take_single_clusters]
  split
  · next none => rw [none, List.take_zero]
  · split
    · next fits => rw [List.take_of_length_le fits]
    · rfl

/-- A text in a room of a width: cut to it or filled with spaces. -/
def inRoom (width : Nat) (text : List Char) : List Char :=
  text.take width ++ blank (width - text.length)

@[simp] theorem length_inRoom (width : Nat) (text : List Char) :
    (inRoom width text).length = width := by
  simp only [inRoom, blank, List.length_append, List.length_take, List.length_replicate]
  omega

theorem IsNarrow.inRoom {text : List Char} (narrow : IsNarrow text) (width : Nat) :
    IsNarrow (inRoom width text) :=
  isNarrow_append.2 ⟨narrow.take width, isNarrow_blank _⟩

/-- A text that fits stands whole in its room. -/
theorem inRoom_of_length_le {width : Nat} {text : List Char} (fits : text.length ≤ width) :
    Text.inRoom width text = text ++ blank (width - text.length) := by
  rw [Text.inRoom, List.take_of_length_le fits]

theorem IsNarrow.fit_eq {text : List Char} (narrow : IsNarrow text) (width : Nat) :
    fit width text = .ok (Text.inRoom width text) := by
  unfold fit
  rw [narrow.cells_eq]
  split
  · next short => rw [inRoom_of_length_le (Nat.le_of_lt short)]
  · next long =>
      rw [narrow.crop_eq, Text.inRoom, Nat.sub_eq_zero_of_le (Nat.not_lt.1 long)]
      exact congrArg _ (List.append_nil _).symm

end Text

/-! ## Lines -/

/-- A line of narrow characters can be cut. -/
theorem Line.isCuttable_of_isNarrow {allowed : Char → Prop} {line : Line}
    (narrow : Text.IsNarrow line.characters) (allows : Text.AllowsNarrow allowed) :
    line.IsCuttable allowed := by
  intro run member
  have part : Text.IsNarrow run.text :=
    fun c inside => narrow c (List.mem_flatMap.2 ⟨run, member, inside⟩)
  exact part.isCuttable allows

/-- A line that has a width is neither cut nor filled. -/
theorem Line.fit_of_cells_eq {line : Line} {width : Nat} (exactly : line.cells = width)
    (style : Style) : fit style width line = .ok line := by
  rw [fit, if_neg (Nat.not_lt.2 (Nat.le_of_eq exactly.symm)),
    crop_of_cells_le (Nat.le_of_eq exactly)]

/-- A line that fits is filled with spaces. -/
theorem Line.exists_fit_filled {line : Line} {width : Nat} (fits : line.cells ≤ width)
    (style : Style) : ∃ shown, fit style width line = .ok shown ∧ shown.cells = width ∧
      shown.characters = line.characters ++ Text.blank (width - line.cells) := by
  rcases Nat.lt_or_eq_of_le fits with short | exactly
  · refine ⟨_, if_pos short, ?_, ?_⟩
    · simp only [cells_append, cells_cons, cells_nil, Run.cells_blank]
      omega
    · simp [characters, Run.blank]
  · refine ⟨line, fit_of_cells_eq exactly style, exactly, ?_⟩
    rw [exactly, Nat.sub_self]
    exact (List.append_nil _).symm

end TrafficBoard
