import TrafficBoard.Proofs.Attempts
import TrafficBoard.Proofs.Text.BasicLatin
import TrafficBoard.Proofs.Text.Shortening
import TrafficBoard.Text.Line

/-!
# Cutting what starts with no joiner

A text that starts with no joiner can be cut to any width, with joiners further inside
too, and what is left is as wide as it is cut to.  It starts with no joiner either, so it can
be cut again.  It consists of characters of the text and spaces.

A text is displayed in lines, so what matters is that none of them starts with a joiner.
Shortening a text keeps this.
-/

namespace TrafficBoard

namespace Text

/-- Whether a text starts with no joiner and consists of allowed characters. -/
structure IsCuttable (allowed : Char → Prop) (text : List Char) : Prop where
  head : text.head? ≠ some joiner
  mem : ∀ c ∈ text, allowed c

theorem cellsAfter_blank (widens : Bool) (width : Nat) :
    cellsAfter widens (blank width) = width := by
  rw [cellsAfter_of_isSeparate (isSeparate_blank width), separateCells_blank]

/-- What is left of the clusters behind a cluster is as wide as they are cut to. -/
theorem cellsAfter_take (widens : Bool) (text : List Char) (width : Nat) :
    cellsAfter widens ((clustersAfter widens text).1.characters ++
        Cluster.take width (clustersAfter widens text).2) =
      (clustersAfter widens text).1.cells +
        min width (Cluster.total (clustersAfter widens text).2) := by
  fun_induction clustersAfter widens text generalizing width with
  | case1 => simp [Cluster.take, Cluster.total, cellsAfter]
  | case2 => simp [Cluster.take, Cluster.total, cellsAfter]
  | case3 widens next after parts ih => simpa +zetaDelta [cellsAfter, Cluster.extend] using ih width
  | case4 widens rest parts _ ih =>
      have others := ih width
      simp +zetaDelta only [Cluster.extend, List.cons_append, List.nil_append, cellsAfter_selector]
      omega
  | case5 widens c rest notJoiner notSelector zero parts ih =>
      simp +zetaDelta only [Cluster.extend, List.cons_append, List.nil_append,
        cellsAfter_cons notJoiner notSelector, if_pos zero, Nat.zero_add]
      exact ih width
  | case6 widens c rest notJoiner notSelector zero parts ih =>
      rw [List.nil_append, Nat.zero_add, Cluster.take, Cluster.total]
      split
      · next fits =>
          have others := ih (width - (parts.1.extend [c] (cellWidth c)).cells)
          simp +zetaDelta only [Cluster.extend, List.cons_append, List.nil_append,
            cellsAfter_cons notJoiner notSelector, if_neg zero] at others fits ⊢
          omega
      · rw [cellsAfter_blank]
        omega

theorem cells_take_clusters {text : List Char} (first : text.head? ≠ some joiner)
    (width : Nat) : cells (Cluster.take width (clusters text)) = min width (cells text) := by
  cases text with
  | nil => exact (Nat.min_zero width).symm
  | cons c rest =>
      have notJoiner : c ≠ joiner := by simpa using first
      rw [← total_clusters first]
      simp only [clusters, Cluster.take, Cluster.extend, Cluster.total]
      split
      · next fits =>
          have others := cellsAfter_take (isWidened c) rest
            (width - (cellWidth c + (clustersAfter (isWidened c) rest).1.cells))
          simp only [List.cons_append, List.nil_append, cells_cons notJoiner]
          omega
      · rw [cells_blank]
        omega

theorem head?_blank (width : Nat) : (blank width).head? ≠ some joiner :=
  (isSeparate_blank width).head?_ne

theorem head?_take_clusters {text : List Char} (first : text.head? ≠ some joiner)
    (width : Nat) : (Cluster.take width (clusters text)).head? ≠ some joiner := by
  cases text with
  | nil => exact first
  | cons c rest =>
      simp only [clusters, Cluster.take, Cluster.extend]
      split
      · exact first
      · exact head?_blank width

/-- Clusters that are cut leave their characters and spaces. -/
theorem mem_take_clusters {c : Char} {clusters : List Cluster} {width : Nat}
    (member : c ∈ Cluster.take width clusters) :
    c ∈ clusters.flatMap Cluster.characters ∨ c = ' ' := by
  induction clusters generalizing width with
  | nil => cases member
  | cons cluster rest ih =>
      rw [List.flatMap_cons, List.mem_append]
      unfold Cluster.take at member
      split at member
      · rcases List.mem_append.1 member with front | back
        · exact .inl (.inl front)
        · exact (ih back).imp_left .inr
      · exact .inr (List.mem_replicate.1 member).2

section Cuttable

variable {allowed : Char → Prop} {text : List Char}

theorem isCuttable_blank (space : allowed ' ') (width : Nat) :
    IsCuttable allowed (blank width) where
  head := head?_blank width
  mem _ member := (List.mem_replicate.1 member).2 ▸ space

theorem IsCuttable.append_blank (cuttable : IsCuttable allowed text) (space : allowed ' ')
    (width : Nat) : IsCuttable allowed (text ++ blank width) where
  head := by
    cases text with
    | nil => exact head?_blank width
    | cons c rest => exact cuttable.head
  mem := List.forall_mem_append.2 ⟨cuttable.mem, (isCuttable_blank space width).mem⟩

/-- A text that starts with no joiner can be cut, and what is left can be cut again. -/
theorem IsCuttable.exists_crop (cuttable : IsCuttable allowed text) (space : allowed ' ')
    (width : Nat) :
    ∃ shown, crop width text = .ok shown ∧ IsCuttable allowed shown ∧
      cells shown = min width (cells text) := by
  refine ⟨_, crop_eq_ok cuttable.head width, ?_⟩
  split
  · next none => exact ⟨isCuttable_blank space 0, none ▸ (Nat.zero_min _).symm⟩
  · split
    · next fits => exact ⟨cuttable, (Nat.min_eq_right fits).symm⟩
    · refine ⟨⟨head?_take_clusters cuttable.head width, fun c member => ?_⟩,
        cells_take_clusters cuttable.head width⟩
      rcases mem_take_clusters member with inside | rfl
      · exact cuttable.mem c (characters_clusters text ▸ inside)
      · exact space

theorem IsCuttable.exists_fit (cuttable : IsCuttable allowed text) (space : allowed ' ')
    (width : Nat) : ∃ shown, fit width text = .ok shown ∧ IsCuttable allowed shown := by
  unfold fit
  split
  · exact ⟨_, rfl, cuttable.append_blank space _⟩
  · obtain ⟨shown, done, kept, -⟩ := cuttable.exists_crop space width
    exact ⟨shown, done, kept⟩

end Cuttable

end Text

/-! ## Runs and lines -/

/-- Whether the text of a run can be cut. -/
def Run.IsCuttable (allowed : Char → Prop) (run : Run) : Prop := Text.IsCuttable allowed run.text

/-- Whether every run of a line can be cut. -/
def Line.IsCuttable (allowed : Char → Prop) (line : Line) : Prop :=
  ∀ run ∈ line, run.IsCuttable allowed

/-- Whether a line can be cut and takes exactly a width. -/
structure Line.Fills (allowed : Char → Prop) (width : Nat) (line : Line) : Prop where
  cuttable : line.IsCuttable allowed
  cells_eq : line.cells = width

section Cuttable

variable {allowed : Char → Prop}

theorem Run.isCuttable_blank (space : allowed ' ') (style : Style) (width : Nat) :
    (blank style width).IsCuttable allowed :=
  Text.isCuttable_blank space width

theorem Run.IsCuttable.exists_crop {run : Run} (cuttable : run.IsCuttable allowed)
    (space : allowed ' ') (width : Nat) :
    ∃ shown : Run, run.crop width = .ok shown ∧ shown.IsCuttable allowed ∧
      shown.cells = min width run.cells := by
  obtain ⟨shown, done, kept, measured⟩ := Text.IsCuttable.exists_crop cuttable space width
  exact ⟨⟨shown, run.style⟩, Attempt.map_eq_ok_iff.2 ⟨shown, done, rfl⟩, kept, measured⟩

namespace Line

theorem isCuttable_nil : IsCuttable allowed [] := List.forall_mem_nil _

theorem isCuttable_append {line other : Line} :
    IsCuttable allowed (line ++ other) ↔ line.IsCuttable allowed ∧ other.IsCuttable allowed :=
  List.forall_mem_append

theorem isCuttable_singleton {run : Run} : IsCuttable allowed [run] ↔ run.IsCuttable allowed :=
  List.forall_mem_singleton

theorem isCuttable_blank (space : allowed ' ') (style : Style) (width : Nat) :
    IsCuttable allowed [.blank style width] :=
  isCuttable_singleton.2 (Run.isCuttable_blank space style width)

theorem fills_blank (space : allowed ' ') (style : Style) (width : Nat) :
    Fills allowed width [.blank style width] :=
  ⟨isCuttable_blank space style width, Run.cells_blank style width⟩

theorem crop_of_cells_le {line : Line} {width : Nat} (fits : cells line ≤ width) :
    crop width line = .ok line := by
  rw [crop, if_pos fits]

variable {line : Line}

theorem IsCuttable.exists_cut (cuttable : line.IsCuttable allowed) (space : allowed ' ')
    (width : Nat) :
    ∃ shown : Line, cut width line = .ok shown ∧ shown.IsCuttable allowed ∧
      shown.cells = min width line.cells := by
  induction line generalizing width with
  | nil => exact ⟨[], rfl, cuttable, (Nat.min_zero width).symm⟩
  | cons run rest ih =>
      obtain ⟨first, others⟩ := List.forall_mem_cons.1 cuttable
      unfold cut
      split
      · next room =>
          obtain ⟨shown, done, kept, measured⟩ := ih others (width - run.cells)
          refine ⟨run :: shown, Attempt.map_eq_ok_iff.2 ⟨shown, done, rfl⟩,
            List.forall_mem_cons.2 ⟨first, kept⟩, ?_⟩
          rw [cells_cons, cells_cons]
          omega
      · obtain ⟨last, done, kept, measured⟩ := first.exists_crop space width
        refine ⟨[last], Attempt.map_eq_ok_iff.2 ⟨last, done, rfl⟩, isCuttable_singleton.2 kept, ?_⟩
        rw [cells_cons, cells_cons, cells_nil]
        omega

/-- A line that can be cut takes exactly the width that it is cut or filled to. -/
theorem IsCuttable.exists_fit (cuttable : line.IsCuttable allowed) (space : allowed ' ')
    (style : Style) (width : Nat) :
    ∃ shown : Line, fit style width line = .ok shown ∧ shown.Fills allowed width := by
  unfold fit
  split
  · refine ⟨_, rfl, isCuttable_append.2 ⟨cuttable, isCuttable_blank space _ _⟩, ?_⟩
    simp only [cells_append, cells_cons, cells_nil, Run.cells_blank]
    omega
  · unfold crop
    split
    · exact ⟨line, rfl, cuttable, by omega⟩
    · obtain ⟨shown, done, kept, measured⟩ := cuttable.exists_cut space width
      exact ⟨shown, done, kept, by omega⟩

end Line

end Cuttable

/-! ## Texts on display -/

namespace Text

/-- A tab in front becomes spaces; anything else in front stays. -/
theorem head?_expandTabs {text : List Char} :
    (expandTabs text).head? = some joiner ↔ text.head? = some joiner := by
  have space : some ' ' ≠ some joiner := by decide
  cases text with
  | nil => exact Iff.rfl
  | cons c rest =>
      unfold expandTabs tabbedParts pieces
      split
      · next tab =>
          have notJoiner : c ≠ joiner := by
            rw [tab]
            decide
          cases divided : pieces '\t' rest with
          | nil => exact absurd divided (pieces_ne_nil '\t' rest)
          | cons piece others =>
              rw [List.head?_cons, Option.some_inj]
              exact ⟨fun same => absurd same space, fun same => absurd same notJoiner⟩
      · cases divided : pieces '\t' rest with
        | nil => exact Iff.rfl
        | cons piece others =>
            cases others with
            | nil => exact Iff.rfl
            | cons second more => exact Iff.rfl

theorem mem_of_mem_pieces {c separator : Char} {text piece : List Char}
    (member : piece ∈ pieces separator text) (inside : c ∈ piece) : c ∈ text := by
  induction text generalizing piece with
  | nil =>
      rw [List.mem_singleton.1 member] at inside
      exact inside
  | cons first rest ih =>
      unfold pieces at member
      split at member
      · rcases List.mem_cons.1 member with rfl | later
        · cases inside
        · exact List.mem_cons_of_mem _ (ih later inside)
      · split at member
        · next head others divided =>
            rcases List.mem_cons.1 member with rfl | later
            · rcases List.mem_cons.1 inside with rfl | inside
              · exact List.mem_cons_self
              · exact List.mem_cons_of_mem _ (ih (divided ▸ List.mem_cons_self) inside)
            · exact List.mem_cons_of_mem _
                (ih (divided ▸ List.mem_cons_of_mem _ later) inside)
        · rw [List.mem_singleton.1 member] at inside
          exact List.mem_cons.2 (.inl (List.mem_singleton.1 inside))

/-- Tab stops add nothing but spaces. -/
theorem mem_toTabStops {c : Char} {parts : List (List Char)}
    (member : c ∈ (toTabStops parts).flatten) : (∃ part ∈ parts, c ∈ part) ∨ c = ' ' := by
  fun_induction toTabStops parts with
  | case1 => cases member
  | case2 last empty => cases member
  | case3 last some =>
      rw [List.flatten_singleton] at member
      exact .inl ⟨last, List.mem_singleton_self last, member⟩
  | case4 part rest _ ih =>
      rw [List.flatten_cons, toTabStop] at member
      rcases List.mem_append.1 member with front | back
      · rcases List.mem_append.1 front with spaced | filling
        · rcases List.mem_append.1 spaced with inside | space
          · exact .inl ⟨part, List.mem_cons_self, inside⟩
          · exact .inr (List.mem_singleton.1 space)
        · exact .inr (List.mem_replicate.1 filling).2
      · exact (ih back).imp_left fun ⟨other, otherMember, inside⟩ =>
          ⟨other, List.mem_cons_of_mem _ otherMember, inside⟩

theorem mem_expandTabs {c : Char} {text : List Char} (member : c ∈ expandTabs text) :
    c ∈ text ∨ c = ' ' :=
  (mem_toTabStops member).imp_left fun ⟨_, part, inside⟩ => mem_of_mem_pieces part inside

/-- Whether no line in which a text is displayed starts with a joiner, and the text consists
of allowed characters. -/
structure HasCuttableLines (allowed : Char → Prop) (text : List Char) : Prop where
  lines : ∀ line ∈ displayLines text, line.head? ≠ some joiner
  mem : ∀ c ∈ text, allowed c

theorem HasCuttableLines.displayLines {allowed : Char → Prop} {text : List Char}
    (cuttable : HasCuttableLines allowed text) (space : allowed ' ') :
    ∀ line ∈ displayLines text, IsCuttable allowed line := by
  intro line member
  refine ⟨cuttable.lines line member, fun c inside => ?_⟩
  obtain ⟨piece, pieceMember, rfl⟩ := List.mem_map.1 member
  rcases mem_expandTabs inside with kept | rfl
  · exact cuttable.mem c (List.mem_filter.1 (mem_of_mem_pieces pieceMember kept)).1
  · exact space

/-! ### Starts of lines -/

/-- Whether no line of a text starts with a joiner, where the text itself may stand at the
start of a line or not. -/
def StartsLines (atStart : Prop) : List Char → Prop
  | [] => True
  | c :: rest => (atStart → c ≠ joiner) ∧ StartsLines (c = '\n') rest

theorem StartsLines.imp {atStart other : Prop} (weaker : other → atStart) {text : List Char}
    (starts : StartsLines atStart text) : StartsLines other text := by
  cases text with
  | nil => trivial
  | cons c rest => exact ⟨fun given => starts.1 (weaker given), starts.2⟩

theorem startsLines_iff {atStart : Prop} {text first : List Char} {others : List (List Char)}
    (divided : pieces '\n' text = first :: others) :
    StartsLines atStart text ↔
      (atStart → first.head? ≠ some joiner) ∧ ∀ line ∈ others, line.head? ≠ some joiner := by
  induction text generalizing atStart first others with
  | nil =>
      obtain ⟨rfl, rfl⟩ := List.cons.inj divided
      simp [StartsLines]
  | cons c rest ih =>
      cases behind : pieces '\n' rest with
      | nil => exact absurd behind (pieces_ne_nil _ _)
      | cons next more =>
          rw [pieces, behind] at divided
          rw [StartsLines, ih behind]
          by_cases feed : c = '\n'
          · rw [if_pos feed] at divided
            obtain ⟨rfl, rfl⟩ := List.cons.inj divided
            have notJoiner : '\n' ≠ joiner := by decide
            simp [feed, notJoiner]
          · rw [if_neg feed] at divided
            obtain ⟨rfl, rfl⟩ := List.cons.inj divided
            simp [feed]

/-- The lines of a text are its pieces. -/
theorem forall_displayLines_iff {text : List Char} :
    (∀ line ∈ displayLines text, line.head? ≠ some joiner) ↔
      StartsLines True (dropControls text) := by
  rw [displayLines, List.forall_mem_map]
  simp only [ne_eq, head?_expandTabs]
  cases divided : pieces '\n' (dropControls text) with
  | nil => exact absurd divided (pieces_ne_nil _ _)
  | cons first others => rw [startsLines_iff divided, List.forall_mem_cons, true_imp_iff]

theorem StartsLines.append {atStart : Prop} {text other : List Char}
    (front : StartsLines atStart text) (back : StartsLines True other) :
    StartsLines atStart (text ++ other) := by
  induction text generalizing atStart with
  | nil => exact back.imp fun _ => trivial
  | cons c rest ih => exact ⟨front.1, ih front.2⟩

theorem StartsLines.left {atStart : Prop} {text other : List Char}
    (starts : StartsLines atStart (text ++ other)) : StartsLines atStart text := by
  induction text generalizing atStart with
  | nil => trivial
  | cons c rest ih => exact ⟨starts.1, ih starts.2⟩

theorem StartsLines.right {atStart : Prop} {text other : List Char}
    (starts : StartsLines atStart (text ++ other)) : StartsLines False other := by
  induction text generalizing atStart with
  | nil => exact starts.imp False.elim
  | cons c rest ih => exact ih starts.2

theorem startsLines_of_notMem {text : List Char} (absent : joiner ∉ text) (atStart : Prop) :
    StartsLines atStart text := by
  induction text generalizing atStart with
  | nil => trivial
  | cons c rest ih =>
      rw [List.mem_cons, not_or] at absent
      obtain ⟨first, others⟩ := absent
      exact ⟨fun _ => Ne.symm first, ih others _⟩

section Lines

variable {allowed : Char → Prop} {text : List Char}

theorem hasCuttableLines_iff :
    HasCuttableLines allowed text ↔
      StartsLines True (dropControls text) ∧ ∀ c ∈ text, allowed c := by
  rw [← forall_displayLines_iff]
  exact ⟨fun cuttable => ⟨cuttable.lines, cuttable.mem⟩, fun ⟨lines, mem⟩ => ⟨lines, mem⟩⟩

/-- A text without joiners has no line that starts with one. -/
theorem hasCuttableLines_of_notMem (absent : joiner ∉ text) (mem : ∀ c ∈ text, allowed c) :
    HasCuttableLines allowed text :=
  hasCuttableLines_iff.2
    ⟨startsLines_of_notMem (fun member => absent (List.mem_filter.1 member).1) True, mem⟩

/-- A text of one line that starts with no joiner. -/
theorem hasCuttableLines_of_startsWithoutJoiner (absent : '\n' ∉ text)
    (starts : StartsWithoutJoiner text) (mem : ∀ c ∈ text, allowed c) :
    HasCuttableLines allowed text := by
  have none : '\n' ∉ dropControls text := fun member => absent (List.mem_filter.1 member).1
  refine ⟨?_, mem⟩
  rw [displayLines, pieces_of_not_mem none, List.map_singleton]
  exact List.forall_mem_singleton.2 fun joined => starts (head?_expandTabs.1 joined)

end Lines

/-! ## Shortened texts -/

theorem HasCuttableLines.shorten {allowed : Char → Prop} {text : String}
    (cuttable : HasCuttableLines allowed text.toList) (marked : ∀ c ∈ marker, allowed c)
    (width : Int) : HasCuttableLines allowed (shorten text width).toList := by
  obtain ⟨starts, kept⟩ := hasCuttableLines_iff.1 cuttable
  refine hasCuttableLines_iff.2
    ⟨?_, fun c member => (mem_shorten member).elim (kept c) (marked c)⟩
  have front : ∀ count, StartsLines True (dropControls (text.toList.take count)) := by
    intro count
    rw [← List.take_append_drop count text.toList, dropControls, List.filter_append] at starts
    exact starts.left
  rw [TrafficBoard.shorten, String.toList_ofList]
  unfold shortenChars
  split
  · exact starts
  · split
    · exact front _
    · -- The second end does not start a line, because the marker stands before it.
      rw [← List.take_append_drop (text.toList.length - keptAt width) text.toList, dropControls,
        List.filter_append] at starts
      have back : StartsLines True (marker ++ dropControls
          (text.toList.drop (text.toList.length - keptAt width))) :=
        ⟨fun _ => by decide, fun _ => by decide, fun _ => by decide, fun _ => by decide,
          starts.right.imp (by decide)⟩
      rw [List.append_assoc, dropControls, List.filter_append, List.filter_append]
      exact (front _).append back

end Text

end TrafficBoard
