import TrafficBoard.Proofs.Text.Cutting

/-!
# What a cut leaves

A cluster takes two cells at most: a wide character has two, and a picture selector gives a
narrow one its second cell.  So a cut ends between two clusters or in the middle of one, and in
the middle a space stands for the half that fits.

A text that stands behind spaces is measured as it is alone, so the cells of a text can be
counted in parts, as long as no joiner shows a space as one with what stands before it.
-/

namespace TrafficBoard.Text

/-! ## Small clusters -/

theorem cellWidth_of_isWidened {c : Char} (widened : isWidened c = true) : cellWidth c = 1 := by
  rw [isWidened, Bool.and_eq_true, beq_iff_eq] at widened
  exact widened.1

/-- What still belongs to a cluster in front takes a cell only where it widens that one. -/
theorem cells_clustersAfter_le (widens : Bool) (text : List Char) :
    (clustersAfter widens text).1.cells ≤ if widens then 1 else 0 := by
  fun_induction clustersAfter widens text with
  | case1 => exact Nat.zero_le _
  | case2 => exact Nat.zero_le _
  | case3 widens next after parts ih => simpa +zetaDelta [Cluster.extend] using ih
  | case4 widens rest parts _ ih =>
      simp only [Bool.false_eq_true, if_false] at ih
      simp +zetaDelta only [Cluster.extend]
      omega
  | case5 widens c rest _ _ _ parts ih => simpa +zetaDelta [Cluster.extend] using ih
  | case6 => exact Nat.zero_le _

/-- Whether a cluster has characters, and takes two cells at most. -/
structure Cluster.IsSmall (cluster : Cluster) : Prop where
  characters_ne_nil : cluster.characters ≠ []
  cells_le : cluster.cells ≤ 2

/-- A character and what still belongs to it are a small cluster. -/
theorem isSmall_extend (c : Char) (rest : List Char) :
    ((clustersAfter (isWidened c) rest).1.extend [c] (cellWidth c)).IsSmall where
  characters_ne_nil := List.cons_ne_nil _ _
  cells_le := by
    have behind := cells_clustersAfter_le (isWidened c) rest
    have wide := cellWidth_le_two c
    change cellWidth c + (clustersAfter (isWidened c) rest).1.cells ≤ 2
    split at behind
    · next widened =>
        have one := cellWidth_of_isWidened widened
        omega
    · omega

theorem isSmall_clustersAfter (widens : Bool) (text : List Char) :
    ∀ cluster ∈ (clustersAfter widens text).2, cluster.IsSmall := by
  fun_induction clustersAfter widens text with
  | case1 => exact List.forall_mem_nil _
  | case2 => exact List.forall_mem_nil _
  | case3 widens next after parts ih => exact ih
  | case4 widens rest parts _ ih => exact ih
  | case5 widens c rest _ _ _ parts ih => exact ih
  | case6 widens c rest _ _ _ parts ih =>
      exact List.forall_mem_cons.2 ⟨isSmall_extend c rest, ih⟩

theorem isSmall_clusters (text : List Char) : ∀ cluster ∈ clusters text, cluster.IsSmall := by
  cases text with
  | nil => exact List.forall_mem_nil _
  | cons c rest =>
      exact List.forall_mem_cons.2 ⟨isSmall_extend c rest, isSmall_clustersAfter _ rest⟩

/-! ## Cropped texts -/

/-- What a cut to a width leaves of a text: all of it where it fits; clusters that take the
width exactly; or clusters that leave one cell, and a space for the first half of the next
one. -/
inductive IsCropped (width : Nat) (text : List Char) : List Char → Prop where
  | whole : cells text ≤ width → IsCropped width text text
  | between {front back : List Cluster} :
      clusters text = front ++ back → Cluster.total front = width →
      IsCropped width text (front.flatMap Cluster.characters)
  | half {front back : List Cluster} {divided : Cluster} :
      clusters text = front ++ divided :: back → divided.cells = 2 →
      Cluster.total front + 1 = width →
      IsCropped width text (front.flatMap Cluster.characters ++ [' '])

/-- Small clusters that are wider than a cut end with it, or one of them is divided. -/
theorem take_clusters_cases {parts : List Cluster} (small : ∀ cluster ∈ parts, cluster.IsSmall)
    {width : Nat} (wide : width < Cluster.total parts) :
    (∃ front back, parts = front ++ back ∧ Cluster.total front = width ∧
      Cluster.take width parts = front.flatMap Cluster.characters) ∨
    ∃ front divided back, parts = front ++ divided :: back ∧ divided.cells = 2 ∧
      Cluster.total front + 1 = width ∧
      Cluster.take width parts = front.flatMap Cluster.characters ++ [' '] := by
  induction parts generalizing width with
  | nil => exact absurd wide (Nat.not_lt_zero width)
  | cons cluster rest ih =>
      obtain ⟨first, others⟩ := List.forall_mem_cons.1 small
      have limit := first.cells_le
      rw [Cluster.total] at wide
      rw [Cluster.take]
      split
      · next fits =>
          have more : width - cluster.cells < Cluster.total rest := by omega
          rcases ih others more with ⟨front, back, rfl, sum, taken⟩ |
            ⟨front, divided, back, rfl, two, sum, taken⟩
          · refine .inl ⟨cluster :: front, back, rfl, ?_, ?_⟩
            · rw [Cluster.total]
              omega
            · rw [taken, List.flatMap_cons]
          · refine .inr ⟨cluster :: front, divided, back, rfl, two, ?_, ?_⟩
            · rw [Cluster.total]
              omega
            · rw [taken, List.flatMap_cons, List.append_assoc]
      · rcases (by omega : width = 0 ∨ (width = 1 ∧ cluster.cells = 2)) with rfl | ⟨rfl, two⟩
        · exact .inl ⟨[], cluster :: rest, rfl, rfl, rfl⟩
        · exact .inr ⟨[], cluster, rest, rfl, two, rfl, rfl⟩

/-- A text that starts with no joiner is cropped to a width. -/
theorem exists_isCropped {text : List Char} (first : text.head? ≠ some joiner) (width : Nat) :
    ∃ shown, crop width text = .ok shown ∧ IsCropped width text shown := by
  refine ⟨_, crop_eq_ok first width, ?_⟩
  by_cases none : width = 0
  · rw [if_pos none]
    exact .between (List.nil_append (clusters text)).symm none.symm
  · rw [if_neg none]
    split
    · next fits => exact .whole fits
    · next long =>
        have wide : width < Cluster.total (clusters text) := by
          rw [total_clusters first]
          omega
        rcases take_clusters_cases (isSmall_clusters text) wide with
          ⟨front, back, parts, sum, taken⟩ | ⟨front, divided, back, parts, two, sum, taken⟩
        · rw [taken]
          exact .between parts sum
        · rw [taken]
          exact .half parts two sum

/-- A cropped text is a start of the text, with no more spaces behind it than there are
characters left out. -/
theorem IsCropped.exists_front {width : Nat} {text shown : List Char}
    (cropped : IsCropped width text shown) :
    ∃ front back filling, text = front ++ back ∧ shown = front ++ blank filling ∧
      filling ≤ back.length := by
  cases cropped with
  | whole _ => exact ⟨text, [], 0, (List.append_nil text).symm, (List.append_nil text).symm,
      Nat.zero_le _⟩
  | @between front back parts _ =>
      refine ⟨_, back.flatMap Cluster.characters, 0, ?_, (List.append_nil _).symm, Nat.zero_le _⟩
      rw [← List.flatMap_append, ← parts, characters_clusters]
  | @half front back divided parts _ _ =>
      have small := isSmall_clusters text divided
        (parts ▸ List.mem_append_right front List.mem_cons_self)
      refine ⟨_, (divided :: back).flatMap Cluster.characters, 1, ?_, rfl, ?_⟩
      · rw [← List.flatMap_append, ← parts, characters_clusters]
      · rw [List.flatMap_cons, List.length_append]
        exact Nat.le_trans (List.length_pos_iff.2 small.characters_ne_nil)
          (Nat.le_add_right _ _)

/-! ## Cells in parts -/

/-- Whether a text takes the same cells whatever stands before it, joiners apart. -/
def StandsAlone (text : List Char) : Prop := ∀ widens, cellsAfter widens text = cells text

theorem standsAlone_blank (width : Nat) : StandsAlone (blank width) := by
  intro widens
  rw [cellsAfter_blank, cells_blank]

theorem cellsAfter_space (widens : Bool) (rest : List Char) :
    cellsAfter widens (' ' :: rest) = 1 + cells rest := by
  have plain : isWidened ' ' = false := by decide +kernel
  rw [cellsAfter_cons (by decide) (by decide), cellWidth_space, plain, if_neg (by decide)]
  rfl

theorem cells_space (rest : List Char) : cells (' ' :: rest) = 1 + cells rest :=
  cellsAfter_space false rest

/-- A space sets a text apart from what stands before it. -/
theorem standsAlone_space (rest : List Char) : StandsAlone (' ' :: rest) := by
  intro widens
  rw [cellsAfter_space, cells_space]

/-- Without joiners, a text and one that stands alone behind it take their own cells. -/
theorem StandsAlone.cells_append {text other : List Char} (alone : StandsAlone other)
    (absent : joiner ∉ text) : cells (text ++ other) = cells text + cells other := by
  have behind : ∀ widens, cellsAfter widens (text ++ other) =
      cellsAfter widens text + cells other := by
    induction text with
    | nil =>
        intro widens
        rw [List.nil_append, alone widens, cellsAfter, Nat.zero_add]
    | cons c rest ih =>
        rw [List.mem_cons, not_or] at absent
        have others := ih absent.2
        intro widens
        by_cases selector : c = pictureSelector
        · rw [selector, List.cons_append, cellsAfter_selector, cellsAfter_selector, others,
            Nat.add_assoc]
        · rw [List.cons_append, cellsAfter_cons (Ne.symm absent.1) selector,
            cellsAfter_cons (Ne.symm absent.1) selector]
          split
          · exact others widens
          · rw [others, Nat.add_assoc]
  exact behind false

end TrafficBoard.Text
