import TrafficBoard.Text.CellWidth

/-!
# Text in terminal cells

A text is cut and filled by the cells that it takes. Characters that are shown
together form a cluster: a character that takes cells, and those behind it that
take none, that a joiner shows as one with it, or that select its picture. A cut
never divides a cluster. Where only the first cell of a cluster fits, a space
stands for it.

The clusters of a text take its cells unless it starts with a joiner. Where they
take fewer cells than the cut is to leave, there is no place to cut.

A text without joiners and picture selectors takes the cells of its characters,
and cut or filled to a width it takes exactly that width.
-/

namespace TrafficBoard.Text

/-- The cells of a text behind another one, and `widens` says whether a picture
selector would widen the last character there that took cells. The character after
a joiner takes none. -/
def cellsAfter (widens : Bool) : List Char → Nat
  | [] => 0
  | c :: rest =>
      if c = joiner then
        match rest with
        | [] => 0
        | _ :: after => cellsAfter widens after
      else if c = pictureSelector then (if widens then 1 else 0) + cellsAfter false rest
      else if cellWidth c = 0 then cellsAfter widens rest
      else cellWidth c + cellsAfter (isWidened c) rest

/-- The number of cells that a text takes. -/
def cells (text : List Char) : Nat := cellsAfter false text

/-- As many spaces as cells are asked for. -/
def blank (width : Nat) : List Char := List.replicate width ' '

/-! ## Clusters -/

/-- Characters that are shown together, and the cells that they take. -/
structure Cluster where
  characters : List Char
  cells : Nat
  deriving DecidableEq, Repr

namespace Cluster

/-- A cluster with more characters, which take more cells, in front. -/
def extend (cluster : Cluster) (characters : List Char) (cells : Nat) : Cluster :=
  ⟨characters ++ cluster.characters, cells + cluster.cells⟩

/-- The cells that several clusters take. -/
def total : List Cluster → Nat
  | [] => 0
  | cluster :: rest => cluster.cells + total rest

/-- The characters of the clusters that fit into a width. A space stands for a cluster
of which only the first cell fits. -/
def take (width : Nat) : List Cluster → List Char
  | [] => []
  | cluster :: rest =>
      if cluster.cells ≤ width then cluster.characters ++ take (width - cluster.cells) rest
      else blank width

end Cluster

/-- The clusters of a text behind a cluster: what still belongs to that one, and the
others. `widens` is as for the cells of a text behind another one. -/
def clustersAfter (widens : Bool) : List Char → Cluster × List Cluster
  | [] => (⟨[], 0⟩, [])
  | c :: rest =>
      if c = joiner then
        match rest with
        | [] => (⟨[c], 0⟩, [])
        | next :: after =>
            let parts := clustersAfter widens after
            (parts.1.extend [c, next] 0, parts.2)
      else if c = pictureSelector then
        let parts := clustersAfter false rest
        (parts.1.extend [c] (if widens then 1 else 0), parts.2)
      else if cellWidth c = 0 then
        let parts := clustersAfter widens rest
        (parts.1.extend [c] 0, parts.2)
      else
        let parts := clustersAfter (isWidened c) rest
        (⟨[], 0⟩, parts.1.extend [c] (cellWidth c) :: parts.2)

/-- The clusters of a text. The first character starts one even if it takes no cells. -/
def clusters : List Char → List Cluster
  | [] => []
  | c :: rest =>
      let parts := clustersAfter (isWidened c) rest
      parts.1.extend [c] (cellWidth c) :: parts.2

/-! ## Cutting and filling -/

/-- Why there is no place to cut a text: its clusters take no cells, or fewer than the
cut is to leave. -/
inductive CutError where
  | noCells
  | tooFewCells
  deriving DecidableEq, Repr

/-- What the error says. -/
def CutError.message : CutError → String
  | .noCells => "division by zero"
  | .tooFewCells => "list index out of range"

/-- A text cut to a number of cells. -/
def crop (width : Nat) (text : List Char) : Except CutError (List Char) :=
  if width = 0 then .ok []
  else if cells text ≤ width then .ok text
  else
    let parts := clusters text
    if Cluster.total parts = 0 then .error .noCells
    else if Cluster.total parts < width then .error .tooFewCells
    else .ok (Cluster.take width parts)

/-- A text cut or filled with spaces to a number of cells. -/
def fit (width : Nat) (text : List Char) : Except CutError (List Char) :=
  if cells text < width then .ok (text ++ blank (width - cells text)) else crop width text

@[simp] theorem cells_nil : cells [] = 0 := rfl

theorem cellWidth_pictureSelector : cellWidth pictureSelector = 0 := by decide

theorem cellWidth_space : cellWidth ' ' = 1 := cellWidth_of_ascii (by decide) (by decide)

/-- No character is lost between the clusters. -/
theorem characters_clustersAfter (widens : Bool) (text : List Char) :
    (clustersAfter widens text).1.characters ++
      (clustersAfter widens text).2.flatMap Cluster.characters = text := by
  fun_induction clustersAfter widens text <;> simp_all +zetaDelta [Cluster.extend]

/-- No character is lost between the clusters. -/
theorem characters_clusters (text : List Char) :
    (clusters text).flatMap Cluster.characters = text := by
  cases text with
  | nil => rfl
  | cons c rest =>
      have kept := characters_clustersAfter (isWidened c) rest
      simpa [clusters, Cluster.extend] using kept

theorem cellsAfter_selector (widens : Bool) (rest : List Char) :
    cellsAfter widens (pictureSelector :: rest) =
      (if widens then 1 else 0) + cellsAfter false rest := by
  have distinct : pictureSelector ≠ joiner := by decide
  rw [cellsAfter.eq_def]
  simp [distinct]

theorem cellsAfter_cons {c : Char} (notJoiner : c ≠ joiner) (notSelector : c ≠ pictureSelector)
    (widens : Bool) (rest : List Char) :
    cellsAfter widens (c :: rest) =
      if cellWidth c = 0 then cellsAfter widens rest
      else cellWidth c + cellsAfter (isWidened c) rest := by
  rw [cellsAfter.eq_def]
  simp [notJoiner, notSelector]

/-- The clusters of a text take the cells of the text. -/
theorem total_clustersAfter (widens : Bool) (text : List Char) :
    (clustersAfter widens text).1.cells + Cluster.total (clustersAfter widens text).2 =
      cellsAfter widens text := by
  fun_induction clustersAfter widens text with
  | case1 => rfl
  | case2 => simp [cellsAfter, Cluster.total]
  | case3 widens next after parts ih => simp +zetaDelta [cellsAfter, Cluster.extend, ih]
  | case4 widens rest parts _ ih =>
      rw [cellsAfter_selector, ← ih]
      simp +zetaDelta [Cluster.extend, Nat.add_assoc]
  | case5 widens c rest notJoiner notSelector zero parts ih =>
      rw [cellsAfter_cons notJoiner notSelector, ← ih]
      simp +zetaDelta [Cluster.extend, zero]
  | case6 widens c rest notJoiner notSelector zero parts ih =>
      rw [cellsAfter_cons notJoiner notSelector, ← ih]
      simp +zetaDelta [Cluster.extend, Cluster.total, zero, Nat.add_assoc]

theorem cells_cons {c : Char} (notJoiner : c ≠ joiner) (rest : List Char) :
    cells (c :: rest) = cellWidth c + cellsAfter (isWidened c) rest := by
  by_cases selector : c = pictureSelector
  · subst selector
    have narrow : isWidened pictureSelector = false := by decide
    rw [cells, cellsAfter_selector, cellWidth_pictureSelector, narrow]
    simp
  · rw [cells, cellsAfter_cons notJoiner selector]
    by_cases zero : cellWidth c = 0
    · simp [isWidened, zero]
    · simp [zero]

/-- The clusters of a text that starts with no joiner take the cells of the text. -/
theorem total_clusters {text : List Char} (first : text.head? ≠ some joiner) :
    Cluster.total (clusters text) = cells text := by
  cases text with
  | nil => rfl
  | cons c rest =>
      have notJoiner : c ≠ joiner := by simpa using first
      rw [cells_cons notJoiner]
      simp only [clusters, Cluster.total, Cluster.extend, Nat.add_assoc, total_clustersAfter]

/-- A text that starts with no joiner can be cut. What is left are its clusters as far
as they fit, or all of it. -/
theorem crop_eq_ok {text : List Char} (first : text.head? ≠ some joiner) (width : Nat) :
    crop width text = .ok
      (if width = 0 then [] else if cells text ≤ width then text
        else Cluster.take width (clusters text)) := by
  unfold crop
  split
  · rfl
  · split
    · rfl
    · have noneMissing : Cluster.total (clusters text) ≠ 0 := by
        rw [total_clusters first]
        omega
      have enough : ¬ Cluster.total (clusters text) < width := by
        rw [total_clusters first]
        omega
      simp [noneMissing, enough]

/-! ## Texts without joiners and picture selectors -/

/-- Whether every character takes its own cells, whatever stands beside it. -/
def IsSeparate (text : List Char) : Prop := ∀ c ∈ text, c ≠ joiner ∧ c ≠ pictureSelector

instance (text : List Char) : Decidable (IsSeparate text) :=
  inferInstanceAs (Decidable (∀ c ∈ text, c ≠ joiner ∧ c ≠ pictureSelector))

/-- The cells of the characters, one by one. -/
def separateCells : List Char → Nat
  | [] => 0
  | c :: rest => cellWidth c + separateCells rest

theorem cellsAfter_of_isSeparate {text : List Char} (separate : IsSeparate text)
    (widens : Bool) : cellsAfter widens text = separateCells text := by
  induction text generalizing widens with
  | nil => rfl
  | cons c rest ih =>
      have first := separate c (by simp)
      have others : IsSeparate rest := fun d member => separate d (by simp [member])
      rw [cellsAfter_cons first.1 first.2, ih others, ih others]
      by_cases zero : cellWidth c = 0 <;> simp [zero, separateCells]

/-- Every character of such a text takes its own cells. -/
theorem cells_of_isSeparate {text : List Char} (separate : IsSeparate text) :
    cells text = separateCells text := cellsAfter_of_isSeparate separate false

theorem isSeparate_append {text other : List Char} :
    IsSeparate (text ++ other) ↔ IsSeparate text ∧ IsSeparate other := by
  simp only [IsSeparate, List.mem_append]
  constructor
  · intro all
    exact ⟨fun c member => all c (.inl member), fun c member => all c (.inr member)⟩
  · rintro ⟨front, back⟩ c (member | member)
    · exact front c member
    · exact back c member

theorem isSeparate_blank (width : Nat) : IsSeparate (blank width) := by
  intro c member
  rw [(List.mem_replicate.1 member).2]
  decide

@[simp] theorem separateCells_append (text other : List Char) :
    separateCells (text ++ other) = separateCells text + separateCells other := by
  induction text with
  | nil => simp [separateCells]
  | cons c rest ih => simp [separateCells, ih, Nat.add_assoc]

@[simp] theorem separateCells_blank (width : Nat) : separateCells (blank width) = width := by
  unfold blank
  induction width with
  | zero => rfl
  | succ width ih => rw [List.replicate_succ, separateCells, ih, cellWidth_space, Nat.add_comm]

@[simp] theorem cells_blank (width : Nat) : cells (blank width) = width := by
  rw [cells_of_isSeparate (isSeparate_blank width), separateCells_blank]

theorem IsSeparate.head?_ne {text : List Char} (separate : IsSeparate text) :
    text.head? ≠ some joiner := by
  intro first
  exact (separate joiner (List.mem_of_head? first)).1 rfl

end TrafficBoard.Text
