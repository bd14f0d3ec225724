import Mathlib.Data.List.Forall2
import TrafficBoard.Traffic.Volume

/-!
# Rankings

A ranking lists entries by falling peaks and leaves those with equal peaks in their
order.  The second part is said for each peak: the entries that have it are the same list
before and after.

No other list is a ranking of the same entries, because its first entry is the first one of
those with the highest peak, and what follows is a ranking again.  Only the peaks take part, so
that it does not matter which direction of an entry carried more.
-/

namespace TrafficBoard

/-- The entries of a list in order of falling peaks, those with equal peaks in the order
of the list. -/
structure IsRanking {α : Type} (volume : α → Volume) (entries ranked : List α) : Prop where
  perm : ranked.Perm entries
  falling : ranked.Pairwise fun entry other => (volume other).peak ≤ (volume entry).peak
  stable : ∀ peak, (ranked.filter fun entry => (volume entry).peak = peak) =
    entries.filter fun entry => (volume entry).peak = peak

section Order

variable {α : Type} (volume : α → Volume)

theorem peakOrder_trans (first second third : α)
    (front : decide ((volume second).peak ≤ (volume first).peak) = true)
    (back : decide ((volume third).peak ≤ (volume second).peak) = true) :
    decide ((volume third).peak ≤ (volume first).peak) = true :=
  decide_eq_true (Int.le_trans (of_decide_eq_true back) (of_decide_eq_true front))

theorem peakOrder_total (first second : α) :
    (decide ((volume second).peak ≤ (volume first).peak) ||
      decide ((volume first).peak ≤ (volume second).peak)) = true := by
  rw [Bool.or_eq_true, decide_eq_true_iff, decide_eq_true_iff]
  exact Int.le_total _ _

theorem perm_busiestFirst (entries : List α) : (busiestFirst volume entries).Perm entries :=
  List.mergeSort_perm entries _

theorem falling_busiestFirst (entries : List α) :
    (busiestFirst volume entries).Pairwise fun entry other =>
      (volume other).peak ≤ (volume entry).peak := by
  have sorted := List.pairwise_mergeSort (peakOrder_trans volume) (peakOrder_total volume) entries
  exact sorted.imp of_decide_eq_true

/-- The entries of one peak are a sorted part of the list, so they are a part of the
ranked list too, and there are no more of them in it. -/
theorem filter_busiestFirst (entries : List α) (peak : Int) :
    ((busiestFirst volume entries).filter fun entry => (volume entry).peak = peak) =
      entries.filter fun entry => (volume entry).peak = peak := by
  have equalPeaks : (entries.filter fun entry => (volume entry).peak = peak).Pairwise
      fun entry other => decide ((volume other).peak ≤ (volume entry).peak) = true := by
    apply List.pairwise_of_forall_mem_list
    intro entry member other otherMember
    have same := of_decide_eq_true (List.mem_filter.1 member).2
    have otherSame := of_decide_eq_true (List.mem_filter.1 otherMember).2
    exact decide_eq_true (Int.le_of_eq (otherSame.trans same.symm))
  have kept := List.sublist_mergeSort (peakOrder_trans volume) (peakOrder_total volume) equalPeaks
    List.filter_sublist
  have keptFiltered := kept.filter fun entry => decide ((volume entry).peak = peak)
  rw [List.filter_filter] at keptFiltered
  simp only [Bool.and_self] at keptFiltered
  have sameLength := ((perm_busiestFirst volume entries).filter
    fun entry => decide ((volume entry).peak = peak)).length_eq
  exact (keptFiltered.eq_of_length sameLength.symm).symm

theorem isRanking_busiestFirst (entries : List α) :
    IsRanking volume entries (busiestFirst volume entries) where
  perm := perm_busiestFirst volume entries
  falling := falling_busiestFirst volume entries
  stable := filter_busiestFirst volume entries

end Order

section Unique

variable {α : Type} {volume : α → Volume} {entries ranked other : List α} {first entry : α}

theorem mem_iff_of_filter_eq
    (same : ∀ peak, (ranked.filter fun entry => (volume entry).peak = peak) =
      other.filter fun entry => (volume entry).peak = peak) :
    entry ∈ ranked ↔ entry ∈ other := by
  have alike := congrArg (entry ∈ ·) (same (volume entry).peak)
  simpa using alike

theorem peak_le_of_mem_cons
    (falling : (first :: ranked).Pairwise fun entry other =>
      (volume other).peak ≤ (volume entry).peak)
    (member : entry ∈ first :: ranked) : (volume entry).peak ≤ (volume first).peak := by
  rcases List.mem_cons.1 member with rfl | later
  · exact Int.le_refl _
  · exact List.rel_of_pairwise_cons falling later

/-- Lists with falling peaks are equal if they have the same entries of each peak, in the same
order. -/
theorem eq_of_falling
    (falling : ranked.Pairwise fun entry other => (volume other).peak ≤ (volume entry).peak)
    (otherFalling : other.Pairwise fun entry other => (volume other).peak ≤ (volume entry).peak)
    (same : ∀ peak, (ranked.filter fun entry => (volume entry).peak = peak) =
      other.filter fun entry => (volume entry).peak = peak) : ranked = other := by
  induction ranked generalizing other with
  | nil =>
      symm
      apply List.eq_nil_iff_forall_not_mem.2
      intro entry member
      exact List.not_mem_nil ((mem_iff_of_filter_eq same).2 member)
  | cons first rest ih =>
      cases other with
      | nil => exact absurd ((mem_iff_of_filter_eq same).1 List.mem_cons_self) List.not_mem_nil
      | cons second others =>
          -- both lists start with the first entry of the highest peak
          have equalPeaks : (volume second).peak = (volume first).peak := by
            apply Int.le_antisymm
            · exact peak_le_of_mem_cons falling
                ((mem_iff_of_filter_eq same).2 List.mem_cons_self)
            · exact peak_le_of_mem_cons otherFalling
                ((mem_iff_of_filter_eq same).1 List.mem_cons_self)
          have highest := same (volume first).peak
          rw [List.filter_cons_of_pos (by simp), List.filter_cons_of_pos (by simp [equalPeaks]),
            List.cons.injEq] at highest
          obtain ⟨rfl, -⟩ := highest
          congr 1
          apply ih falling.of_cons otherFalling.of_cons
          intro peak
          have entire := same peak
          simp only [List.filter_cons] at entire
          split at entire
          · exact List.tail_eq_of_cons_eq entire
          · exact entire

theorem IsRanking.unique (ranking : IsRanking volume entries ranked)
    (otherRanking : IsRanking volume entries other) : ranked = other :=
  eq_of_falling ranking.falling otherRanking.falling fun peak =>
    (ranking.stable peak).trans (otherRanking.stable peak).symm

/-- A list with falling peaks is the ranking of entries that have the same entries of each peak, in
the same order. -/
theorem busiestFirst_eq
    (falling : ranked.Pairwise fun entry other => (volume other).peak ≤ (volume entry).peak)
    (stable : ∀ peak, (entries.filter fun entry => (volume entry).peak = peak) =
      ranked.filter fun entry => (volume entry).peak = peak) :
    busiestFirst volume entries = ranked :=
  eq_of_falling (falling_busiestFirst volume entries) falling fun peak =>
    (filter_busiestFirst volume entries peak).trans (stable peak)

end Unique

section Numbered

variable {α : Type} (volume : α → Volume) (entries : List α)

/-- Whether a numbered entry has a higher peak than another one, or the same peak and a smaller
number. -/
def RanksBefore (entry other : α × Nat) : Prop :=
  (volume other.1).peak < (volume entry.1).peak ∨
    (volume entry.1).peak = (volume other.1).peak ∧ entry.2 < other.2

theorem pairwise_number_lt : entries.zipIdx.Pairwise fun entry other => entry.2 < other.2 := by
  rw [← List.pairwise_map, List.zipIdx_map_snd]
  exact List.pairwise_lt_range'

theorem map_fst_busiestFirst_zipIdx :
    (busiestFirst (fun numbered => volume numbered.1) entries.zipIdx).map (·.1) =
      busiestFirst volume entries := by
  have sorted := List.map_mergeSort (f := fun numbered : α × Nat => numbered.1)
    (l := entries.zipIdx)
    (r := fun entry other => decide ((volume other.1).peak ≤ (volume entry.1).peak))
    (s := fun entry other => decide ((volume other).peak ≤ (volume entry).peak))
    fun _ _ _ _ => rfl
  rw [List.zipIdx_map_fst] at sorted
  exact sorted

/-- Numbered entries with the same peak are ranked by their numbers. -/
theorem pairwise_ranksBefore :
    (busiestFirst (fun numbered => volume numbered.1) entries.zipIdx).Pairwise
      (RanksBefore volume) := by
  let ranked := busiestFirst (fun numbered => volume numbered.1) entries.zipIdx
  have inOrder : ranked.Pairwise fun entry other =>
      (volume entry.1).peak = (volume other.1).peak → entry.2 < other.2 := by
    rw [List.pairwise_iff_forall_sublist]
    intro entry other both equalPeaks
    have kept := both.filter fun numbered => (volume numbered.1).peak = (volume other.1).peak
    rw [filter_busiestFirst] at kept
    have before := (pairwise_number_lt entries).sublist (kept.trans List.filter_sublist)
    simpa [equalPeaks] using before
  have falling := falling_busiestFirst (fun numbered : α × Nat => volume numbered.1) entries.zipIdx
  refine (falling.and inOrder).imp ?_
  rintro entry other ⟨le, tie⟩
  rcases Int.lt_or_eq_of_le le with less | same
  · exact .inl less
  · exact .inr ⟨same.symm, tie same.symm⟩

variable {volume entries}

/-- Of numbered entries that are ranked, those with one peak are listed as before, by their
numbers. -/
theorem filter_eq_of_ranksBefore {numbered : List (α × Nat)} (perm : numbered.Perm entries.zipIdx)
    (order : numbered.Pairwise (RanksBefore volume)) (peak : Int) :
    (numbered.filter fun entry => (volume entry.1).peak = peak) =
      entries.zipIdx.filter fun entry => (volume entry.1).peak = peak := by
  have rising : (numbered.filter fun entry => (volume entry.1).peak = peak).Pairwise
      fun entry other => entry.2 < other.2 := by
    rw [List.pairwise_filter]
    refine order.imp ?_
    intro entry other before atPeak otherAtPeak
    have same := (of_decide_eq_true atPeak).trans (of_decide_eq_true otherAtPeak).symm
    exact (before.resolve_left (Int.not_lt.2 (Int.le_of_eq same))).2
  refine List.Perm.eq_of_pairwise ?_ rising
    ((pairwise_number_lt entries).sublist List.filter_sublist) (perm.filter _)
  intro entry other _ _ less greater
  exact absurd greater (Nat.lt_asymm less)

/-- A ranking is what is left of a list of numbered entries in which the entries with one peak are
in the order of their numbers. -/
theorem isRanking_iff_exists_numbered {ranked : List α} :
    IsRanking volume entries ranked ↔ ∃ numbered : List (α × Nat),
      numbered.Perm entries.zipIdx ∧ numbered.map (·.1) = ranked ∧
        numbered.Pairwise (RanksBefore volume) := by
  constructor
  · intro ranking
    refine ⟨_, perm_busiestFirst _ _, ?_, pairwise_ranksBefore volume entries⟩
    rw [map_fst_busiestFirst_zipIdx]
    exact (isRanking_busiestFirst volume entries).unique ranking
  · rintro ⟨numbered, perm, rfl, order⟩
    constructor
    case perm =>
      have entriesPerm := perm.map (·.1)
      rwa [List.zipIdx_map_fst] at entriesPerm
    case falling =>
      rw [List.pairwise_map]
      exact order.imp fun before => before.elim Int.le_of_lt fun tie => Int.le_of_eq tie.1.symm
    case stable =>
      intro peak
      have same := congrArg (List.map (·.1)) (filter_eq_of_ranksBefore perm order peak)
      have whole : entries.filter (fun entry => (volume entry).peak = peak) =
          (entries.zipIdx.filter fun entry => (volume entry.1).peak = peak).map (·.1) := by
        conv_lhs => rw [← List.zipIdx_map_fst 0 entries, List.filter_map]
        rfl
      rw [List.filter_map, whole, ← same]
      rfl

end Numbered

/-- Entries are ranked by their peaks alone: where the peaks of two lists are the same one by one,
anything else that the entries have in common is ranked alike. -/
theorem map_busiestFirst_of_forall₂ {α β : Type} {volume : α → Volume} {key : α → β}
    {entries others : List α}
    (alike : List.Forall₂ (fun entry other => key other = key entry ∧
      (volume other).peak = (volume entry).peak) entries others) :
    (busiestFirst volume others).map key = (busiestFirst volume entries).map key := by
  let shown (entry : α) : β × Int := (key entry, (volume entry).peak)
  let order (entry other : β × Int) : Bool := other.2 ≤ entry.2
  have ranked (list : List α) : (busiestFirst volume list).map shown =
      (list.map shown).mergeSort order := List.map_mergeSort fun _ _ _ _ => rfl
  have same : others.map shown = entries.map shown := by
    rw [← List.forall₂_eq_eq_eq, List.forall₂_map_left_iff, List.forall₂_map_right_iff]
    exact alike.flip.imp fun _ _ same => Prod.ext same.1 same.2
  calc
    (busiestFirst volume others).map key = ((busiestFirst volume others).map shown).map (·.1) := by
      rw [List.map_map]
      rfl
    _ = ((busiestFirst volume entries).map shown).map (·.1) := by rw [ranked, ranked, same]
    _ = (busiestFirst volume entries).map key := by
      rw [List.map_map]
      rfl

/-- The volume with its directions exchanged. -/
def Volume.exchanged (volume : Volume) : Volume := ⟨volume.down, volume.up⟩

@[simp] theorem Volume.peak_exchanged (volume : Volume) : volume.exchanged.peak = volume.peak :=
  Int.max_comm volume.down volume.up

/-- Whether two lists have the same keys, and volumes that are the same up to an exchange of
directions. -/
def ExchangeDirections {κ β : Type} (volume : β → Volume) (entries others : List (κ × β)) : Prop :=
  List.Forall₂ (fun entry other => other.1 = entry.1 ∧
    (volume other.2 = volume entry.2 ∨ volume other.2 = (volume entry.2).exchanged))
    entries others

/-- The entries in order of falling peaks are their only ranking, and in it the entries with equal
peaks keep the order in which they are numbered.  A ranking is not changed by ranking it again, and
an exchange of the directions of any entries does not change the order of the keys. -/
theorem busiestFirst_is_only_ranking {κ β : Type} (volume : β → Volume) (entries : List (κ × β)) :
    (∀ ranked, IsRanking (fun entry => volume entry.2) entries ranked ↔
      ranked = busiestFirst (fun entry => volume entry.2) entries) ∧
    (∀ ranked, IsRanking (fun entry => volume entry.2) entries ranked ↔
      ∃ numbered : List ((κ × β) × Nat), numbered.Perm entries.zipIdx ∧
        numbered.map (·.1) = ranked ∧
        numbered.Pairwise (RanksBefore fun entry => volume entry.2)) ∧
    (∀ ranked, IsRanking (fun entry => volume entry.2) entries ranked →
      busiestFirst (fun entry => volume entry.2) ranked = ranked) ∧
    ∀ others, ExchangeDirections volume entries others →
      (busiestFirst (fun entry => volume entry.2) others).map (·.1) =
        (busiestFirst (fun entry => volume entry.2) entries).map (·.1) := by
  have ranking := isRanking_busiestFirst (fun entry : κ × β => volume entry.2) entries
  refine ⟨fun ranked => ⟨fun other => other.unique ranking, fun same => same ▸ ranking⟩,
    fun ranked => isRanking_iff_exists_numbered,
    fun ranked other => busiestFirst_eq other.falling fun _ => rfl, fun others exchanged => ?_⟩
  apply map_busiestFirst_of_forall₂
  refine exchanged.imp ?_
  rintro entry other ⟨sameKey, same | exchanged⟩
  · exact ⟨sameKey, by rw [same]⟩
  · exact ⟨sameKey, by rw [exchanged, Volume.peak_exchanged]⟩

/-- Two entries with equal peaks, and a busier one behind them. -/
def tiedEntries : List (String × Volume) :=
  [("curl", ⟨500, 20⟩), ("firefox", ⟨3, 500⟩), ("ssh", ⟨10, 900⟩)]

theorem busiestFirst_tiedEntries : busiestFirst (·.2) tiedEntries =
    [("ssh", ⟨10, 900⟩), ("curl", ⟨500, 20⟩), ("firefox", ⟨3, 500⟩)] := by
  apply busiestFirst_eq
  · decide
  · intro peak
    by_cases highest : 900 = peak
    · subst highest
      rfl
    · -- without the busiest entry, the two lists are the same
      have left : decide ((⟨10, 900⟩ : Volume).peak = peak) = false := decide_eq_false highest
      simp only [tiedEntries, List.filter_cons, left]
      rfl

/-- Two entries with equal peaks keep their order, whichever of their directions carried more. -/
theorem busiestFirst_is_only_ranking_tied :
    (busiestFirst (fun entry => entry.2)
      [("curl", (⟨20, 500⟩ : Volume)), ("firefox", ⟨3, 500⟩), ("ssh", ⟨900, 10⟩)]).map (·.1) =
        ["ssh", "curl", "firefox"] := by
  obtain ⟨-, -, -, exchange⟩ :=
    busiestFirst_is_only_ranking (fun volume : Volume => volume) tiedEntries
  have exchanged : ExchangeDirections (fun volume : Volume => volume) tiedEntries
      [("curl", ⟨20, 500⟩), ("firefox", ⟨3, 500⟩), ("ssh", ⟨900, 10⟩)] :=
    .cons ⟨rfl, .inr rfl⟩ (.cons ⟨rfl, .inl rfl⟩ (.cons ⟨rfl, .inr rfl⟩ .nil))
  rw [exchange _ exchanged, busiestFirst_tiedEntries]
  rfl

end TrafficBoard
