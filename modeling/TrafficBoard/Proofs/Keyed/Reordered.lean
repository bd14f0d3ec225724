import Mathlib.Data.List.Perm.Subperm
import TrafficBoard.Proofs.Keyed.Groups

/-!
# Maps that differ in order only

Two maps hold the same entries in some order exactly when every key has the same
value in both.  Comparing sizes and values decides this.

Grouping a list that was reordered makes the same groups, if the value of a group
does not depend on the order of its members.
-/

namespace TrafficBoard.Keyed

universe u v w

variable {κ : Type u} {α : Type v} [DecidableEq κ]

theorem lookup_eq_some_iff {entries : List (κ × α)} (distinct : (entries.map Prod.fst).Nodup)
    {key : κ} {value : α} : lookup key entries = some value ↔ (key, value) ∈ entries := by
  induction entries with
  | nil => simp [lookup]
  | cons entry rest ih =>
      rw [List.map_cons, List.nodup_cons] at distinct
      rw [lookup, List.mem_cons]
      by_cases same : entry.1 = key
      · subst same
        rw [if_pos rfl, Option.some.injEq]
        constructor
        · rintro rfl
          exact Or.inl rfl
        · rintro (found | later)
          · rw [← found]
          · exact absurd (List.mem_map_of_mem later) distinct.1
      · rw [if_neg same, ih distinct.2]
        refine ⟨Or.inr, fun found => found.resolve_left ?_⟩
        rintro rfl
        exact same rfl

/-- A value that is found is one of the entries. -/
theorem find?_eq_some_iff {map : Keyed κ α} {key : κ} {value : α} :
    map.find? key = some value ↔ (key, value) ∈ map.entries :=
  lookup_eq_some_iff map.distinct

/-- Maps hold the same entries, in some order, if all keys have the same values. -/
theorem entries_perm_iff {map other : Keyed κ α} :
    map.entries.Perm other.entries ↔ ∀ key, map.find? key = other.find? key := by
  constructor
  · intro perm key
    apply Option.ext
    intro value
    rw [find?_eq_some_iff, find?_eq_some_iff]
    exact perm.mem_iff
  · intro same
    have sameKeys : map.keys.Perm other.keys := by
      apply (List.perm_ext_iff_of_nodup map.distinct other.distinct).2
      intro key
      change key ∈ map.keys ↔ key ∈ other.keys
      rw [← find?_isSome_iff, ← find?_isSome_iff, same]
    rw [entries_eq map, entries_eq other]
    simp only [same]
    exact sameKeys.filterMap _

/-- The comparison of maps decides whether they differ in order only. -/
theorem sameEntries_iff [DecidableEq α] {map other : Keyed κ α} :
    map.sameEntries other = true ↔ map.entries.Perm other.entries := by
  rw [sameEntries, Bool.and_eq_true, decide_eq_true_iff, List.all_eq_true]
  simp only [decide_eq_true_iff, find?_eq_some_iff]
  constructor
  · rintro ⟨sameSize, found⟩
    have subset : map.entries ⊆ other.entries := fun entry member => found entry member
    have distinct : map.entries.Nodup := map.distinct.of_map
    exact (List.subperm_of_subset distinct subset).perm_of_length_le (Nat.le_of_eq sameSize.symm)
  · intro perm
    exact ⟨perm.length_eq, fun entry member => perm.mem_iff.1 member⟩

/-- A reordered list has the same groups, if the order within a group is not seen. -/
theorem grouped_perm {ι : Type w} {key : ι → κ} {value : List ι → α}
    (unordered : ∀ first second : List ι, first.Perm second → value first = value second)
    {members others : List ι} (perm : members.Perm others) :
    (grouped key value members).entries.Perm (grouped key value others).entries := by
  rw [entries_perm_iff]
  intro name
  rw [find?_grouped, find?_grouped, unordered _ _ (perm.filter _)]
  simp only [(perm.map key).mem_iff]

end TrafficBoard.Keyed
