import Mathlib.Algebra.BigOperators.Group.List.Basic
import TrafficBoard.Proofs.Keyed.Tabulated

/-!
# Groups of a list

The members of a list fall into groups by a key.  Each member is in the group of
its own key and in no other, so the groups hold together what the list holds, and
an amount summed group by group is the amount summed over the list.

A map that is built by one update for each member is the map of the groups.
-/

namespace TrafficBoard.Keyed

universe u v w

variable {κ : Type u} {α : Type v} {ι : Type w} [DecidableEq κ]

/-- The groups of distinct keys hold together the members with one of the keys. -/
theorem flatMap_filter_perm (key : ι → κ) (members : List ι) {names : List κ}
    (distinct : names.Nodup) :
    (names.flatMap fun name => members.filter (key · = name)).Perm
      (members.filter (key · ∈ names)) := by
  induction names with
  | nil => simp
  | cons name names ih =>
      obtain ⟨fresh, distinctRest⟩ := List.nodup_cons.1 distinct
      have named : (members.filter (key · ∈ name :: names)).filter (key · = name) =
          members.filter (key · = name) := by
        rw [List.filter_filter]
        apply List.filter_congr
        intro member _
        simp only [List.mem_cons, ← Bool.decide_and, decide_eq_decide]
        exact and_iff_left_of_imp Or.inl
      have others : (members.filter (key · ∈ name :: names)).filter
          (fun member => !decide (key member = name)) = members.filter (key · ∈ names) := by
        rw [List.filter_filter]
        apply List.filter_congr
        intro member _
        rw [← decide_not, ← Bool.decide_and, decide_eq_decide, List.mem_cons]
        constructor
        · rintro ⟨other, same | found⟩
          · exact absurd same other
          · exact found
        · intro found
          exact ⟨fun same => fresh (same ▸ found), Or.inr found⟩
      rw [List.flatMap_cons]
      have split := List.filter_append_perm (key · = name) (members.filter (key · ∈ name :: names))
      rw [named, others] at split
      exact ((ih distinctRest).append_left _).trans split

/-- The groups of a list hold together its members. -/
theorem flatMap_groups_perm (key : ι → κ) (members : List ι) :
    ((members.map key).eraseDups.flatMap fun name => members.filter (key · = name)).Perm
      members := by
  have all : members.filter (key · ∈ (members.map key).eraseDups) = members := by
    apply List.filter_eq_self.2
    intro member found
    simpa using ⟨member, found, rfl⟩
  simpa only [all] using flatMap_filter_perm key members (nodup_eraseDups (members.map key))

/-! ## Maps of groups -/

/-- The groups of a list in the order of their first members, each with the value of
its members. -/
def grouped (key : ι → κ) (value : List ι → α) (members : List ι) : Keyed κ α :=
  tabulate (members.map key) fun name => value (members.filter (key · = name))

@[simp] theorem keys_grouped (key : ι → κ) (value : List ι → α) (members : List ι) :
    (grouped key value members).keys = (members.map key).eraseDups :=
  keys_tabulate ..

theorem find?_grouped (key : ι → κ) (value : List ι → α) (members : List ι) (name : κ) :
    (grouped key value members).find? name =
      if name ∈ members.map key then some (value (members.filter (key · = name))) else none :=
  find?_tabulate ..

theorem filter_key_eq_nil_iff {key : ι → κ} {members : List ι} {name : κ} :
    members.filter (key · = name) = [] ↔ name ∉ members.map key := by
  rw [List.filter_eq_nil_iff, List.mem_map]
  constructor
  · rintro empty ⟨member, found, same⟩
    exact empty member found (decide_eq_true same)
  · intro absent member found same
    exact absent ⟨member, found, of_decide_eq_true same⟩

/-- One more member is one more update, if the value of its group is changed as the
update changes it. -/
theorem grouped_concat {key : ι → κ} {value : List ι → α} {member : ι} {start : α}
    {change : α → α}
    (step : ∀ members, value (members ++ [member]) =
      change (if members = [] then start else value members))
    (members : List ι) :
    grouped key value (members ++ [member]) =
      (grouped key value members).update (key member) start change := by
  symm
  apply eq_tabulate
  · rw [keys_update, keys_grouped, List.map_append, List.map_singleton, eraseDups_concat]
    simp only [List.mem_eraseDups]
  · intro name named
    rw [find?_update, List.filter_append]
    by_cases same : key member = name
    · have last : [member].filter (key · = name) = [member] := by simp [same]
      rw [if_pos same, last, step, find?_grouped, same]
      by_cases present : name ∈ members.map key
      · have nonempty : members.filter (key · = name) ≠ [] :=
          fun empty => filter_key_eq_nil_iff.1 empty present
        rw [if_pos present, if_neg nonempty]
        rfl
      · rw [if_neg present, if_pos (filter_key_eq_nil_iff.2 present)]
        rfl
    · have last : [member].filter (key · = name) = [] := by simp [same]
      have earlier : name ∈ members.map key := by
        rw [List.map_append, List.mem_append] at named
        rcases named with old | new
        · exact old
        · exact absurd (List.mem_singleton.1 new).symm same
      rw [if_neg same, last, List.append_nil, find?_grouped, if_pos earlier]

/-- One update for each member of a list makes the groups of the list. -/
theorem foldl_update_eq_grouped {key : ι → κ} {value : List ι → α} {start : ι → α}
    {change : ι → α → α}
    (step : ∀ members member, value (members ++ [member]) =
      change member (if members = [] then start member else value members))
    (members : List ι) :
    members.foldl
        (fun map member => map.update (key member) (start member) (change member)) empty =
      grouped key value members := by
  induction members using List.reverseRecOn with
  | nil => rfl
  | append_singleton members member ih =>
      rw [List.foldl_concat, ih, grouped_concat fun members => step members member]

/-- Without the members of one group, the other groups are left. -/
theorem grouped_filter_ne (key : ι → κ) (value : List ι → α) (members : List ι) (name : κ) :
    grouped key value (members.filter (key · ≠ name)) =
      (grouped key value members).erase name := by
  have keptNames : (members.filter (key · ≠ name)).map key =
      (members.map key).filter (· ≠ name) := by
    rw [List.filter_map]
    rfl
  apply ext_find?
  · rw [keys_grouped, keys_erase, keys_grouped, keptNames, eraseDups_filter]
  · intro other
    have keptName : other ∈ (members.filter (key · ≠ name)).map key ↔
        other ∈ members.map key ∧ other ≠ name := by
      rw [keptNames, List.mem_filter, decide_eq_true_eq]
    rw [find?_erase, find?_grouped, find?_grouped]
    simp only [keptName]
    by_cases same : name = other
    · rw [if_pos same, if_neg fun found => found.2 same.symm]
    · have unchanged : (members.filter (key · ≠ name)).filter (key · = other) =
          members.filter (key · = other) := by
        rw [List.filter_filter]
        apply List.filter_congr
        intro member _
        rw [← Bool.decide_and, decide_eq_decide]
        exact and_iff_left_of_imp fun equal found => same (found.symm.trans equal)
      rw [if_neg same, unchanged]
      simp only [ne_comm.1 same, ne_eq, not_false_eq_true, and_true]

/-- Summed over the groups, the amounts of groups make the amount of the list. -/
theorem sum_grouped {M : Type*} [AddCommMonoid M] {key : ι → κ} {value : List ι → α}
    {amount : ι → M} {groupAmount : α → M}
    (additive : ∀ members, groupAmount (value members) = (members.map amount).sum)
    (members : List ι) :
    ((grouped key value members).values.map groupAmount).sum = (members.map amount).sum := by
  have perm := (flatMap_groups_perm key members).map amount
  rw [← perm.sum_eq, List.map_flatMap, List.flatMap, List.sum_flatten, List.map_map, grouped,
    values_tabulate, List.map_map]
  simp only [Function.comp_def, additive]

end TrafficBoard.Keyed
