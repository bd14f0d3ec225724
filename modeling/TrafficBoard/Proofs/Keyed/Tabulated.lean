import Mathlib.Data.List.Induction
import Mathlib.Data.List.Nodup
import TrafficBoard.Keyed

/-!
# Maps given by their keys and values

A map is determined by the order of its keys and by the value of each key.  It
can therefore be tabulated: from a list of keys, of which first appearances
count, and from the value that each of them is to have.
-/

namespace TrafficBoard.Keyed

universe u v

variable {κ : Type u} {α : Type v} [DecidableEq κ]

/-! ## First appearances -/

/-- A value behind a list appears first where it is not in the list. -/
theorem eraseDups_concat (values : List κ) (value : κ) :
    (values ++ [value]).eraseDups =
      if value ∈ values then values.eraseDups else values.eraseDups ++ [value] := by
  rw [List.eraseDups_append]
  by_cases member : value ∈ values
  · have nothingNew : [value].removeAll values = [] := by
      simp [List.removeAll, member]
    rw [nothingNew, if_pos member, List.eraseDups_nil, List.append_nil]
  · have allNew : [value].removeAll values = [value] := by
      simp [List.removeAll, member]
    rw [allNew, if_neg member]
    rfl

theorem nodup_eraseDups (values : List κ) : values.eraseDups.Nodup := by
  induction values using List.reverseRecOn with
  | nil => simp
  | append_singleton values value ih =>
      rw [eraseDups_concat]
      split
      · exact ih
      · next fresh =>
          apply List.nodup_append.2
          refine ⟨ih, List.nodup_singleton value, ?_⟩
          intro old member new same equal
          rw [List.mem_singleton] at same
          exact fresh (List.mem_eraseDups.1 (same ▸ equal ▸ member))

/-- What is left of a list keeps its order of first appearances. -/
theorem eraseDups_filter (values : List κ) (keeps : κ → Bool) :
    (values.filter keeps).eraseDups = values.eraseDups.filter keeps := by
  induction values using List.reverseRecOn with
  | nil => rfl
  | append_singleton values value ih =>
      rw [List.filter_append, eraseDups_concat]
      by_cases kept : keeps value = true
      · have last : [value].filter keeps = [value] := by simp [kept]
        rw [last, eraseDups_concat, ih]
        by_cases member : value ∈ values
        · rw [if_pos member, if_pos (List.mem_filter.2 ⟨member, kept⟩)]
        · have absent : value ∉ values.filter keeps :=
            fun found => member (List.mem_filter.1 found).1
          rw [if_neg member, if_neg absent, List.filter_append, last]
      · have last : [value].filter keeps = [] := by simp [kept]
        rw [last, List.append_nil, ih]
        split
        · rfl
        · rw [List.filter_append, last, List.append_nil]

/-! ## Equality of maps -/

/-- The entries of distinct keys are those that the lookup finds, key by key. -/
theorem filterMap_lookup (entries : List (κ × α)) (distinct : (entries.map Prod.fst).Nodup) :
    (entries.map Prod.fst).filterMap (fun key => (lookup key entries).map (key, ·)) =
      entries := by
  induction entries with
  | nil => rfl
  | cons entry rest ih =>
      rw [List.map_cons, List.nodup_cons] at distinct
      have headFound : ∀ keys, (entry.1 :: keys).filterMap
          (fun key => (lookup key (entry :: rest)).map (key, ·)) =
            entry :: keys.filterMap fun key => (lookup key (entry :: rest)).map (key, ·) := by
        intro keys
        apply List.filterMap_cons_some
        simp [lookup]
      have skipsHead : ∀ key ∈ rest.map Prod.fst,
          (lookup key (entry :: rest)).map (key, ·) = (lookup key rest).map (key, ·) := by
        intro key member
        have other : entry.1 ≠ key := fun same => distinct.1 (same ▸ member)
        simp only [lookup, if_neg other]
      rw [List.map_cons, headFound, List.filterMap_congr skipsHead, ih distinct.2]

/-- The entries of a map can be read off its keys and their values. -/
theorem entries_eq (map : Keyed κ α) :
    map.entries = map.keys.filterMap fun key => (map.find? key).map (key, ·) :=
  (filterMap_lookup map.entries map.distinct).symm

omit [DecidableEq κ] in
theorem ext_entries {map other : Keyed κ α} (equal : map.entries = other.entries) :
    map = other := by
  cases map
  cases other
  cases equal
  rfl

/-- Maps with the same keys in the same order and the same values are equal. -/
theorem ext_find? {map other : Keyed κ α} (sameKeys : map.keys = other.keys)
    (sameValues : ∀ key, map.find? key = other.find? key) : map = other := by
  apply ext_entries
  rw [entries_eq map, entries_eq other, sameKeys]
  simp only [sameValues]

theorem find?_eq_none_iff {map : Keyed κ α} {key : κ} :
    map.find? key = none ↔ key ∉ map.keys := by
  rw [← find?_isSome_iff, Option.isSome_iff_ne_none, not_not]

theorem contains_iff {map : Keyed κ α} {key : κ} :
    map.contains key = true ↔ key ∈ map.keys := find?_isSome_iff

/-! ## Tables -/

/-- The map with the given keys, each at its first appearance, and their values. -/
def tabulate (keys : List κ) (value : κ → α) : Keyed κ α where
  entries := keys.eraseDups.map fun key => (key, value key)
  distinct := by
    rw [List.map_map]
    simpa [Function.comp_def] using nodup_eraseDups keys

@[simp] theorem keys_tabulate (keys : List κ) (value : κ → α) :
    (tabulate keys value).keys = keys.eraseDups := by
  simp [Keyed.keys, tabulate, Function.comp_def]

@[simp] theorem values_tabulate (keys : List κ) (value : κ → α) :
    (tabulate keys value).values = keys.eraseDups.map value := by
  simp [values, tabulate, Function.comp_def]

theorem lookup_map_of_mem {keys : List κ} {key : κ} (value : κ → α) (member : key ∈ keys) :
    lookup key (keys.map fun key => (key, value key)) = some (value key) := by
  induction keys with
  | nil => cases member
  | cons first rest ih =>
      rw [List.map_cons]
      by_cases same : first = key
      · simp [lookup, same]
      · simp only [lookup, if_neg same]
        exact ih ((List.mem_cons.1 member).resolve_left fun equal => same equal.symm)

@[simp] theorem find?_tabulate (keys : List κ) (value : κ → α) (key : κ) :
    (tabulate keys value).find? key = if key ∈ keys then some (value key) else none := by
  by_cases member : key ∈ keys
  · rw [if_pos member]
    exact lookup_map_of_mem value (List.mem_eraseDups.2 member)
  · rw [if_neg member, find?_eq_none_iff, keys_tabulate, List.mem_eraseDups]
    exact member

/-- A map with the keys and the values of a table is the table. -/
theorem eq_tabulate {map : Keyed κ α} {keys : List κ} {value : κ → α}
    (sameKeys : map.keys = keys.eraseDups)
    (sameValues : ∀ key ∈ keys, map.find? key = some (value key)) :
    map = tabulate keys value := by
  apply ext_find?
  · rw [sameKeys, keys_tabulate]
  · intro key
    rw [find?_tabulate]
    split
    · next member => exact sameValues key member
    · next absent =>
        rw [find?_eq_none_iff, sameKeys, List.mem_eraseDups]
        exact absent

/-! ## Updates -/

theorem keys_update (map : Keyed κ α) (key : κ) (start : α) (change : α → α) :
    (map.update key start change).keys =
      if key ∈ map.keys then map.keys else map.keys ++ [key] :=
  keys_insert map key _

theorem find?_update (map : Keyed κ α) (key other : κ) (start : α) (change : α → α) :
    (map.update key start change).find? other =
      if key = other then some (change ((map.find? key).getD start)) else map.find? other :=
  find?_insert map key other _

theorem setEntry_of_notMem {key : κ} {value : α} {entries : List (κ × α)}
    (absent : key ∉ entries.map Prod.fst) :
    setEntry key value entries = entries ++ [(key, value)] := by
  induction entries with
  | nil => rfl
  | cons entry rest ih =>
      rw [List.map_cons, List.mem_cons, not_or] at absent
      rw [setEntry, if_neg fun same => absent.1 same.symm, ih absent.2]
      rfl

/-- A new key comes last, with the change of its start. -/
theorem entries_update_of_notMem {map : Keyed κ α} {key : κ} (absent : key ∉ map.keys)
    (start : α) (change : α → α) :
    (map.update key start change).entries = map.entries ++ [(key, change start)] := by
  rw [update, find?_eq_none_iff.2 absent]
  exact setEntry_of_notMem absent

end TrafficBoard.Keyed
