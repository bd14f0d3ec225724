/-!
# Maps that keep the order of arrival

A `Keyed` map holds at most one value for each key and lists its entries in the
order in which their keys came. Replacing a value keeps its place; erasing a key
and inserting it again moves it to the end.

Each operation is described by what it does to `find?` and to the list of keys.
-/

namespace TrafficBoard

universe u v

/-- Entries with distinct keys, in the order in which the keys came. -/
structure Keyed (κ : Type u) (α : Type v) where
  entries : List (κ × α)
  distinct : (entries.map Prod.fst).Nodup

namespace Keyed

variable {κ : Type u} {α : Type v}

/-- The keys in order of arrival. -/
def keys (map : Keyed κ α) : List κ := map.entries.map Prod.fst

/-- The values in order of arrival of their keys. -/
def values (map : Keyed κ α) : List α := map.entries.map Prod.snd

/-- The number of entries. -/
def size (map : Keyed κ α) : Nat := map.entries.length

/-- The map without entries. -/
def empty : Keyed κ α := ⟨[], by simp⟩

instance : Inhabited (Keyed κ α) := ⟨empty⟩

variable [DecidableEq κ]

/-- The value of the first entry with a key. -/
def lookup (key : κ) : List (κ × α) → Option α
  | [] => none
  | entry :: rest => if entry.1 = key then some entry.2 else lookup key rest

/-- The value of a key. -/
def find? (map : Keyed κ α) (key : κ) : Option α := lookup key map.entries

/-- Whether a key has a value. -/
def contains (map : Keyed κ α) (key : κ) : Bool := (map.find? key).isSome

/-- Entries in which the value of a key is set: in place, or else at the end. -/
def setEntry (key : κ) (value : α) : List (κ × α) → List (κ × α)
  | [] => [(key, value)]
  | entry :: rest =>
      if entry.1 = key then (key, value) :: rest else entry :: setEntry key value rest

theorem mem_keys_setEntry {key other : κ} {value : α} {entries : List (κ × α)} :
    other ∈ (setEntry key value entries).map Prod.fst ↔
      other = key ∨ other ∈ entries.map Prod.fst := by
  induction entries with
  | nil => simp [setEntry]
  | cons entry rest ih =>
      unfold setEntry
      split
      · next same => simp [same]
      · simp only [List.map_cons, List.mem_cons, ih]
        constructor <;> rintro (h | h | h) <;> simp [h]

theorem nodup_setEntry {key : κ} {value : α} {entries : List (κ × α)}
    (distinct : (entries.map Prod.fst).Nodup) :
    ((setEntry key value entries).map Prod.fst).Nodup := by
  induction entries with
  | nil => simp [setEntry]
  | cons entry rest ih =>
      unfold setEntry
      simp only [List.map_cons, List.nodup_cons] at distinct
      split
      · next same => simpa [← same] using distinct
      · next other =>
          simp only [List.map_cons, List.nodup_cons]
          refine ⟨fun member => ?_, ih distinct.2⟩
          rcases mem_keys_setEntry.1 member with same | old
          · exact other same
          · exact distinct.1 old

/-- Set the value of a key; a new key comes last. -/
def insert (map : Keyed κ α) (key : κ) (value : α) : Keyed κ α :=
  ⟨setEntry key value map.entries, nodup_setEntry map.distinct⟩

/-- Remove a key and its value. -/
def erase (map : Keyed κ α) (key : κ) : Keyed κ α :=
  ⟨map.entries.filter fun entry => !decide (entry.1 = key),
    map.distinct.sublist (List.filter_sublist.map Prod.fst)⟩

/-- Change the value of a key, starting from a given value where it has none. -/
def update (map : Keyed κ α) (key : κ) (start : α) (change : α → α) : Keyed κ α :=
  map.insert key (change ((map.find? key).getD start))

/-- The map of a list of entries: a later value replaces an earlier one. -/
def ofList (entries : List (κ × α)) : Keyed κ α :=
  entries.foldl (fun map entry => map.insert entry.1 entry.2) empty

/-- Whether two maps have the same keys with the same values, in any order. -/
def sameEntries [DecidableEq α] (map other : Keyed κ α) : Bool :=
  map.size = other.size && map.entries.all fun entry => other.find? entry.1 = some entry.2

/-! ## What the operations do to values and keys -/

omit [DecidableEq κ] in
@[simp] theorem keys_empty : (empty : Keyed κ α).keys = [] := rfl

@[simp] theorem find?_empty (key : κ) : (empty : Keyed κ α).find? key = none := rfl

theorem lookup_setEntry (key other : κ) (value : α) (entries : List (κ × α)) :
    lookup other (setEntry key value entries) =
      if key = other then some value else lookup other entries := by
  induction entries with
  | nil => simp [setEntry, lookup]
  | cons entry rest ih =>
      unfold setEntry
      split
      · next same =>
          by_cases equal : key = other <;> simp [lookup, equal, same]
      · next different =>
          by_cases equal : entry.1 = other
          · have : key ≠ other := fun h => different (equal.trans h.symm)
            simp [lookup, equal, this]
          · simp [lookup, equal, ih]

/-- Inserting changes the value of the inserted key only. -/
@[simp] theorem find?_insert (map : Keyed κ α) (key other : κ) (value : α) :
    (map.insert key value).find? other = if key = other then some value else map.find? other :=
  lookup_setEntry key other value map.entries

theorem lookup_filter_ne (key other : κ) (entries : List (κ × α)) :
    lookup other (entries.filter fun entry => !decide (entry.1 = key)) =
      if key = other then none else lookup other entries := by
  induction entries with
  | nil => simp [lookup]
  | cons entry rest ih =>
      by_cases same : entry.1 = key
      · rw [List.filter_cons_of_neg (by simp [same]), ih]
        by_cases equal : key = other <;> simp [lookup, equal, same]
      · rw [List.filter_cons_of_pos (by simp [same])]
        by_cases equal : entry.1 = other
        · have : key ≠ other := fun h => same (equal.trans h.symm)
          simp [lookup, equal, this]
        · simp only [lookup, equal, if_false, ih]

/-- Erasing removes the erased key only. -/
@[simp] theorem find?_erase (map : Keyed κ α) (key other : κ) :
    (map.erase key).find? other = if key = other then none else map.find? other :=
  lookup_filter_ne key other map.entries

theorem lookup_isSome_iff {key : κ} {entries : List (κ × α)} :
    (lookup key entries).isSome ↔ key ∈ entries.map Prod.fst := by
  induction entries with
  | nil => simp [lookup]
  | cons entry rest ih =>
      by_cases same : entry.1 = key
      · simp [lookup, same]
      · simp only [lookup, same, if_false, ih, List.map_cons, List.mem_cons]
        exact ⟨Or.inr, fun h => h.resolve_left fun equal => same equal.symm⟩

/-- The keys are those that have a value. -/
theorem find?_isSome_iff {map : Keyed κ α} {key : κ} :
    (map.find? key).isSome ↔ key ∈ map.keys := lookup_isSome_iff

theorem keys_setEntry (key : κ) (value : α) (entries : List (κ × α)) :
    (setEntry key value entries).map Prod.fst =
      if key ∈ entries.map Prod.fst then entries.map Prod.fst
      else entries.map Prod.fst ++ [key] := by
  induction entries with
  | nil => simp [setEntry]
  | cons entry rest ih =>
      unfold setEntry
      split
      · next same => simp [same]
      · next other =>
          have different : key ≠ entry.1 := fun h => other h.symm
          simp only [List.map_cons, ih, List.mem_cons, different, false_or]
          split <;> simp

/-- Inserting keeps the order of the keys; a new key comes last. -/
@[simp] theorem keys_insert (map : Keyed κ α) (key : κ) (value : α) :
    (map.insert key value).keys = if key ∈ map.keys then map.keys else map.keys ++ [key] :=
  keys_setEntry key value map.entries

/-- Erasing keeps the order of the other keys. -/
@[simp] theorem keys_erase (map : Keyed κ α) (key : κ) :
    (map.erase key).keys = map.keys.filter (· ≠ key) := by
  simp [keys, erase, List.filter_map, Function.comp_def]

end Keyed

end TrafficBoard
