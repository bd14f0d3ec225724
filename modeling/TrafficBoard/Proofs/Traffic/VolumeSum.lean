import Mathlib.Algebra.BigOperators.Group.List.Basic
import TrafficBoard.Traffic.Volume

/-!
# Sums of volumes

Volumes form a commutative group, direction by direction.  Sums of volumes can
therefore be regrouped and reordered.
-/

namespace TrafficBoard.Volume

attribute [ext] Volume

instance : Zero Volume := ⟨Volume.none⟩

instance : Neg Volume := ⟨fun volume => ⟨-volume.up, -volume.down⟩⟩

@[simp] theorem up_zero : (0 : Volume).up = 0 := rfl

@[simp] theorem down_zero : (0 : Volume).down = 0 := rfl

@[simp] theorem up_neg (volume : Volume) : (-volume).up = -volume.up := rfl

@[simp] theorem down_neg (volume : Volume) : (-volume).down = -volume.down := rfl

theorem none_eq_zero : Volume.none = 0 := rfl

instance : AddCommGroup Volume where
  add_assoc first second third := by ext <;> simp [Int.add_assoc]
  zero_add volume := by ext <;> simp
  add_zero volume := by ext <;> simp
  add_comm volume other := by ext <;> simp [Int.add_comm]
  neg_add_cancel volume := by ext <;> simp
  nsmul := nsmulRec
  zsmul := zsmulRec

@[simp] theorem up_sub (volume other : Volume) :
    (volume - other).up = volume.up - other.up := rfl

@[simp] theorem down_sub (volume other : Volume) :
    (volume - other).down = volume.down - other.down := rfl

/-- The upload of volumes as a homomorphism. -/
def upHom : Volume →+ Int where
  toFun := up
  map_zero' := up_zero
  map_add' := up_add

/-- The download of volumes as a homomorphism. -/
def downHom : Volume →+ Int where
  toFun := down
  map_zero' := down_zero
  map_add' := down_add

/-- Volumes without bytes in a direction have none together. -/
theorem direction_sum_eq_zero (direction : Volume →+ Int) {volumes : List Volume}
    (zero : ∀ volume ∈ volumes, direction volume = 0) : direction volumes.sum = 0 := by
  rw [map_list_sum]
  apply List.sum_eq_zero
  intro bytes member
  obtain ⟨volume, found, rfl⟩ := List.mem_map.1 member
  exact zero volume found

/-- No direction of the volume is negative. -/
def IsCount (volume : Volume) : Prop := 0 ≤ volume.up ∧ 0 ≤ volume.down
  deriving Decidable

theorem isCount_zero : IsCount 0 := ⟨Int.le_refl 0, Int.le_refl 0⟩

theorem IsCount.add {volume other : Volume} (count : IsCount volume) (otherCount : IsCount other) :
    IsCount (volume + other) :=
  ⟨Int.add_nonneg count.1 otherCount.1, Int.add_nonneg count.2 otherCount.2⟩

theorem isCount_sum {volumes : List Volume} (counts : ∀ volume ∈ volumes, IsCount volume) :
    IsCount volumes.sum := by
  induction volumes with
  | nil => exact isCount_zero
  | cons volume rest ih =>
      rw [List.sum_cons]
      exact (counts volume List.mem_cons_self).add
        (ih fun other member => counts other (List.mem_cons_of_mem volume member))

end TrafficBoard.Volume
