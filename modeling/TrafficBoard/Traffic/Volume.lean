import TrafficBoard.Rate

/-!
# Volumes

A volume is a number of bytes in each direction. Entries are ranked by the
direction that carried more; among entries with equal peaks the one that came
first stays first.
-/

namespace TrafficBoard

/-- Bytes moved in the two directions. -/
structure Volume where
  up : Int
  down : Int
  deriving DecidableEq, Repr, Inhabited

namespace Volume

/-- No bytes. -/
def none : Volume := ⟨0, 0⟩

/-- Directions are added separately. -/
def add (volume other : Volume) : Volume := ⟨volume.up + other.up, volume.down + other.down⟩

instance : Add Volume := ⟨add⟩

@[simp] theorem up_add (volume other : Volume) : (volume + other).up = volume.up + other.up := rfl

@[simp] theorem down_add (volume other : Volume) :
    (volume + other).down = volume.down + other.down := rfl

/-- The bytes of the busier direction. -/
def peak (volume : Volume) : Int := max volume.up volume.down

/-- The two rates of a volume, upload first. -/
def rateText (volume : Volume) : Except NumberError String := Rate.pairText volume.up volume.down

end Volume

/-- Entries in order of falling peaks; entries with equal peaks keep their order. -/
def busiestFirst {α : Type} (volume : α → Volume) (entries : List α) : List α :=
  entries.mergeSort fun entry other => (volume other).peak ≤ (volume entry).peak

end TrafficBoard
