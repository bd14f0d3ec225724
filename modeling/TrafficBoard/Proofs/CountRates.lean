import TrafficBoard.Proofs.Number.Monotone
import TrafficBoard.Proofs.Rates

/-!
# The rates of counts

A count that has a double is shown in the unit that it reaches itself, because the bounds of the
units are doubles and rounding does not cross them.  Its hundredths are rounded three times: to a
double, in the division by the unit, and to two places.
-/

namespace TrafficBoard

namespace RateUnit

theorem size_pos (unit : RateUnit) : 0 < unit.size := by
  cases unit <;> decide

/-- The hundredths of a unit that the nearest double of a count comes to. -/
def shownHundredths (unit : RateUnit) (count : Nat) : Nat :=
  Double.fixedCount 2 (Double.roundUnits (Double.roundUnits (count * Double.one) 1) unit.size)

theorem shownHundredths_mono (unit : RateUnit) : Monotone unit.shownHundredths := by
  intro count larger le
  apply Double.fixedCount_mono
  apply Double.roundUnits_mono unit.size_pos
  exact Double.roundUnits_mono Nat.one_pos (Nat.mul_le_mul_right Double.one le)

/-- From one unit on, at least one unit is shown. -/
theorem hundred_le_shownHundredths {unit : RateUnit} {count : Nat} (le : unit.size ≤ count) :
    100 ≤ unit.shownHundredths count := by
  have single : unit.shownHundredths unit.size = 100 := by
    cases unit <;> decide +kernel
  exact single ▸ unit.shownHundredths_mono le

/-- Below a thousand units, at most a thousand are shown. -/
theorem shownHundredths_le {unit : RateUnit} {count : Nat} (lt : count < 1000 * unit.size) :
    unit.shownHundredths count ≤ 100000 := by
  have last : unit.shownHundredths (1000 * unit.size) = 100000 := by
    cases unit <;> decide +kernel
  exact last ▸ unit.shownHundredths_mono (Nat.le_of_lt lt)

end RateUnit

namespace Rate

/-- The unit in which a natural count is shown; none for whole bytes. -/
def unitOf (count : Nat) : Option RateUnit :=
  if 999999999 < count then some .giga
  else if 999999 < count then some .mega
  else if 999 < count then some .kilo
  else none

theorem truncate_natural (count : Nat) :
    Double.truncate (.finite false (count * Double.one)) = .ok (count : Int) := by
  simp only [Double.truncate, Nat.mul_div_cancel _ Double.one_pos, Bool.false_eq_true, if_false]

theorem ofDouble_of_unit {value : Double} {unit : RateUnit} {negative : Bool} {units : Nat}
    (chosen : unitFor value = some unit)
    (quotient : value.divNat unit.size = .finite negative units) :
    ofDouble value = .ok (.scaled unit (Double.fixedCount 2 units)) := by
  rw [ofDouble, chosen]
  simp only [quotient]

theorem ofDouble_of_bytes {value : Double} {count : Int} (chosen : unitFor value = none)
    (whole : value.truncate = .ok count) : ofDouble value = .ok (.bytes count) := by
  rw [ofDouble, chosen]
  simp only [whole, Except.map]

/-- The rate of a natural count. -/
def shown (count : Nat) : Rate :=
  match unitOf count with
  | some unit => .scaled unit (unit.shownHundredths count)
  | none => .bytes count

theorem unitFor_rounded (count : Nat) :
    unitFor (.finite false (Double.roundUnits (count * Double.one) 1)) = unitOf count := by
  simp (disch := decide) only [unitFor, unitOf, Double.exceeds, Bool.not_false, Bool.true_and,
    decide_eq_true_eq, Double.mul_one_lt_roundUnits_iff]

/-- Dividing by a unit does not overflow. -/
theorem divNat_rounded {units : Nat} (finite : units < Double.limit) (unit : RateUnit) :
    Double.divNat (.finite false units) unit.size =
      .finite false (Double.roundUnits units unit.size) := by
  apply Double.divNat_of_lt_limit false finite
  cases unit <;> decide

theorem unitOf_eq_some_iff {unit : RateUnit} {count : Nat} :
    unitOf count = some unit ↔ unit.size ≤ count ∧ (count < 1000 * unit.size ∨ unit = .giga) := by
  rw [unitOf]
  cases unit <;> simp only [RateUnit.size] <;> grind

theorem unitOf_eq_none_iff {count : Nat} : unitOf count = none ↔ count ≤ 999 := by
  rw [unitOf]
  grind

theorem ofCount_natural {count : Nat} (below : count < Double.overflow) :
    ofCount count = .ok (shown count) := by
  refine Attempt.bind_eq_ok_iff.2 ⟨_, Double.ofCount_natural below, ?_⟩
  have chosen := unitFor_rounded count
  rw [shown]
  cases unitUsed : unitOf count with
  | some unit =>
      have finite := (Double.roundUnits_lt_limit_iff count).2 below
      exact ofDouble_of_unit (chosen.trans unitUsed) (divNat_rounded finite unit)
  | none =>
      have small : count < 2 ^ 53 :=
        Nat.lt_of_le_of_lt (unitOf_eq_none_iff.1 unitUsed) (by decide)
      apply ofDouble_of_bytes (chosen.trans unitUsed)
      rw [Double.roundUnits_of_lt small, truncate_natural]

end Rate

end TrafficBoard
