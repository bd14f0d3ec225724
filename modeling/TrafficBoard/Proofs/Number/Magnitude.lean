import Mathlib.Algebra.Order.Ring.Nat
import TrafficBoard.Number.Double

/-!
# Magnitudes of doubles

Rounding never crosses a power of two, because a power of two is a double itself.  A bound
by a power of two is therefore carried through every operation, although each of them
rounds.  Bounds count units: one is `2 ^ 1074` of them.
-/

namespace TrafficBoard

/-- A quotient that is at most a natural is rounded to at most that natural. -/
theorem divHalfEven_le {numerator denominator bound : Nat} (positive : 0 < denominator)
    (le : numerator ≤ bound * denominator) : divHalfEven numerator denominator ≤ bound := by
  rcases Nat.lt_or_eq_of_le le with below | same
  · have quotient : numerator / denominator < bound := (Nat.div_lt_iff_lt_mul positive).2 below
    exact Nat.le_trans (divHalfEven_le_div_succ numerator denominator) quotient
  · exact Nat.le_of_eq (by rw [same, divHalfEven_mul bound positive])

namespace Double

theorem one_eq : one = 2 ^ 1074 := by decide +kernel

theorem limit_eq : limit = 2 ^ 2098 := by decide +kernel

theorem one_pos : 0 < one := by decide +kernel

/-! ## Rounding -/

theorem grain_le {units exponent : Nat} (le : units ≤ 2 ^ exponent) : grain units ≤ exponent := by
  have logarithm : units.log2 ≤ exponent := by
    rcases Nat.eq_zero_or_pos units with rfl | positive
    · rw [Nat.log2_zero]
      exact Nat.zero_le exponent
    · apply Nat.lt_succ_iff.1
      rw [Nat.log2_lt (Nat.ne_of_gt positive)]
      exact Nat.lt_of_le_of_lt le (Nat.pow_lt_pow_right Nat.one_lt_two exponent.lt_succ_self)
  exact Nat.le_trans (Nat.sub_le _ _) logarithm

/-- Rounding does not cross a power of two. -/
theorem roundUnits_le {numerator denominator exponent : Nat} (positive : 0 < denominator)
    (le : numerator ≤ 2 ^ exponent * denominator) :
    roundUnits numerator denominator ≤ 2 ^ exponent := by
  have quotient : numerator / denominator ≤ 2 ^ exponent :=
    Nat.div_le_of_le_mul (Nat.mul_comm _ _ ▸ le)
  -- the spacing below a power of two divides it
  obtain ⟨more, sum⟩ := Nat.exists_eq_add_of_le' (grain_le quotient)
  have steps : 2 ^ exponent = 2 ^ more * 2 ^ grain (numerator / denominator) := by
    rw [← pow_add, ← sum]
  simp only [roundUnits, Nat.pow_eq]
  rw [steps]
  apply Nat.mul_le_mul_right
  apply divHalfEven_le (Nat.mul_pos positive (Nat.pow_pos Nat.two_pos))
  rw [← Nat.mul_assoc, Nat.mul_right_comm, ← steps]
  exact le

theorem lt_limit {units exponent : Nat} (bound : units ≤ 2 ^ exponent)
    (small : exponent < 2098) : units < limit := by
  rw [limit_eq]
  exact Nat.lt_of_le_of_lt bound (pow_lt_pow_right₀ Nat.one_lt_two small)

/-- A count below the limit, divided by two or more, is not rounded up to the limit. -/
theorem roundUnits_lt_limit {units divisor : Nat} (finite : units < limit)
    (several : 2 ≤ divisor) : roundUnits units divisor < limit := by
  -- a variable for the exponent, so that the power stays as it is
  obtain ⟨exponent, last⟩ : ∃ exponent, 2098 = exponent + 1 := ⟨2097, rfl⟩
  have bound : units ≤ 2 ^ exponent * divisor := by
    rw [limit_eq, last, Nat.pow_succ] at finite
    exact Nat.le_of_lt (Nat.lt_of_lt_of_le finite (Nat.mul_le_mul_left _ several))
  exact lt_limit (roundUnits_le (Nat.lt_of_lt_of_le Nat.two_pos several) bound) (by omega)

/-! ## Finite doubles -/

/-- A double that is neither infinite nor without a value: its units are below the limit. -/
def IsFinite (value : Double) : Prop :=
  ∃ negative units, value = .finite negative units ∧ units < limit

/-- A finite double with a sign and at most `2 ^ exponent` units. -/
def Within (negative : Bool) (exponent : Nat) (value : Double) : Prop :=
  ∃ units, value = .finite negative units ∧ units ≤ 2 ^ exponent

variable {negative otherNegative : Bool} {exponent otherExponent : Nat} {value other : Double}

/-- An integer that has a double has a finite one. -/
theorem isFinite_of_ofCount {count : Int} (done : ofCount count = .ok value) :
    value.IsFinite := by
  simp only [ofCount, ofInt, round] at done
  split at done
  · next small =>
      cases done
      exact ⟨_, _, rfl, small⟩
  · cases done

theorem divNat_of_lt_limit (negative : Bool) {units divisor : Nat} (finite : units < limit)
    (several : 2 ≤ divisor) :
    divNat (.finite negative units) divisor = .finite negative (roundUnits units divisor) := by
  rw [divNat, round, if_pos (roundUnits_lt_limit finite several)]

theorem IsFinite.divNat (finite : value.IsFinite) {divisor : Nat} (several : 2 ≤ divisor) :
    (value.divNat divisor).IsFinite := by
  obtain ⟨negative, units, rfl, small⟩ := finite
  exact ⟨negative, _, divNat_of_lt_limit negative small several,
    roundUnits_lt_limit small several⟩

theorem Within.mono (within : value.Within negative exponent) (le : exponent ≤ otherExponent) :
    value.Within negative otherExponent := by
  obtain ⟨units, same, bound⟩ := within
  exact ⟨units, same, Nat.le_trans bound (Nat.pow_le_pow_right Nat.two_pos le)⟩

theorem within_round (negative : Bool) {numerator denominator : Nat}
    (positive : 0 < denominator) (le : numerator ≤ 2 ^ exponent * denominator)
    (small : exponent < 2098) : (round negative numerator denominator).Within negative exponent := by
  have bound := roundUnits_le positive le
  rw [round]
  exact ⟨_, if_pos (lt_limit bound small), bound⟩

theorem within_ofInt {count : Int} (le : count.natAbs ≤ 2 ^ exponent) (small : exponent < 1024) :
    (ofInt count).Within (count < 0) (exponent + 1074) := by
  rw [ofInt]
  apply within_round _ Nat.one_pos
  · rw [Nat.mul_one, pow_add, ← one_eq]
    exact Nat.mul_le_mul_right one le
  · exact Nat.add_lt_add_right small 1074

/-- An integer below `2 ^ 1024` has a double if a smaller power of two bounds it. -/
theorem ofCount_of_natAbs_le {count : Int} (le : count.natAbs ≤ 2 ^ exponent)
    (small : exponent < 1024) : ofCount count = .ok (ofInt count) := by
  obtain ⟨units, same, -⟩ := within_ofInt le small
  rw [ofCount, same, requireFinite]

theorem Within.mul (within : value.Within negative (1074 + exponent))
    (otherWithin : other.Within otherNegative otherExponent)
    (small : exponent + otherExponent < 2098) :
    (value.mul other).Within (negative != otherNegative) (exponent + otherExponent) := by
  obtain ⟨units, rfl, bound⟩ := within
  obtain ⟨otherUnits, rfl, otherBound⟩ := otherWithin
  rw [Double.mul]
  apply within_round _ one_pos _ small
  calc
    units * otherUnits ≤ 2 ^ (1074 + exponent) * 2 ^ otherExponent :=
      Nat.mul_le_mul bound otherBound
    _ = one * 2 ^ exponent * 2 ^ otherExponent := by rw [one_eq, pow_add]
    _ = 2 ^ (exponent + otherExponent) * one := by
      rw [Nat.mul_assoc, ← pow_add, Nat.mul_comm]

theorem ofInt_one : ofInt 1 = .finite false one := by decide +kernel

/-- One and a number that is not below minus one are together not negative. -/
theorem Within.one_add (within : value.Within negative 1074) :
    ((ofInt 1).add value).Within false 1075 := by
  obtain ⟨units, rfl, bound⟩ := within
  rw [← one_eq] at bound
  have double : one + one = 2 ^ 1075 * 1 := by decide +kernel
  rw [ofInt_one, add]
  cases negative with
  | false =>
      rw [if_pos rfl]
      apply within_round _ Nat.one_pos _ (by decide)
      rw [← double]
      exact Nat.add_le_add_left bound one
  | true =>
      rw [if_neg Bool.false_ne_true]
      split
      · exact ⟨0, rfl, Nat.zero_le _⟩
      · next different =>
          rw [if_pos (Nat.lt_of_le_of_ne bound fun same => different same.symm)]
          apply within_round _ Nat.one_pos _ (by decide)
          rw [← double]
          exact Nat.le_trans (Nat.sub_le one units) (Nat.le_add_right one one)

/-- What is left without the places after the point is bounded as the number is. -/
theorem Within.truncate (within : value.Within false (1074 + exponent)) :
    ∃ count : Nat, value.truncate = .ok (count : Int) ∧ count ≤ 2 ^ exponent := by
  obtain ⟨units, rfl, bound⟩ := within
  refine ⟨units / one, rfl, ?_⟩
  apply Nat.div_le_of_le_mul
  calc
    units ≤ 2 ^ (1074 + exponent) := bound
    _ = one * 2 ^ exponent := by rw [one_eq, pow_add]

end Double

end TrafficBoard
