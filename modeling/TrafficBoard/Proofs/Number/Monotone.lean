import Mathlib.Order.Monotone.Basic
import TrafficBoard.Number.Decimal
import TrafficBoard.Proofs.Number.Overflow

/-!
# Rounding keeps order

A larger number is never rounded to a smaller one.  This holds of quotients, of doubles and of
decimal places, and so of everything that is made of them.

An integer of at most 53 bits is a double itself, so that nothing is rounded there.
-/

namespace TrafficBoard

theorem divHalfEven_mono (denominator : Nat) : Monotone (divHalfEven · denominator) := by
  intro numerator larger le
  have quotients : numerator / denominator ≤ larger / denominator := Nat.div_le_div_right le
  rcases Nat.lt_or_eq_of_le quotients with less | same
  · calc
      divHalfEven numerator denominator ≤ numerator / denominator + 1 :=
        divHalfEven_le_div_succ numerator denominator
      _ ≤ larger / denominator := less
      _ ≤ divHalfEven larger denominator := div_le_divHalfEven larger denominator
  · -- with equal quotients, the remainders are in order
    have remainders : numerator % denominator ≤ larger % denominator := by
      have first := Nat.div_add_mod numerator denominator
      have second := Nat.div_add_mod larger denominator
      rw [same] at first
      omega
    simp only [divHalfEven, same]
    repeat' split
    all_goals omega

namespace Double

/-- Between two numbers with different spacings lies the power of two that the larger one
reaches. -/
theorem lt_two_pow_log2 {units larger : Nat} (le : units ≤ larger)
    (spacings : grain units ≠ grain larger) : units < 2 ^ larger.log2 := by
  by_contra reached
  rw [Nat.not_lt] at reached
  have nonzero : units ≠ 0 := Nat.ne_of_gt (Nat.lt_of_lt_of_le (Nat.two_pow_pos _) reached)
  have largerNonzero : larger ≠ 0 := fun none => nonzero (Nat.le_zero.1 (none ▸ le))
  have same : units.log2 = larger.log2 := by
    apply Nat.le_antisymm
    · exact (Nat.le_log2 largerNonzero).2 (Nat.le_trans (Nat.log2_self_le nonzero) le)
    · exact (Nat.le_log2 nonzero).2 reached
  exact spacings (by rw [grain, grain, same])

theorem roundUnits_mono {denominator : Nat} (positive : 0 < denominator) :
    Monotone (roundUnits · denominator) := by
  intro numerator larger le
  have quotients : numerator / denominator ≤ larger / denominator := Nat.div_le_div_right le
  by_cases spacings : grain (numerator / denominator) = grain (larger / denominator)
  · simp only [roundUnits, spacings]
    exact Nat.mul_le_mul_right _ (divHalfEven_mono _ le)
  · have below := lt_two_pow_log2 quotients spacings
    have nonzero : larger / denominator ≠ 0 := by
      intro none
      rw [none, Nat.le_zero] at quotients
      exact spacings (by rw [quotients, none])
    calc
      roundUnits numerator denominator ≤ 2 ^ (larger / denominator).log2 :=
        roundUnits_le positive (Nat.le_of_lt ((Nat.div_lt_iff_lt_mul positive).1 below))
      _ ≤ roundUnits larger denominator := le_roundUnits (Nat.log2_self_le nonzero)

theorem fixedCount_mono (places : Nat) : Monotone (fixedCount places) :=
  fun _ _ le => divHalfEven_mono one (Nat.mul_le_mul_right _ le)

/-! ## Integers that are doubles -/

theorem mul_one_lt {count exponent : Nat} (small : count < 2 ^ exponent) :
    count * one < 2 ^ (1074 + exponent) := by
  rw [Nat.add_comm, two_pow_add]
  exact Nat.mul_lt_mul_of_pos_right small one_pos

/-- A number of at most 53 bits more than the exponent is spaced by at most that power. -/
theorem grain_le_of_lt {units exponent : Nat} (lt : units < 2 ^ (exponent + 53)) :
    grain units ≤ exponent := by
  rcases Nat.eq_zero_or_pos units with rfl | positive
  · exact Nat.zero_le exponent
  · have logarithm := (Nat.log2_lt (Nat.ne_of_gt positive)).2 lt
    rw [grain]
    omega

/-- An integer of at most 53 bits is not rounded. -/
theorem roundUnits_of_lt {count : Nat} (small : count < 2 ^ 53) :
    roundUnits (count * one) 1 = count * one := by
  have fine : grain (count * one) ≤ 1074 := grain_le_of_lt (mul_one_lt small)
  -- the spacing divides one
  obtain ⟨more, sum⟩ := Nat.exists_eq_add_of_le' fine
  have steps : count * one = count * 2 ^ more * 2 ^ grain (count * one) := by
    rw [Nat.mul_assoc, ← Nat.pow_add, ← sum, one_eq]
  simp only [roundUnits, Nat.div_one, Nat.one_mul, Nat.pow_eq]
  generalize grain (count * one) = step at steps
  rw [steps, divHalfEven_mul _ (Nat.two_pow_pos step)]

/-- A count that is not too large has its nearest double. -/
theorem ofCount_natural {count : Nat} (below : count < overflow) :
    ofCount count = .ok (.finite false (roundUnits (count * one) 1)) := by
  have sign : decide ((count : Int) < 0) = false := by simp
  simp only [ofCount, ofInt, round, Int.natAbs_natCast, sign]
  rw [if_pos ((roundUnits_lt_limit_iff count).2 below), requireFinite]

/-- A count exceeds a bound that is a double exactly if its nearest double does. -/
theorem mul_one_lt_roundUnits_iff {bound count : Nat} (small : bound < 2 ^ 52) :
    bound * one < roundUnits (count * one) 1 ↔ bound < count := by
  have order := roundUnits_mono Nat.one_pos
  constructor
  · intro above
    by_contra le
    have rounded : roundUnits (count * one) 1 ≤ roundUnits (bound * one) 1 :=
      order (Nat.mul_le_mul_right one (Nat.not_lt.1 le))
    rw [roundUnits_of_lt (Nat.lt_trans small (by decide))] at rounded
    exact Nat.lt_irrefl _ (Nat.lt_of_lt_of_le above rounded)
  · intro less
    have rounded : roundUnits ((bound + 1) * one) 1 ≤ roundUnits (count * one) 1 :=
      order (Nat.mul_le_mul_right one less)
    rw [roundUnits_of_lt (Nat.lt_of_le_of_lt small (by decide))] at rounded
    exact Nat.lt_of_lt_of_le (Nat.mul_lt_mul_of_pos_right bound.lt_succ_self one_pos) rounded

end Double

end TrafficBoard
