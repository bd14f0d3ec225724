import TrafficBoard.Proofs.Number.Magnitude

/-!
# Integers without a double

The largest finite double is half a spacing below the first integer that overflows.  At
that integer the tie goes to the even significand, which is the one above, so the
boundary itself overflows: `2 ^ 1024 - 2 ^ 970`.

The integers between `2 ^ 1023` and `2 ^ 1024` all have the same spacing, so for them
overflow is a comparison with one quotient.  A smaller integer stays below a power of
two and a larger one above it.
-/

namespace TrafficBoard

/-- A quotient is rounded to less than an even natural exactly if it is more than a half
below it: from the half on, the even natural is the nearer one or wins the tie. -/
theorem divHalfEven_lt_iff {numerator denominator bound : Nat} (positive : 0 < denominator)
    (even : bound % 2 = 0) :
    divHalfEven numerator denominator < bound ↔
      2 * numerator + denominator < 2 * bound * denominator := by
  have parts := Nat.div_add_mod' numerator denominator
  have small := Nat.mod_lt numerator positive
  have lower := div_le_divHalfEven numerator denominator
  have upper := divHalfEven_le_div_succ numerator denominator
  rw [Nat.mul_assoc]
  rcases Nat.lt_trichotomy bound (numerator / denominator + 1) with below | same | above
  · have product := Nat.mul_le_mul_right denominator (Nat.lt_succ_iff.1 below)
    omega
  · -- the quotient is odd, so that the half is rounded up
    have odd : numerator / denominator % 2 ≠ 0 := by omega
    have product : bound * denominator = numerator / denominator * denominator + denominator := by
      rw [same, Nat.succ_mul]
    simp only [divHalfEven, if_neg odd, ite_self]
    split <;> omega
  · have product := Nat.mul_le_mul_right denominator (Nat.succ_le_of_lt above)
    simp only [Nat.succ_mul] at product
    omega

namespace Double

/-- The least magnitude of an integer that no finite double is nearest to. -/
def overflow : Nat := 2 ^ 1024 - 2 ^ 970

theorem two_pow_add (exponent : Nat) : 2 ^ (exponent + 1074) = 2 ^ exponent * one := by
  rw [one_eq, pow_add]

/-- A quotient that reaches a power of two is rounded to at least that power. -/
theorem le_roundUnits {numerator denominator exponent : Nat}
    (le : 2 ^ exponent ≤ numerator / denominator) :
    2 ^ exponent ≤ roundUnits numerator denominator := by
  have nonzero : numerator / denominator ≠ 0 :=
    Nat.ne_of_gt (Nat.lt_of_lt_of_le (Nat.two_pow_pos _) le)
  have logarithm : exponent ≤ (numerator / denominator).log2 := (Nat.le_log2 nonzero).2 le
  -- the spacing divides the largest power of two that the quotient reaches
  obtain ⟨more, sum⟩ : ∃ more, (numerator / denominator).log2 =
      more + grain (numerator / denominator) := Nat.exists_eq_add_of_le' (Nat.sub_le _ 52)
  simp only [roundUnits, Nat.pow_eq]
  generalize grain (numerator / denominator) = step at *
  have steps : 2 ^ more ≤ numerator / (denominator * 2 ^ step) := by
    rw [← Nat.div_div_eq_div_mul, Nat.le_div_iff_mul_le (Nat.two_pow_pos step), ← Nat.pow_add,
      ← sum]
    exact Nat.log2_self_le nonzero
  calc
    2 ^ exponent ≤ 2 ^ (numerator / denominator).log2 := Nat.pow_le_pow_right Nat.two_pos logarithm
    _ = 2 ^ more * 2 ^ step := by rw [sum, Nat.pow_add]
    _ ≤ numerator / (denominator * 2 ^ step) * 2 ^ step := Nat.mul_le_mul_right _ steps
    _ ≤ divHalfEven numerator (denominator * 2 ^ step) * 2 ^ step :=
      Nat.mul_le_mul_right _ (div_le_divHalfEven _ _)

theorem grain_eq {units exponent : Nat} (le : 2 ^ (exponent + 52) ≤ units)
    (lt : units < 2 ^ (exponent + 53)) : grain units = exponent := by
  have nonzero : units ≠ 0 := Nat.ne_of_gt (Nat.lt_of_lt_of_le (Nat.two_pow_pos _) le)
  have lower := (Nat.le_log2 nonzero).2 le
  have upper := (Nat.log2_lt nonzero).2 lt
  rw [grain]
  omega

/-- Where the spacing of an integer is known, it is rounded to less than an even number of
spacings exactly if it is more than half a spacing below. -/
theorem roundUnits_lt_iff {units exponent bound : Nat} (spacing : grain units = exponent)
    (even : bound % 2 = 0) :
    roundUnits units 1 < bound * 2 ^ exponent ↔
      2 * units + 2 ^ exponent < 2 * bound * 2 ^ exponent := by
  have positive : 0 < 2 ^ exponent := Nat.two_pow_pos exponent
  simp only [roundUnits, Nat.div_one, spacing, Nat.one_mul, Nat.pow_eq]
  rw [Nat.mul_lt_mul_right positive, divHalfEven_lt_iff positive even]

/-- Between the last two powers of two below the limit, rounding is to multiples of
`2 ^ 2045` units. -/
theorem roundUnits_lt_limit_iff_of_le {count : Nat} (le : 2 ^ 1023 ≤ count)
    (lt : count < 2 ^ 1024) : roundUnits (count * one) 1 < limit ↔ count < overflow := by
  have lower : 2 ^ (2045 + 52) ≤ count * one := by
    rw [show 2045 + 52 = 1023 + 1074 from rfl, two_pow_add]
    exact Nat.mul_le_mul_right one le
  have upper : count * one < 2 ^ (2045 + 53) := by
    rw [show 2045 + 53 = 1024 + 1074 from rfl, two_pow_add]
    exact Nat.mul_lt_mul_of_pos_right lt one_pos
  have spacing : 2 ^ 2045 = 2 ^ 971 * one := by decide +kernel
  have last : limit = 2 ^ 53 * 2 ^ 2045 := by decide +kernel
  rw [last, roundUnits_lt_iff (grain_eq lower upper) (by decide), spacing, ← Nat.mul_assoc,
    ← Nat.mul_assoc, ← Nat.add_mul, Nat.mul_lt_mul_right one_pos, overflow]
  omega

theorem roundUnits_lt_limit_iff (count : Nat) :
    roundUnits (count * one) 1 < limit ↔ count < overflow := by
  have boundary : 2 ^ 1023 < overflow ∧ overflow < 2 ^ 1024 := by decide +kernel
  rcases Nat.lt_or_ge count (2 ^ 1023) with small | atLeast
  · have product : count * one ≤ 2 ^ (1023 + 1074) * 1 := by
      rw [Nat.mul_one, two_pow_add]
      exact Nat.mul_le_mul_right one (Nat.le_of_lt small)
    have rounded := lt_limit (roundUnits_le Nat.one_pos product) (by decide)
    exact iff_of_true rounded (Nat.lt_trans small boundary.1)
  rcases Nat.lt_or_ge count (2 ^ 1024) with below | large
  · exact roundUnits_lt_limit_iff_of_le atLeast below
  · have product : 2 ^ 2098 ≤ count * one / 1 := by
      rw [Nat.div_one, show 2098 = 1024 + 1074 from rfl, two_pow_add]
      exact Nat.mul_le_mul_right one large
    have rounded := le_roundUnits product
    rw [← limit_eq] at rounded
    exact iff_of_false (Nat.not_lt.2 rounded)
      (Nat.not_lt.2 (Nat.le_trans (Nat.le_of_lt boundary.2) large))

/-- An integer below the boundary has a finite double. -/
theorem exists_ofCount {count : Int} (below : count.natAbs < overflow) :
    ∃ units, ofCount count = .ok (.finite (count < 0) units) := by
  refine ⟨roundUnits (count.natAbs * one) 1, ?_⟩
  simp only [ofCount, ofInt, round]
  rw [if_pos ((roundUnits_lt_limit_iff _).2 below), requireFinite]

/-- An integer from the boundary on has none. -/
theorem ofCount_of_overflow_le {count : Int} (le : overflow ≤ count.natAbs) :
    ofCount count = .error .tooLarge := by
  simp only [ofCount, ofInt, round]
  rw [if_neg fun finite => Nat.not_lt.2 le ((roundUnits_lt_limit_iff _).1 finite), requireFinite]
  simp

end Double

end TrafficBoard
