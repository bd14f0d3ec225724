/-!
# Rounding a quotient

Quotients of naturals are rounded to the nearest natural, and a quotient that
lies halfway goes to its even neighbour. Everything that becomes inexact in
this library becomes so through `divHalfEven`.

The main statements are `divHalfEven_mul`, by which an exact quotient is kept,
and the bounds `div_le_divHalfEven` and `divHalfEven_le_div_succ`.
-/

namespace TrafficBoard

/-- The natural nearest to `numerator / denominator`; a half goes to the even
neighbour. -/
def divHalfEven (numerator denominator : Nat) : Nat :=
  let quotient := numerator / denominator
  let twice := 2 * (numerator % denominator)
  if twice < denominator then quotient
  else if denominator < twice then quotient + 1
  else if quotient % 2 = 0 then quotient
  else quotient + 1

theorem div_le_divHalfEven (numerator denominator : Nat) :
    numerator / denominator ≤ divHalfEven numerator denominator := by
  unfold divHalfEven
  simp only
  split
  · exact Nat.le_refl _
  · split
    · exact Nat.le_succ _
    · split
      · exact Nat.le_refl _
      · exact Nat.le_succ _

theorem divHalfEven_le_div_succ (numerator denominator : Nat) :
    divHalfEven numerator denominator ≤ numerator / denominator + 1 := by
  unfold divHalfEven
  simp only
  split
  · exact Nat.le_succ _
  · split
    · exact Nat.le_refl _
    · split
      · exact Nat.le_succ _
      · exact Nat.le_refl _

/-- A quotient without remainder is kept. -/
@[simp] theorem divHalfEven_mul (quotient : Nat) {denominator : Nat} (positive : 0 < denominator) :
    divHalfEven (quotient * denominator) denominator = quotient := by
  simp [divHalfEven, Nat.mul_div_cancel _ positive, positive]

end TrafficBoard
