import TrafficBoard.Number.Rounding

/-!
# Double precision numbers

A finite double is a sign and a natural count of the smallest positive double,
`2 ^ -1074`. Of these counts only those with at most 53 significant bits occur,
because every operation ends in `Double.round`, which rounds an exact quotient
to the nearest such count and a tie to the even one.

The representation has one value for each double, so equality of doubles is
equality of values, with the two zeros kept apart.
-/

namespace TrafficBoard

/-- A double precision number. A finite one counts multiples of `2 ^ -1074`. -/
inductive Double where
  | finite (negative : Bool) (units : Nat)
  | infinite (negative : Bool)
  | nan
  deriving DecidableEq, Repr, Inhabited

/-- Why a number does not have a double or an integer of its own. -/
inductive NumberError where
  | tooLarge
  | notANumber
  | infinite
  deriving DecidableEq, Repr

/-- What the error says. -/
def NumberError.message : NumberError → String
  | .tooLarge => "int too large to convert to float"
  | .notANumber => "cannot convert float NaN to integer"
  | .infinite => "cannot convert float infinity to integer"

namespace Double

/-- How many units make one. -/
def one : Nat := Nat.pow 2 1074

/-- The first count of units that is too large for a finite double. -/
def limit : Nat := Nat.pow 2 2098

/-- The spacing of the doubles around `units` units is `2 ^ grain units`. -/
def grain (units : Nat) : Nat := Nat.log2 units - 52

/-- The count of units nearest to `numerator / denominator` that has at most 53
significant bits; a tie goes to the even significand. -/
def roundUnits (numerator denominator : Nat) : Nat :=
  let spacing := Nat.pow 2 (grain (numerator / denominator))
  divHalfEven numerator (denominator * spacing) * spacing

/-- The double nearest to a quotient of units. -/
def round (negative : Bool) (numerator denominator : Nat) : Double :=
  let units := roundUnits numerator denominator
  if units < limit then .finite negative units else .infinite negative

/-- The double nearest to an integer. -/
def ofInt (value : Int) : Double :=
  round (value < 0) (value.natAbs * one) 1

/-- The double nearest to `numerator / denominator`. -/
def ofRatio (negative : Bool) (numerator denominator : Nat) : Double :=
  round negative (numerator * one) denominator

/-- The number itself if it is finite. -/
def requireFinite : Double → Except NumberError Double
  | .finite negative units => .ok (.finite negative units)
  | _ => .error .tooLarge

/-- The double nearest to an integer, whose magnitude must not be too large for a
finite one. -/
def ofCount (value : Int) : Except NumberError Double := (ofInt value).requireFinite

/-- Whether a number is greater than a natural bound; a NaN is not. -/
def exceeds (bound : Nat) : Double → Bool
  | .finite negative units => !negative && bound * one < units
  | .infinite negative => !negative
  | .nan => false

/-- Whether a number is greater than zero; a NaN is not. -/
def isPositive (value : Double) : Bool := value.exceeds 0

/-- Whether a number is at most zero; a NaN is not. -/
def isNonpositive : Double → Bool
  | .finite negative units => negative || units == 0
  | .infinite negative => negative
  | .nan => false

/-- The quotient by a positive natural. -/
def divNat : Double → Nat → Double
  | .finite negative units, divisor => round negative units divisor
  | .infinite negative, _ => .infinite negative
  | .nan, _ => .nan

/-- The product, rounded once. -/
def mul : Double → Double → Double
  | .finite negative units, .finite negative' units' =>
      round (negative != negative') (units * units') one
  | .nan, _ => .nan
  | _, .nan => .nan
  | .infinite negative, .infinite negative' => .infinite (negative != negative')
  | .infinite negative, .finite negative' units =>
      if units = 0 then .nan else .infinite (negative != negative')
  | .finite negative units, .infinite negative' =>
      if units = 0 then .nan else .infinite (negative != negative')

/-- The sum, rounded once. A sum that vanishes is negative only if both terms are. -/
def add : Double → Double → Double
  | .finite negative units, .finite negative' units' =>
      if negative = negative' then round negative (units + units') 1
      else if units = units' then .finite false 0
      else if units' < units then round negative (units - units') 1
      else round negative' (units' - units) 1
  | .nan, _ => .nan
  | _, .nan => .nan
  | .infinite negative, .infinite negative' =>
      if negative = negative' then .infinite negative else .nan
  | .infinite negative, .finite _ _ => .infinite negative
  | .finite _ _, .infinite negative => .infinite negative

/-- The integer left when the places after the point are dropped. -/
def truncate : Double → Except NumberError Int
  | .finite negative units =>
      let whole : Int := (units / one : Nat)
      .ok (if negative then -whole else whole)
  | .infinite _ => .error .infinite
  | .nan => .error .notANumber

/-! ## Bit patterns -/

/-- The bit of the sign in a 64 bit pattern. -/
def signBit : Nat := Nat.pow 2 63

/-- The lowest bit of the exponent in a 64 bit pattern; the fraction lies below it. -/
def exponentBit : Nat := Nat.pow 2 52

/-- The double a 64 bit pattern stands for. -/
def ofBits (bits : Nat) : Double :=
  let negative := bits / signBit % 2 = 1
  let field := bits / exponentBit % 2048
  let fraction := bits % exponentBit
  if field = 2047 then (if fraction = 0 then .infinite negative else .nan)
  else if field = 0 then .finite negative fraction
  else .finite negative ((exponentBit + fraction) * Nat.pow 2 (field - 1))

/-- The 64 bit pattern of a double. -/
def toBits : Double → Nat
  | .finite negative units =>
      let sign := if negative then signBit else 0
      if units < exponentBit then sign + units
      else
        sign + (grain units + 1) * exponentBit + (units / Nat.pow 2 (grain units) - exponentBit)
  | .infinite negative => (if negative then signBit else 0) + 2047 * exponentBit
  | .nan => 2047 * exponentBit + exponentBit / 2

/-- The double of a machine number. -/
def ofFloat (value : Float) : Double := ofBits value.toBits.toNat

/-- The machine number of a double. -/
def toFloat (value : Double) : Float := Float.ofBits (UInt64.ofNat value.toBits)

end Double

end TrafficBoard
