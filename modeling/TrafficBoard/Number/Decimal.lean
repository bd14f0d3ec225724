import TrafficBoard.Number.Double
import TrafficBoard.Text.Blank

/-!
# Decimal text of doubles

A double is shown either with a fixed number of places after the point, rounded
from its exact value, or with the fewest digits that read back as the same
double, the nearest such digits if there are several.

Both ways work on exact naturals. The short form is positional while the
leading digit stands between the fourth place after the point and the sixteenth
before it, and has an exponent of at least two digits elsewhere.
-/

namespace TrafficBoard

/-- A count of hundredths, thousandths and so on, written with a point. -/
def pointedText (places count : Nat) : String :=
  let fraction := toString (count % Nat.pow 10 places)
  toString (count / Nat.pow 10 places) ++ "." ++
    String.ofList (List.replicate (places - fraction.length) '0') ++ fraction

namespace Double

/-- How many `10 ^ -places` a number of units comes to, rounded to nearest with
ties to even. -/
def fixedCount (places units : Nat) : Nat := divHalfEven (units * Nat.pow 10 places) one

/-- A number with a fixed number of places after the point. -/
def fixedText (places : Nat) : Double → String
  | .finite negative units =>
      (if negative then "-" else "") ++ pointedText places (fixedCount places units)
  | .infinite negative => if negative then "-inf" else "inf"
  | .nan => "nan"

/-! ## The fewest digits that read back -/

/-- The number `digits * 10 ^ exponent`. -/
structure Scientific where
  digits : Nat
  exponent : Int
  deriving DecidableEq, Repr

/-- The exponent of the leading decimal digit of a positive number of units. -/
def leadingExponent (units : Nat) : Int :=
  ((Nat.toDigits 10 (units * Nat.pow 10 400 / one)).length : Int) - 401

/-- Four times the number of units in a power-of-ten multiple, over a common
denominator: `(numerator, denominator)`. -/
def quarterUnits (value : Scientific) : Nat × Nat :=
  if 0 ≤ value.exponent then (4 * value.digits * Nat.pow 10 value.exponent.toNat * one, 1)
  else (4 * value.digits * one, Nat.pow 10 (-value.exponent).toNat)

/-- Whether a decimal reads back as the double of the given units: it lies no
further away than half the spacing to either neighbour, and exactly half only
if the significand is even. -/
def readsBack (units : Nat) (value : Scientific) : Bool :=
  let spacing := Nat.pow 2 (grain units)
  let below := if units = exponentBit * spacing ∧ 1 < spacing then spacing else 2 * spacing
  let (numerator, denominator) := quarterUnits value
  let low := (4 * units - below) * denominator
  let high := (4 * units + 2 * spacing) * denominator
  if units / spacing % 2 = 0 then low ≤ numerator && numerator ≤ high
  else low < numerator && numerator < high

/-- The two neighbours of a number of units on the grid of decimals with `count`
digits, nearest first. -/
def decimalNeighbours (units count : Nat) : List Scientific :=
  let exponent := leadingExponent units + 1 - count
  let (numerator, denominator) :=
    if 0 ≤ exponent then (units, one * Nat.pow 10 exponent.toNat)
    else (units * Nat.pow 10 (-exponent).toNat, one)
  let below : Scientific := ⟨numerator / denominator, exponent⟩
  let above : Scientific := ⟨numerator / denominator + 1, exponent⟩
  let nearest := divHalfEven numerator denominator
  if nearest = below.digits then [below, above] else [above, below]

/-- The shortest decimal that reads back as a positive number of units, searched
on finer and finer grids. -/
def shortestFrom (units : Nat) : (fuel count : Nat) → Scientific
  | 0, count => (decimalNeighbours units count).headD ⟨0, 0⟩
  | fuel + 1, count =>
      match (decimalNeighbours units count).find? (readsBack units) with
      | some value => value
      | none => shortestFrom units fuel (count + 1)

/-- The fewest digits that read back; seventeen always suffice. -/
def shortest (units : Nat) : Scientific := shortestFrom units 16 1

/-- Decimal digits placed around a point, the leading one at `leading` places
before (or, if negative, after) the units digit. -/
def positional (digits : List Char) (leading : Int) : List Char :=
  if leading < 0 then '0' :: '.' :: (List.replicate (-leading - 1).toNat '0' ++ digits)
  else
    let before := leading.toNat + 1
    let padded := digits ++ List.replicate (before - digits.length) '0'
    let fraction := padded.drop before
    padded.take before ++ '.' :: (if fraction.isEmpty then ['0'] else fraction)

/-- Decimal digits with a point after the leading one and its exponent, which has
a sign and at least two digits. -/
def exponential (digits : List Char) (leading : Int) : List Char :=
  let exponent := Nat.toDigits 10 leading.natAbs
  let fraction := digits.drop 1
  digits.take 1 ++ (if fraction.isEmpty then [] else '.' :: fraction) ++
    'e' :: (if leading < 0 then '-' else '+') ::
    (List.replicate (2 - exponent.length) '0' ++ exponent)

/-- The short text of a number of units. -/
def shortUnits (units : Nat) : String :=
  if units = 0 then "0.0"
  else
    let value := shortest units
    let digits := Nat.toDigits 10 value.digits
    let leading := value.exponent + digits.length - 1
    let significant := Text.trimEnd (· == '0') digits
    String.ofList <|
      if -4 ≤ leading ∧ leading < 16 then positional significant leading
      else exponential significant leading

/-- A number with the fewest digits that read back as the same double. -/
def text : Double → String
  | .finite negative units => (if negative then "-" else "") ++ shortUnits units
  | .infinite negative => if negative then "-inf" else "inf"
  | .nan => "nan"

end Double

end TrafficBoard
