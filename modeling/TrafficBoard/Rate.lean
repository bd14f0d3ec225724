import TrafficBoard.Number.Decimal

/-!
# Rates

A number of bytes per interval is shown in the largest unit whose amount it
exceeds by less than one: whole bytes up to 999, then thousands, millions and
thousands of millions with two places after the point.

The unit is chosen by the exact number, and the places are rounded afterwards,
so an amount just below a threshold can round up to it.
-/

namespace TrafficBoard

/-- The units above the single byte. -/
inductive RateUnit where
  | kilo
  | mega
  | giga
  deriving DecidableEq, Repr

namespace RateUnit

/-- The number of bytes in a unit. -/
def size : RateUnit → Nat
  | .kilo => 1000
  | .mega => 1000000
  | .giga => 1000000000

/-- The name shown after an amount. -/
def label : RateUnit → String
  | .kilo => "KBps"
  | .mega => "MBps"
  | .giga => "GBps"

end RateUnit

/-- A rate as it is shown: whole bytes, hundredths of a larger unit, or no bound. -/
inductive Rate where
  | bytes (count : Int)
  | scaled (unit : RateUnit) (hundredths : Nat)
  | unbounded
  deriving DecidableEq, Repr

namespace Rate

/-- The unit in which a number is shown; none for whole bytes. -/
def unitFor (value : Double) : Option RateUnit :=
  if value.exceeds 999999999 then some .giga
  else if value.exceeds 999999 then some .mega
  else if value.exceeds 999 then some .kilo
  else none

/-- The rate of a number of bytes. -/
def ofDouble (value : Double) : Except NumberError Rate :=
  match unitFor value with
  | some unit =>
      match value.divNat unit.size with
      | .finite _ units => .ok (.scaled unit (Double.fixedCount 2 units))
      | _ => .ok .unbounded
  | none => value.truncate.map .bytes

/-- The rate of an integer count, which must fit a double. -/
def ofCount (count : Int) : Except NumberError Rate := do
  ofDouble (← Double.ofCount count)

/-- The text of a rate. -/
def text : Rate → String
  | .bytes count => toString count ++ "Bps"
  | .scaled unit hundredths => pointedText 2 hundredths ++ unit.label
  | .unbounded => "inf" ++ RateUnit.giga.label

/-- The upload and download rates of two counts, upload first. -/
def pairText (up down : Int) : Except NumberError String := do
  let upload ← ofCount up
  let download ← ofCount down
  return upload.text ++ " / " ++ download.text

end Rate

end TrafficBoard
