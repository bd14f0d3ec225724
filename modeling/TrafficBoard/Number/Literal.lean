import TrafficBoard.Number.Double
import TrafficBoard.Text.Blank

/-!
# Number texts

The forms in which settings and command line options write numbers. A decimal
has an optional sign, digits with an optional point, and an optional exponent,
or is one of the words for an infinity or an undefined value. Reading it rounds
its exact value once.

Underscores may group the digits. On the command line each must stand between
two digits. In settings they only may not start or end the text, nor stand next
to each other. An integer setting may further have leading zeros and a fraction
of zeros.
-/

namespace TrafficBoard.Literal

open Text

/-- Text without its underscores, provided that each stands between two digits. -/
def ungroup? : List Char → Option (List Char)
  | [] => some []
  | [c] => if c = '_' then none else some [c]
  | c :: '_' :: d :: rest =>
      if c.isDigit && d.isDigit then (ungroup? (d :: rest)).map (c :: ·) else none
  | c :: rest => if c = '_' then none else (ungroup? rest).map (c :: ·)

/-- Text without its underscores, provided that none follows another one or ends the
text. `afterOne` says whether an underscore comes just before the text. -/
def ungroupApart? (afterOne : Bool) : List Char → Option (List Char)
  | [] => if afterOne then none else some []
  | c :: rest =>
      if c = '_' then if afterOne then none else ungroupApart? true rest
      else (ungroupApart? false rest).map (c :: ·)

/-- Text without its underscores, provided that none starts or ends it or follows
another one. -/
def ungroupLoosely? (text : List Char) : Option (List Char) := ungroupApart? true text

/-- The sign in front of a text, true for a minus, and what follows it. -/
def splitSign : List Char → Bool × List Char
  | '-' :: rest => (true, rest)
  | '+' :: rest => (false, rest)
  | rest => (false, rest)

/-- The value of a run of digits. -/
def digitsValue (digits : List Char) : Nat :=
  digits.foldl (fun value c => 10 * value + (c.toNat - 0x30)) 0

/-- The leading digits of a text and what follows them. -/
def splitDigits (text : List Char) : List Char × List Char :=
  (text.takeWhile Char.isDigit, text.dropWhile Char.isDigit)

/-- The exponent part of a decimal; an empty text is the exponent zero. -/
def exponent? : List Char → Option Int
  | [] => some 0
  | c :: rest =>
      if c = 'e' ∨ c = 'E' then
        let (negative, digits) := splitSign rest
        if digits.isEmpty || !digits.all Char.isDigit then none
        else some (if negative then -(digitsValue digits : Int) else digitsValue digits)
      else none

/-- The double nearest to `digits * 10 ^ exponent`. Exponents far beyond the range
of doubles are not multiplied out. -/
def scaled (negative : Bool) (digits : Nat) (exponent : Int) : Double :=
  let leading := exponent + (Nat.toDigits 10 digits).length
  if digits = 0 then .finite negative 0
  else if 400 < leading then .infinite negative
  else if leading < -400 then .finite negative 0
  else if 0 ≤ exponent then Double.ofRatio negative (digits * Nat.pow 10 exponent.toNat) 1
  else Double.ofRatio negative digits (Nat.pow 10 (-exponent).toNat)

/-- An unsigned decimal. -/
def magnitude? (negative : Bool) (text : List Char) : Option Double :=
  let word := text.map Char.toLower
  if word = "inf".toList ∨ word = "infinity".toList then some (.infinite negative)
  else if word = "nan".toList then some .nan
  else
    let (whole, afterWhole) := splitDigits text
    let (fraction, afterFraction) :=
      match afterWhole with
      | '.' :: rest => splitDigits rest
      | rest => ([], rest)
    if whole.isEmpty && fraction.isEmpty then none
    else (exponent? afterFraction).map fun exponent =>
      scaled negative (digitsValue (whole ++ fraction)) (exponent - fraction.length)

/-- A decimal with an optional sign. -/
def decimal? (text : List Char) : Option Double :=
  let (negative, rest) := splitSign text
  magnitude? negative rest

/-- A decimal setting: a decimal between white space, or one with underscores and no
white space. -/
def settingDecimal? (text : List Char) : Option Double :=
  (decimal? (trim isWhiteSpace text)).or ((ungroupLoosely? text).bind decimal?)

/-- The integer of a sign and a run of digits. -/
def signedValue (negative : Bool) (digits : List Char) : Int :=
  if negative then -(digitsValue digits : Int) else digitsValue digits

/-! ## Integer settings -/

/-- Why a text is not an integer setting. -/
inductive IntegerFault where
  | malformed
  | tooLong
  deriving DecidableEq, Repr

/-- The most digits that an integer may have. -/
def mostDigits : Nat := 4300

/-- Whether a character is a digit that starts an integer without leading zeros. -/
def isLeadingDigit (c : Char) : Bool := '1' ≤ c && c ≤ '9'

/-- Whether a text has a minus in front, and what follows it. -/
def splitMinus : List Char → Bool × List Char
  | '-' :: rest => (true, rest)
  | rest => (false, rest)

/-- A text whose leading zeros and underscores, the last of which is given, are
dropped. In front of a point and at the end of the text the last one stays. -/
def dropZerosAfter? (last : Char) : List Char → Option (List Char)
  | [] => some [last]
  | c :: rest =>
      if isLeadingDigit c || c == '-' then some (c :: rest)
      else if c = '.' then some (last :: c :: rest)
      else if c = '0' ∨ c = '_' then dropZerosAfter? c rest
      else none

/-- The text of an unsigned integer without leading zeros. -/
def dropLeadingZeros? : List Char → Option (List Char)
  | [] => none
  | c :: rest =>
      if isLeadingDigit c then some (c :: rest)
      else if c = '0' then dropZerosAfter? c rest
      else none

/-- Text without the fraction after its first point, provided that the fraction is one
or more zeros. -/
def dropZeroFraction (text : List Char) : List Char :=
  match text.dropWhile (· ≠ '.') with
  | _ :: '0' :: zeros => if zeros.all (· == '0') then text.takeWhile (· ≠ '.') else text
  | _ => text

/-- Whether a text starts, behind an optional minus, with more digits than an integer
may have. -/
def startsTooLong (text : List Char) : Bool :=
  let digits := (splitDigits (splitMinus text).2).1
  digits.head?.any isLeadingDigit && mostDigits < digits.length

/-- The integer of an optional minus and digits without leading zeros. -/
def plainInteger? (text : List Char) : Option Int :=
  let (negative, digits) := splitMinus text
  if digits = ['0'] then some 0
  else if digits.head?.any isLeadingDigit && digits.all Char.isDigit &&
      digits.length ≤ mostDigits then
    some (signedValue negative digits)
  else none

/-- An integer between white space, as settings write it. -/
def looseInteger? (text : List Char) : Option Int :=
  let (negative, unsigned) := splitSign (trim isWhiteSpace text)
  (dropLeadingZeros? unsigned).bind fun stripped =>
    let whole := dropZeroFraction stripped
    let plain := (ungroupLoosely? whole).getD whole
    plainInteger? (if negative then '-' :: plain else plain)

/-- An integer setting. Too many digits at its start are found before anything that may
be wrong behind them. -/
def settingInteger (text : List Char) : Except IntegerFault Int :=
  if startsTooLong text then .error .tooLong
  else
    match looseInteger? text with
    | some value => .ok value
    | none => .error .malformed

/-! ## Options -/

/-- An integer with an optional sign, of no more than the most digits. -/
def whole? (text : List Char) : Option Int :=
  let (negative, digits) := splitSign text
  if digits.isEmpty || !digits.all Char.isDigit || mostDigits < digits.length then none
  else some (signedValue negative digits)

/-- The digits of every script replaced by those between `0` and `9`. -/
def toAsciiDigits (text : List Char) : List Char :=
  text.map fun c =>
    match decimalValue? c with
    | some value => Char.ofNat (0x30 + value)
    | none => c

/-- The text of a number between white space, in ASCII digits and without the
underscores between its digits. -/
def plainNumber? (text : String) : Option (List Char) :=
  ungroup? (trim isWhiteSpace (toAsciiDigits text.toList))

/-- A decimal between white space, in the digits of any script. -/
def anyDecimal? (text : String) : Option Double := (plainNumber? text).bind decimal?

/-- A whole number between white space, in the digits of any script. -/
def anyWhole? (text : String) : Option Int := (plainNumber? text).bind whole?

end TrafficBoard.Literal
