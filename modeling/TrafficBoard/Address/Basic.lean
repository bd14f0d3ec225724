import TrafficBoard.Text.Pieces
import TrafficBoard.Text.Quoted

/-!
# Network addresses

An address is either four octets or eight groups of sixteen bits, the latter
with an optional scope. Addresses of the two kinds are never equal, and the
scope takes part in equality.

The text of eight groups is in lower-case hexadecimal without leading zeros. The
longest run of at least two zero groups, the first one if there are several,
is written as a double colon.
-/

namespace TrafficBoard

/-- Eight groups of sixteen bits. -/
structure Groups where
  values : List UInt16
  length_values : values.length = 8
  deriving DecidableEq, Repr

/-- A network address. -/
inductive Address where
  | four (first second third fourth : UInt8)
  | six (groups : Groups) (scope : Option String)
  deriving DecidableEq, Repr

namespace Address

/-- The number of the protocol version that the address belongs to. -/
def version : Address → Nat
  | .four .. => 4
  | .six .. => 6

/-- The decimal digits of an octet. -/
def octetText (octet : UInt8) : List Char := Nat.toDigits 10 octet.toNat

/-- The hexadecimal digits of a group. -/
def groupText (group : UInt16) : List Char := Text.hexDigits group.toNat

/-- The number of zero groups at the front of a list. -/
def zeroRun (groups : List UInt16) : Nat := (groups.takeWhile (· = 0)).length

/-- The start and the length of the longest run of zero groups, the first one if
there are several. -/
def longestZeroRun : List UInt16 → Nat × Nat
  | [] => (0, 0)
  | group :: rest =>
      let here := zeroRun (group :: rest)
      let (start, length) := longestZeroRun rest
      if length ≤ here then (0, here) else (start + 1, length)

/-- Groups joined by colons. -/
def groupsText (groups : List UInt16) : List Char := [':'].intercalate (groups.map groupText)

/-- The text of the groups, with a double colon for the longest run of zeros. -/
def compressedText (groups : List UInt16) : List Char :=
  let (start, length) := longestZeroRun groups
  if length < 2 then groupsText groups
  else groupsText (groups.take start) ++ ':' :: ':' :: groupsText (groups.drop (start + length))

/-- The text of an address as characters. -/
def characters : Address → List Char
  | .four first second third fourth =>
      ['.'].intercalate [octetText first, octetText second, octetText third, octetText fourth]
  | .six groups scope =>
      compressedText groups.values ++
        match scope with
        | some name => '%' :: name.toList
        | none => []

/-- The text of an address. -/
def text (address : Address) : String := String.ofList address.characters

end Address

end TrafficBoard
