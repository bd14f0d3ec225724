import TrafficBoard.Address.Basic
import TrafficBoard.Text.Blank

/-!
# Reading addresses

Four octets are decimal numbers up to 255 without leading zeros. Eight groups
are hexadecimal numbers of one to four digits; one double colon may stand for
one or more zero groups, and the last two groups may be written as four octets.
A scope follows a percent sign, is not empty and holds no second one. A slash
is refused wherever it stands.
-/

namespace TrafficBoard.Address

open Text

/-- An octet of one to three decimal digits without a leading zero. -/
def octet? (text : List Char) : Option UInt8 :=
  if text.isEmpty || !text.all Char.isDigit || 3 < text.length then none
  else if text.head? = some '0' ∧ text ≠ ['0'] then none
  else
    let value := text.foldl (fun value c => 10 * value + (c.toNat - 0x30)) 0
    if value ≤ 255 then some (UInt8.ofNat value) else none

/-- Four octets between points. -/
def octets? (text : List Char) : Option (UInt8 × UInt8 × UInt8 × UInt8) :=
  match (pieces '.' text).mapM octet? with
  | some [first, second, third, fourth] => some (first, second, third, fourth)
  | _ => none

/-- The value of a hexadecimal digit. -/
def hexValue? (c : Char) : Option Nat :=
  if '0' ≤ c ∧ c ≤ '9' then some (c.toNat - 0x30)
  else if 'a' ≤ c ∧ c ≤ 'f' then some (c.toNat - 0x57)
  else if 'A' ≤ c ∧ c ≤ 'F' then some (c.toNat - 0x37)
  else none

/-- A group of one to four hexadecimal digits. -/
def group? (text : List Char) : Option UInt16 :=
  if text.isEmpty || 4 < text.length then none
  else
    (text.mapM hexValue?).map fun digits =>
      UInt16.ofNat (digits.foldl (fun value digit => 16 * value + digit) 0)

/-- Two groups of sixteen bits for four octets. -/
def embeddedGroups (octets : UInt8 × UInt8 × UInt8 × UInt8) : List UInt16 :=
  let (first, second, third, fourth) := octets
  [UInt16.ofNat (256 * first.toNat + second.toNat),
    UInt16.ofNat (256 * third.toNat + fourth.toNat)]

/-- Groups between colons; the last piece may be four octets, which make two groups. -/
def groupPieces? : List (List Char) → Option (List UInt16)
  | [] => some []
  | [last] =>
      if '.' ∈ last then (octets? last).map embeddedGroups
      else (group? last).map fun group => [group]
  | piece :: rest =>
      match group? piece, groupPieces? rest with
      | some group, some groups => some (group :: groups)
      | _, _ => none

/-- Groups between colons; no text is no groups. -/
def groupList? (text : List Char) : Option (List UInt16) :=
  if text.isEmpty then some [] else groupPieces? (pieces ':' text)

/-- A list as the groups of an address, if there are eight. -/
def eight? (values : List UInt16) : Option Groups :=
  if eight : values.length = 8 then some ⟨values, eight⟩ else none

/-- The groups of an address text. A double colon stands for at least one group,
and four octets may stand only at the end of the text. -/
def groups? (text : List Char) : Option Groups :=
  match divide? [':', ':'] text with
  | none => (groupList? text).bind eight?
  | some (before, after) =>
      if '.' ∈ before then none
      else
        match groupList? before, groupList? after with
        | some high, some low =>
            let skipped := 8 - (high.length + low.length)
            if skipped = 0 then none
            else eight? (high ++ List.replicate skipped 0 ++ low)
        | _, _ => none

/-- An address of eight groups with an optional scope. -/
def six? (text : List Char) : Option Address :=
  match divide? ['%'] text with
  | none => (groups? text).map fun groups => .six groups none
  | some (before, scope) =>
      if scope.isEmpty || '%' ∈ scope then none
      else (groups? before).map fun groups => .six groups (some (String.ofList scope))

/-- The address that a text stands for. -/
def parse? (text : String) : Option Address :=
  let characters := text.toList
  if '/' ∈ characters then none
  else
    match octets? characters with
    | some (first, second, third, fourth) => some (.four first second third fourth)
    | none => six? characters

/-- The lowest sixteen bits of a number and the groups above them, lowest first. -/
def lowGroups : (count value : Nat) → List UInt16
  | 0, _ => []
  | count + 1, value => UInt16.ofNat (value % 0x10000) :: lowGroups count (value / 0x10000)

@[simp] theorem length_lowGroups (count value : Nat) : (lowGroups count value).length = count := by
  induction count generalizing value with
  | zero => rfl
  | succ count ih => simp [lowGroups, ih]

/-- The address with a number: four octets below `2 ^ 32`, otherwise eight groups. -/
def ofInt? (value : Int) : Option Address :=
  if value < 0 then none
  else
    let bits := value.toNat
    if bits < 0x100000000 then
      some (.four (UInt8.ofNat (bits / 0x1000000)) (UInt8.ofNat (bits / 0x10000 % 0x100))
        (UInt8.ofNat (bits / 0x100 % 0x100)) (UInt8.ofNat (bits % 0x100)))
    else if bits < Nat.pow 2 128 then
      some (.six ⟨(lowGroups 8 bits).reverse, by simp⟩ none)
    else none

/-- A text or number that is no address. -/
inductive Error where
  | badText (text : String)
  | badNumber (value : Int)
  deriving DecidableEq, Repr

/-- What the error says. -/
def Error.message : Error → String
  | .badText text => quoted text ++ " does not appear to be an IPv4 or IPv6 address"
  | .badNumber value => toString value ++ " does not appear to be an IPv4 or IPv6 address"

/-- The address that a text stands for, or why there is none. -/
def parse (text : String) : Except Error Address :=
  match parse? text with
  | some address => .ok address
  | none => .error (.badText text)

/-- The address with a number, or why there is none. -/
def ofInt (value : Int) : Except Error Address :=
  match ofInt? value with
  | some address => .ok address
  | none => .error (.badNumber value)

end TrafficBoard.Address
