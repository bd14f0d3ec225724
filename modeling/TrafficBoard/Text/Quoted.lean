import TrafficBoard.Text.Printable

/-!
# Quoted text

Messages show text between single quotes. A text that holds a single quote and
no double quote stands between double quotes instead. The quote in use, the
backslash and every character without a visible form are written as escapes.
-/

namespace TrafficBoard.Text

/-- A number in lower-case hexadecimal digits. -/
def hexDigits (value : Nat) : List Char := Nat.toDigits 16 value

/-- A number in hexadecimal, filled with zeros to the given width. -/
def hexPadded (width value : Nat) : List Char :=
  let digits := hexDigits value
  List.replicate (width - digits.length) '0' ++ digits

/-- The quote around a text: single, unless only a double one saves escapes. -/
def quoteFor (text : List Char) : Char :=
  if '\'' ∈ text ∧ '"' ∉ text then '"' else '\''

/-- A character as it stands inside quotes. -/
def escape (quote c : Char) : List Char :=
  if c = quote ∨ c = '\\' then ['\\', c]
  else if c = '\n' then ['\\', 'n']
  else if c = '\r' then ['\\', 'r']
  else if c = '\t' then ['\\', 't']
  else if isPrintable c then [c]
  else if c.toNat < 0x100 then '\\' :: 'x' :: hexPadded 2 c.toNat
  else if c.toNat < 0x10000 then '\\' :: 'u' :: hexPadded 4 c.toNat
  else '\\' :: 'U' :: hexPadded 8 c.toNat

/-- A text between quotes, with escapes for what cannot stand there as it is. -/
def quoted (text : String) : String :=
  let quote := quoteFor text.toList
  String.ofList (quote :: (text.toList.flatMap (escape quote) ++ [quote]))

end TrafficBoard.Text
