/-!
# Shortening cells

A text that is too long for its column loses its middle, which is replaced by a
marker. The two ends that stay have equal lengths. A column too narrow for one
character on each side of the marker shows the start of the text alone.

Lengths count characters.
-/

namespace TrafficBoard

/-- What stands for the missing middle of a text. -/
def marker : List Char := ['[', '.', '.', ']']

/-- The narrowest width with one character on each side of the marker. -/
def markedWidth : Int := 6

/-- The number of characters kept at each end at a width. -/
def keptAt (width : Int) : Nat := (width / 2 - 2).toNat

/-- A text cut to a width, with a marker in the place of its middle. -/
def shortenChars (text : List Char) (width : Int) : List Char :=
  if (text.length : Int) ≤ width then text
  else if width < markedWidth then text.take width.toNat
  else text.take (keptAt width) ++ marker ++ text.drop (text.length - keptAt width)

/-- A text cut to a width. -/
def shorten (text : String) (width : Int) : String :=
  String.ofList (shortenChars text.toList width)

end TrafficBoard
