/-!
# Themes

A theme names the colours of the dashboard. Themes are found by name without
regard to case; an unknown name means the first theme.
-/

namespace TrafficBoard

/-- The colours of the dashboard. -/
structure Theme where
  name : String
  background : String
  border : String
  title : String
  header : String
  text : String
  dimText : String
  upload : String
  download : String
  deriving DecidableEq, Repr

namespace Theme

/-- Warm colours on black. -/
def orange : Theme where
  name := "orange"
  background := "#000000"
  border := "#3d2800"
  title := "#ff8c00"
  header := "#ffb347"
  text := "#d4d4d4"
  dimText := "#707070"
  upload := "#ff8c00"
  download := "#4ec94e"

/-- The colours of the terminal itself. -/
def classic : Theme where
  name := "classic"
  background := "default"
  border := "white"
  title := "white"
  header := "yellow"
  text := "default"
  dimText := "bright_black"
  upload := "default"
  download := "default"

/-- Greys on black. -/
def monochrome : Theme where
  name := "monochrome"
  background := "#000000"
  border := "#777777"
  title := "#ffffff"
  header := "#ffffff"
  text := "#cccccc"
  dimText := "#555555"
  upload := "#ffffff"
  download := "#ffffff"

/-- Every theme; the first one stands in for unknown names. -/
def all : List Theme := [orange, classic, monochrome]

/-- The theme with a name. Lowering basic Latin letters is enough: no other
character has a letter of these names as its lower case. -/
def ofName (name : String) : Theme :=
  (all.find? (·.name.toList = name.toList.map Char.toLower)).getD orange

end Theme

/-- How a run of text is shown. -/
inductive Style where
  | plain
  | colour (name : String)
  | bold (name : String)
  deriving DecidableEq, Repr

/-- The description of a style. -/
def Style.text : Style → String
  | .plain => ""
  | .colour name => name
  | .bold name => "bold " ++ name

end TrafficBoard
