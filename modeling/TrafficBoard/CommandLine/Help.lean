import TrafficBoard.CommandLine.Options

/-!
# Usage and help

The usage line names every switch with its value. Help adds what the program
does and what each switch is for. Both are wrapped at spaces to the width of
the terminal less two.
-/

namespace TrafficBoard.CommandLine

/-- The name of the program. -/
def programName : String := "bandview"

/-- What the program does. -/
def description : String := "Display network utilization by process, connection and remote address"

namespace Switch

/-- The name that stands for the value of a switch. -/
def valueName : Switch → String
  | .refresh => "REFRESH"
  | .scenario => "\x7b" ++ ",".intercalate (Scenario.all.map Scenario.name) ++ "\x7d"
  | _ => ""

/-- A spelling with the name of the value. -/
def spelled (switch : Switch) (spelling : String) : String :=
  if switch.takesValue then spelling ++ " " ++ switch.valueName else spelling

/-- A switch in the usage line. -/
def usage (switch : Switch) : String :=
  "[" ++ switch.spelled (switch.spellings.headD "") ++ "]"

/-- Both spellings in the list of switches. -/
def heading (switch : Switch) : String :=
  ", ".intercalate (switch.spellings.map switch.spelled)

/-- What a switch is for. -/
def purpose : Switch → String
  | .help => "show this help message and exit"
  | .refresh => "Seconds between redraws (default: 1)"
  | .noResolve => "Do not resolve remote addresses to hostnames"
  | .scenario => "Synthetic traffic scenario to display (default: steady)"

end Switch

/-- As many spaces as asked for. -/
def spaces (count : Nat) : String := String.ofList (List.replicate count ' ')

/-- Parts joined by spaces into lines no longer than a width, the next of which starts
at a column. Lines that follow the first start at `indent`. A part that is longer
than a line has one to itself. -/
def fill (width indent : Nat) : (column : Nat) → (line : List String) → List String → List String
  | _, line, [] => if line.isEmpty then [] else [" ".intercalate line]
  | column, line, part :: rest =>
      if width < column + part.length ∧ !line.isEmpty then
        " ".intercalate line :: fill width indent (indent + part.length + 1) [part] rest
      else fill width indent (column + part.length + 1) (line ++ [part]) rest

/-- Words wrapped to a width. -/
def wrap (width : Nat) (words : List String) : List String := fill width 0 0 [] words

/-- The words of a text. -/
def words (text : String) : List String := (Text.pieces ' ' text.toList).map String.ofList

/-- What comes before the usage of the program. -/
def usageLabel : String := "usage: "

/-- The lines of the usage on a terminal, in lines of the given width. -/
def usageLines (width : Int) : List String :=
  let parts := Switch.all.map Switch.usage
  let plain := " ".intercalate (programName :: parts)
  let start := usageLabel.length + programName.length
  if (usageLabel.length + plain.length : Int) ≤ width then [usageLabel ++ plain]
  else if 4 * (start : Int) ≤ 3 * width then
    let indent := start + 1
    match fill width.toNat indent usageLabel.length [] (programName :: parts) with
    | [] => []
    | first :: rest => (usageLabel ++ first) :: rest.map (spaces indent ++ ·)
  else
    let indent := usageLabel.length
    (usageLabel ++ programName) ::
      (fill width.toNat indent indent [] parts).map (spaces indent ++ ·)

/-- The lines about a switch in the help text. -/
def switchLines (width position : Int) (switch : Switch) : List String :=
  let room := (position - 4).toNat
  let heading := switch.heading
  match wrap (max (width - position) 11).toNat (words switch.purpose) with
  | [] => [spaces 2 ++ heading]
  | first :: rest =>
      let rest := rest.map (spaces position.toNat ++ ·)
      if (heading.length : Int) ≤ position - 4 then
        (spaces 2 ++ heading ++ spaces (room - heading.length) ++ spaces 2 ++ first) :: rest
      else (spaces 2 ++ heading) :: (spaces position.toNat ++ first) :: rest

/-- Where the purposes of the switches start. -/
def purposePosition (width : Int) : Int :=
  let longest := (Switch.all.map fun switch => switch.heading.length).foldl max 0
  min ((longest : Int) + 4) (min 24 (max (width - 20) 4))

/-- The text of lines, each with its end. -/
def linesText (lines : List String) : String := String.join (lines.map (· ++ "\n"))

/-- The usage as it is printed on a terminal with a number of columns. -/
def usageText (columns : Int) : String := linesText (usageLines (columns - 2))

/-- The help as it is printed on a terminal with a number of columns. -/
def helpText (columns : Int) : String :=
  let width := columns - 2
  linesText <|
    usageLines width ++ [""] ++ wrap (max width 11).toNat (words description) ++ ["", "options:"] ++
      Switch.all.flatMap (switchLines width (purposePosition width))

end TrafficBoard.CommandLine
