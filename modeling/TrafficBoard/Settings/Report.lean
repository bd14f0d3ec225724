import TrafficBoard.Settings.Basic
import TrafficBoard.Text.Quoted

/-!
# Reports of faulty settings

A report counts the problems and then gives each with the name of the setting,
what is wrong, and the text. A long text is shown by its two ends.
-/

namespace TrafficBoard

namespace Text

/-- As many leading characters as fit into a number of bytes. -/
def takeBytes : (budget : Nat) → List Char → List Char
  | _, [] => []
  | budget, c :: rest =>
      if c.utf8Size ≤ budget then c :: takeBytes (budget - c.utf8Size) rest else []

/-- A text of at most fifty bytes as it is, a longer one by its ends: at most
twenty-five bytes of its start and twenty-four of its end. -/
def abbreviated (text : String) : String :=
  if text.utf8ByteSize ≤ 50 then text
  else
    let characters := text.toList
    let start := takeBytes 25 characters
    let finish := (takeBytes 24 characters.reverse).reverse
    String.ofList (start ++ "...".toList ++ finish)

end Text

namespace SettingProblem

/-- The lines about a problem. -/
def lines (problem : SettingProblem) : List String :=
  [problem.name,
    "  " ++ problem.fault.message ++ " [type=" ++ problem.fault.label ++ ", input_value=" ++
      Text.abbreviated (Text.quoted problem.input) ++ ", input_type=str]"]

/-- How many problems there are. -/
def countLine (problems : List SettingProblem) : String :=
  toString problems.length ++ " validation error" ++ (if problems.length = 1 then "" else "s") ++
    " for Settings"

/-- The lines of a report. -/
def report (problems : List SettingProblem) : List String :=
  countLine problems :: problems.flatMap lines

end SettingProblem

end TrafficBoard
