/-!
# Log notes

What the program tells its log, as values that operations return beside their
results. Every note has a severity, and a log keeps the notes from some severity
on, which is chosen by name. One of the names stands for the form of a note
instead; a log cannot start with that.
-/

namespace TrafficBoard

/-- How important a note is. -/
inductive LogLevel where
  | debug
  | info
  | warning
  | error
  deriving DecidableEq, Repr

/-- The name of a level. -/
def LogLevel.name : LogLevel → String
  | .debug => "DEBUG"
  | .info => "INFO"
  | .warning => "WARNING"
  | .error => "ERROR"

/-- The severity of a level. -/
def LogLevel.severity : LogLevel → Nat
  | .debug => 10
  | .info => 20
  | .warning => 30
  | .error => 40

/-- A note for the log. -/
structure LogNote where
  level : LogLevel
  text : String
  deriving DecidableEq, Repr

/-- What the name of a threshold stands for: a severity, or the form of a note. -/
inductive LogThreshold where
  | severity (value : Nat)
  | form (text : String)
  deriving DecidableEq, Repr

namespace LogThreshold

/-- What the names stand for. -/
def named : List (String × LogThreshold) := [
  ("CRITICAL", .severity 50), ("FATAL", .severity 50), ("ERROR", .severity 40),
  ("WARNING", .severity 30), ("WARN", .severity 30), ("INFO", .severity 20),
  ("DEBUG", .severity 10), ("NOTSET", .severity 0),
  ("BASIC_FORMAT", .form "%(levelname)s:%(name)s:%(message)s")]

/-- A letter in upper case. Besides the letters of ASCII, the dotless i and the long s
have an upper-case letter in ASCII. -/
def upperLetter (c : Char) : Char :=
  if c = 'ı' then 'I' else if c = 'ſ' then 'S' else c.toUpper

/-- What a name stands for, in letters of any case; other names stand for the severity
of plain information. -/
def ofName (name : String) : LogThreshold :=
  let upper := String.ofList (name.toList.map upperLetter)
  match named.find? (·.1 = upper) with
  | some (_, threshold) => threshold
  | none => .severity LogLevel.info.severity

end LogThreshold

end TrafficBoard
