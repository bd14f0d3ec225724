import TrafficBoard.Keyed
import TrafficBoard.Text.Blank

/-!
# Files of environment variables

A file holds one binding a line: a name, an equals sign and a value. The word
`export` may stand before the name. Values are bare, and then end at a comment
that follows a blank, or stand between quotes, and then may hold escapes and
line breaks. A name without an equals sign is bound to no value. A line that is
not of this form is skipped, and so is a byte order mark at the start of the
file.

Values may refer to earlier bindings and to the environment as `${NAME}`, with a
default after `:-`. A later binding of a name replaces the earlier one.
-/

namespace TrafficBoard.EnvFile

open Text

/-- A blank that does not end a line. -/
def isLineBlank (c : Char) : Bool := isBlank c && c != '\n' && c != '\r'

/-- Line ends of every kind as line feeds. -/
def unifyLineEnds : List Char → List Char
  | '\r' :: '\n' :: rest => '\n' :: unifyLineEnds rest
  | '\r' :: rest => '\n' :: unifyLineEnds rest
  | c :: rest => c :: unifyLineEnds rest
  | [] => []

/-- What stands before the closing quote and after it, given the text after the
opening quote. The character after a backslash does not close. -/
def closeQuote? (quote : Char) : List Char → Option (List Char × List Char)
  | [] => none
  | '\\' :: c :: rest =>
      (closeQuote? quote rest).map fun parts => ('\\' :: c :: parts.1, parts.2)
  | c :: rest =>
      if c = quote then some ([], rest)
      else (closeQuote? quote rest).map fun parts => (c :: parts.1, parts.2)

/-- The character that an escape stands for, in a value between the given quotes. -/
def escaped? (quote c : Char) : Option Char :=
  if c = '\\' ∨ c = '\'' then some c
  else if quote = '\'' then none
  else
    match c with
    | '"' => some '"'
    | 'a' => some '\x07'
    | 'b' => some '\x08'
    | 'f' => some '\x0c'
    | 'n' => some '\n'
    | 'r' => some '\r'
    | 't' => some '\t'
    | 'v' => some '\x0b'
    | _ => none

/-- A quoted value with its escapes replaced. -/
def unescape (quote : Char) : List Char → List Char
  | '\\' :: c :: rest =>
      match escaped? quote c with
      | some plain => plain :: unescape quote rest
      | none => '\\' :: unescape quote (c :: rest)
  | c :: rest => c :: unescape quote rest
  | [] => []

/-- A bare value without the comment that follows a blank. -/
def dropComment : List Char → List Char
  | [] => []
  | c :: rest =>
      if isBlank c && rest.head? = some '#' then [] else c :: dropComment rest

/-- The rest of the line, and the text from its end on. -/
def splitLine (text : List Char) : List Char × List Char := text.span (· ≠ '\n')

/-- A value that starts where the blanks after the equals sign end, and the text after
it; nothing if a quote is not closed. -/
def startedValue? : List Char → Option (List Char × List Char)
  | '\'' :: rest => (closeQuote? '\'' rest).map fun parts => (unescape '\'' parts.1, parts.2)
  | '"' :: rest => (closeQuote? '"' rest).map fun parts => (unescape '"' parts.1, parts.2)
  | text =>
      let (line, after) := splitLine text
      some (trimEnd isBlank (dropComment line), after)

/-- The value behind an equals sign, and the text after it. A comment that follows a
blank leaves it empty. -/
def value? (afterSign : List Char) : Option (List Char × List Char) :=
  let start := afterSign.dropWhile isLineBlank
  if start.head? = some '#' ∧ afterSign.head? ≠ some '#' then some ([], start)
  else startedValue? start

/-- A text without the word `export` and the blanks that must follow it. -/
def dropExport (text : List Char) : List Char :=
  let word := ['e', 'x', 'p', 'o', 'r', 't']
  if word.isPrefixOf text then
    let rest := text.drop word.length
    if rest.head?.any isLineBlank then rest.dropWhile isLineBlank else text
  else text

/-- A name, bare or between single quotes, and the text after it. -/
def name? : List Char → Option (List Char × List Char)
  | '\'' :: rest =>
      let (name, after) := rest.span (· ≠ '\'')
      if name.isEmpty then none
      else
        match after with
        | _ :: after => some (name, after)
        | [] => none
  | text =>
      let (name, after) := text.span fun c => c != '=' && c != '#' && !isBlank c
      if name.isEmpty then none else some (name, after)

/-- The text after an optional comment and the end of the line, which must follow. -/
def endLine? (text : List Char) : Option (List Char) :=
  let atComment := text.dropWhile isLineBlank
  let rest := if atComment.head? = some '#' then (splitLine atComment).2 else atComment
  match rest with
  | [] => some []
  | '\n' :: rest => some rest
  | _ => none

/-- What a line says: a name with a value or without one, or nothing. -/
inductive Binding where
  | bound (name : String) (value : Option String)
  | nothing
  deriving DecidableEq, Repr

/-- The text after the end of the line. -/
def skipLine (text : List Char) : List Char := ((splitLine text).2).drop 1

/-- The binding at the front of a text that does not start with a blank, and the
text after its line. -/
def binding (text : List Char) : Binding × List Char :=
  if text.head? = some '#' then (.nothing, skipLine text)
  else
    let start := dropExport text
    match (if start.head? = some '#' then some ([], start) else name? start) with
    | none => (.nothing, skipLine start)
    | some (name, afterName) =>
        let afterBlank := afterName.dropWhile isLineBlank
        match afterBlank with
        | '=' :: afterSign =>
            match value? afterSign with
            | none => (.nothing, skipLine (afterSign.dropWhile isLineBlank))
            | some (value, afterValue) =>
                match endLine? afterValue with
                | some rest => (.bound (String.ofList name) (some (String.ofList value)), rest)
                | none => (.nothing, skipLine afterValue)
        | _ =>
            match endLine? afterBlank with
            | some rest =>
                (if name.isEmpty then .nothing else .bound (String.ofList name) none, rest)
            | none => (.nothing, skipLine afterBlank)

/-- The bindings of a text, read from line to line. -/
def bindingsFrom : (fuel : Nat) → List Char → List Binding
  | 0, _ => []
  | fuel + 1, text =>
      match text.dropWhile isBlank with
      | [] => []
      | start =>
          let (first, rest) := binding start
          first :: bindingsFrom fuel rest

/-- Text without the byte order mark that it may start with. -/
def dropByteOrderMark : List Char → List Char
  | '\ufeff' :: rest => rest
  | text => text

/-- The bindings of a file in order. -/
def bindings (text : String) : List Binding :=
  let characters := unifyLineEnds (dropByteOrderMark text.toList)
  bindingsFrom (characters.length + 1) characters

/-! ## References -/

/-- A piece of a value: a character as it is, or a reference with its default. -/
inductive Piece where
  | character (c : Char)
  | reference (name default : String)
  deriving DecidableEq, Repr

/-- The reference at the front of a text that follows `${`, and the text after it. -/
def reference? (text : List Char) : Option (Piece × List Char) :=
  let (name, after) := text.span fun c => c != '\x7d' && c != ':'
  match after with
  | '\x7d' :: rest => some (.reference (String.ofList name) "", rest)
  | ':' :: '-' :: rest =>
      let (default, after) := rest.span (· ≠ '\x7d')
      match after with
      | _ :: after => some (.reference (String.ofList name) (String.ofList default), after)
      | [] => none
  | _ => none

/-- The pieces of a value. -/
def piecesFrom : (fuel : Nat) → List Char → List Piece
  | 0, _ => []
  | _ + 1, [] => []
  | fuel + 1, c :: rest =>
      match c, rest with
      | '$', '\x7b' :: inside =>
          match reference? inside with
          | some (piece, after) => piece :: piecesFrom fuel after
          | none => .character c :: piecesFrom fuel rest
      | _, _ => .character c :: piecesFrom fuel rest

/-- The text of a piece, from the bindings so far and the environment. -/
def Piece.text (bound : Keyed String (Option String)) (environment : Keyed String String) :
    Piece → String
  | .character c => String.ofList [c]
  | .reference name default =>
      match bound.find? name with
      | some value => value.getD ""
      | none => (environment.find? name).getD default

/-- A value with its references replaced. -/
def expand (bound : Keyed String (Option String)) (environment : Keyed String String)
    (value : String) : String :=
  let characters := value.toList
  String.join ((piecesFrom (characters.length + 1) characters).map (·.text bound environment))

/-- The pieces of every value in a file. -/
def allPieces (text : String) : List Piece :=
  (bindings text).flatMap fun binding =>
    match binding with
    | .bound _ (some value) => piecesFrom (value.length + 1) value.toList
    | _ => []

/-- The names that a file refers to. -/
def references (text : String) : List String :=
  (allPieces text).filterMap fun piece =>
    match piece with
    | .reference name _ => some name
    | .character _ => none

/-- The names that a file binds, with their values. -/
def parse (text : String) (environment : Keyed String String) : Keyed String (Option String) :=
  (bindings text).foldl
    (fun bound binding =>
      match binding with
      | .bound name value => bound.insert name (value.map (expand bound environment))
      | .nothing => bound)
    .empty

end TrafficBoard.EnvFile
