import TrafficBoard.Lookup.Resolver
import TrafficBoard.Text.Line
import TrafficBoard.Text.Blank
import TrafficBoard.Traffic.Volume

/-!
# Banners

The first and the last line of the dashboard. The first shows the overall rates;
the last says how to leave and how far hostname resolution has come. A banner
is one line of styled text on the background of the theme.

On a narrow terminal a banner ends before the first word that does not fit; a
first word that does not fit is cut.
-/

namespace TrafficBoard

/-- A line of styled text on a background. -/
structure Banner where
  line : Line
  background : String
  deriving Repr

namespace Banner

/-- The text of a banner. -/
def text (banner : Banner) : String := banner.line.text

/-- The style that lies under the whole banner. -/
def style (banner : Banner) : String := "on " ++ banner.background

/-- A styled part of a text, from one character up to another. -/
structure Span where
  first : Nat
  last : Nat
  style : Style
  deriving DecidableEq, Repr

/-- The styled parts of a line that starts at a character. -/
def spansFrom (first : Nat) : Line → List Span
  | [] => []
  | run :: rest =>
      let last := first + run.text.length
      match run.style with
      | .plain => spansFrom last rest
      | style => ⟨first, last, style⟩ :: spansFrom last rest

/-- The styled parts of a banner. -/
def spans (banner : Banner) : List Span := spansFrom 0 banner.line

/-- The overall rates. -/
def header (theme : Theme) (total : Volume) : Except NumberError Banner := do
  let up ← Rate.ofCount total.up
  let down ← Rate.ofCount total.down
  return {
    line := [⟨[' '], .plain⟩, ⟨"Total Rate Up / Down:".toList, .bold theme.title⟩, ⟨[' '], .plain⟩,
      ⟨up.text.toList, .colour theme.upload⟩, ⟨" / ".toList, .plain⟩,
      ⟨down.text.toList, .colour theme.download⟩]
    background := theme.background }

/-- What the last line says about hostname resolution; nothing while none is going on. -/
def resolutionText? : Option Resolver → Option String
  | none => some "│ hostname resolution off"
  | some resolver =>
      if !resolver.enabled then some "│ hostname resolution off"
      else
        match resolver.pending.length with
        | 0 => none
        | count => some ("│ resolving " ++ toString count ++ " hostnames...")

/-- How to leave, and the state of hostname resolution. -/
def footer (theme : Theme) (resolver : Option Resolver) : Banner where
  line :=
    let style := Style.colour theme.dimText
    [⟨[' '], .plain⟩, ⟨"Press <Ctrl+C> to quit".toList, style⟩] ++
      match resolutionText? resolver with
      | none => []
      | some text => [⟨"  ".toList, .plain⟩, ⟨text.toList, style⟩]
  background := theme.background

/-! ## Wrapping -/

/-- The words of a text, each with the blanks around it that belong to no earlier
word. -/
def wordsFrom : (fuel : Nat) → List Char → List (List Char)
  | 0, _ => []
  | fuel + 1, text =>
      let (before, afterBefore) := text.span Text.isBlank
      let (word, afterWord) := afterBefore.span fun c => !Text.isBlank c
      let (after, rest) := afterWord.span Text.isBlank
      if word.isEmpty then [] else (before ++ word ++ after) :: wordsFrom fuel rest

/-- The characters of the words that fit into what is left of a width. -/
def takeWords (width : Nat) : List (List Char) → List Char
  | [] => []
  | word :: rest =>
      if (Text.trimEnd Text.isBlank word).length ≤ width then
        word ++ takeWords (width - word.length) rest
      else []

/-- The first line of a text wrapped to a width. -/
def firstLine (width : Nat) (text : List Char) : List Char :=
  let words := wordsFrom (text.length + 1) text
  match takeWords width words with
  | [] => text.take width
  | line => line

/-- A banner in the cells of one line of the terminal. -/
def draw (width : Nat) (banner : Banner) : Except Text.CutError Line :=
  Line.fit .plain width [⟨firstLine width banner.line.characters, .plain⟩]

end Banner

end TrafficBoard
