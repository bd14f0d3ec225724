/-!
# Pieces of a text

A text is divided at every occurrence of a separator, or once at the first
occurrence.
-/

namespace TrafficBoard.Text

/-- The pieces of a text between the occurrences of a separator. -/
def pieces (separator : Char) : List Char → List (List Char)
  | [] => [[]]
  | c :: rest =>
      if c = separator then [] :: pieces separator rest
      else
        match pieces separator rest with
        | piece :: others => (c :: piece) :: others
        | [] => [[c]]

theorem pieces_ne_nil (separator : Char) (text : List Char) : pieces separator text ≠ [] := by
  cases text with
  | nil => simp [pieces]
  | cons c rest =>
      unfold pieces
      split
      · simp
      · split <;> simp

/-- A text without the separator is one piece. -/
theorem pieces_of_not_mem {separator : Char} {text : List Char} (absent : separator ∉ text) :
    pieces separator text = [text] := by
  induction text with
  | nil => rfl
  | cons c rest ih =>
      simp only [List.mem_cons, not_or] at absent
      simp [pieces, ih absent.2, Ne.symm absent.1]

/-- The text before and after the first occurrence of a separator. -/
def divide? (separator : List Char) : List Char → Option (List Char × List Char)
  | [] => if separator.isEmpty then some ([], []) else none
  | c :: rest =>
      if separator.isPrefixOf (c :: rest) then some ([], (c :: rest).drop separator.length)
      else (divide? separator rest).map fun parts => (c :: parts.1, parts.2)

end TrafficBoard.Text
