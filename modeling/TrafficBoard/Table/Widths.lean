/-!
# Widths

The width that several columns take together.
-/

namespace TrafficBoard

/-- The sum of widths. -/
def totalWidth : List Int → Int
  | [] => 0
  | width :: rest => width + totalWidth rest

@[simp] theorem totalWidth_nil : totalWidth [] = 0 := rfl

@[simp] theorem totalWidth_cons (width : Int) (rest : List Int) :
    totalWidth (width :: rest) = width + totalWidth rest := rfl

end TrafficBoard
