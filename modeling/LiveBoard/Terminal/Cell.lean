import LiveBoard.Text.Width

/-!
# Cells

A table on a terminal keeps its columns apart by the width of the texts in them. A text that is too
short is padded with blanks, and one that is too wide is cut and ends in two dots.

## Main definitions

* `Terminal.screenWidth`: the width of the terminal.
* `Terminal.padded`: a text with blanks behind it up to a width.
* `Terminal.clipped`: a text cut to a width.
-/

namespace LiveBoard.Terminal

/-- The width of the terminal, in columns. -/
def screenWidth : Nat := 80

/-- `n` limited to the numbers from `low` to `high`. -/
def clamp (low high n : Nat) : Nat := max low (min high n)

/-- `n` blanks. -/
def blanks (n : Nat) : String := String.ofList (List.replicate n ' ')

/-- The text with blanks behind it up to a width, and as it is if it is as wide as that. -/
def padded (width : Nat) (s : String) : String := s ++ blanks (width - Text.width s)

/-- The text with blanks behind it up to a number of characters. -/
def paddedByLength (length : Nat) (s : String) : String := s ++ blanks (length - s.length)

/-- The longest beginning of the characters whose own widths add up to no more than `room`. -/
def fitting (room : Nat) : List Char → List Char
  | [] => []
  | c :: cs =>
    if Text.charWidth c ≤ room then c :: fitting (room - Text.charWidth c) cs else []

/-- The text cut to a width: as it is if it fits, otherwise its beginning and two dots. Where
there is no room for a beginning, only dots are left. -/
def clipped (width : Nat) (s : String) : String :=
  if Text.width s ≤ width then s
  else if width ≤ 3 then String.ofList (List.replicate width '.')
  else String.ofList (fitting (width - 2) s.toList) ++ ".."

end LiveBoard.Terminal
