/-!
# Listings

Sentences that enumerate names.

## Main definitions

* `Text.joined`: texts with a separator between them.
* `Text.oneOf`: a choice of quoted names.
-/

namespace LiveBoard.Text

/-- The texts of a list with a separator between them. -/
def joined (separator : String) : List String → String
  | [] => ""
  | [s] => s
  | s :: ss => s ++ separator ++ joined separator ss

/-- A name between backquotes. -/
def backquoted (s : String) : String :=
  "\x60" ++ s ++ "\x60"

/-- A choice of names: the name itself, two names with `or`, or `one of` more. -/
def oneOf (names : List String) : String :=
  match names.map backquoted with
  | [a] => a
  | [a, b] => a ++ " or " ++ b
  | all => "one of " ++ joined ", " all

end LiveBoard.Text
