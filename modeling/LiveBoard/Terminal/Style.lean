/-!
# Styles

What a program writes to a terminal is made of lines, and a line of pieces with a style each. A
terminal is told of a style by a control sequence before the piece, and a second one after it ends
all styles. A program that writes without colours leaves the sequences out.

## Main definitions

* `Style`: weight and colour of a piece of text, with `Style.sequence`.
* `Span`: a piece of text in a style.
* `Span.render`, `Line.render`: what is written, with styles or without.
-/

namespace LiveBoard.Terminal

/-- The colours of a terminal. -/
inductive Colour
  | red
  | green
  | yellow
  | blue
  | magenta
  | cyan
deriving DecidableEq, Repr

/-- The number of a colour in a control sequence. -/
def Colour.code : Colour → String
  | red => "31"
  | green => "32"
  | yellow => "33"
  | blue => "34"
  | magenta => "35"
  | cyan => "36"

/-- A style of text. -/
structure Style where
  bold : Bool := false
  dim : Bool := false
  colour : Option Colour := none
deriving DecidableEq, Repr

namespace Style

/-- Text as it is. -/
def normal : Style := { }

/-- The numbers of a style in a control sequence: the weight before the colour. -/
def codes (s : Style) : List String :=
  (if s.bold then ["1"] else []) ++ (if s.dim then ["2"] else [])
    ++ (s.colour.map Colour.code).toList

/-- The control sequence that begins a style. -/
def sequence (s : Style) : List Char :=
  '\x1b' :: '[' :: ((String.intercalate ";" s.codes).toList ++ ['m'])

end Style

/-- The control sequence that ends all styles. -/
def reset : List Char := ['\x1b', '[', '0', 'm']

/-- The text with `style` begun again behind every place in it where all styles end. -/
def resumed (style : List Char) : List Char → List Char
  | '\x1b' :: '[' :: '0' :: 'm' :: rest => reset ++ style ++ resumed style rest
  | c :: rest => c :: resumed style rest
  | [] => []

/-- A piece of text in a style. -/
structure Span where
  style : Style
  text : String
deriving DecidableEq, Repr

/-- A piece of text as it is. -/
def plain (text : String) : Span := ⟨.normal, text⟩

/-- A bold piece of text. -/
def bold (text : String) : Span := ⟨{ bold := true }, text⟩

/-- A dim piece of text. -/
def dim (text : String) : Span := ⟨{ dim := true }, text⟩

/-- A piece of text in a colour. -/
def coloured (colour : Colour) (text : String) : Span := ⟨{ colour := some colour }, text⟩

/-- What is written for a piece of text. A piece in a style is set in its sequences even if it is
empty. -/
def Span.render (hasColour : Bool) (s : Span) : String :=
  if hasColour && s.style != .normal then
    String.ofList (s.style.sequence ++ resumed s.style.sequence s.text.toList ++ reset)
  else s.text

/-- A line: its pieces from left to right. -/
abbrev Line := List Span

/-- What is written for a line. -/
def Line.render (hasColour : Bool) (l : Line) : String :=
  String.join (l.map (Span.render hasColour)) ++ "\n"

/-- What is written for lines. -/
def render (hasColour : Bool) (lines : List Line) : String :=
  String.join (lines.map (Line.render hasColour))

/-- A line of plain text. -/
def line (text : String) : Line := [plain text]

/-- Pieces with one blank between any two of them. -/
def spaced (spans : List Span) : Line := spans.intersperse (plain " ")

end LiveBoard.Terminal
