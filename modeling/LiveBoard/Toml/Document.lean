import LiveBoard.Toml.Item
import LiveBoard.Toml.Numeral
import LiveBoard.Toml.Quoted

/-!
# Reading TOML

A document is a list of statements, each on a line of its own: keys with their values, headers of
tables, and lines that say nothing. Only values go over several lines: arrays, and strings between
three quotes. Arrays and braces go at most 79 levels deep, and a path has at most 79 keys.

## Main definitions

* `Toml.value?`: reading a value.
* `Toml.Statement`, `Toml.statement?`: what a line says.
* `Toml.read?`: the tables of a document.
-/

namespace LiveBoard.Toml

/-- How deep values may be nested, and how many keys a path may have. -/
def depthLimit : Nat := 79

/-- A blank on a line. -/
def isSpace (c : Char) : Bool := c == ' ' || c == '\t'

/-- The text behind the blanks at its front. -/
def skipSpaces (cs : List Char) : List Char := cs.dropWhile isSpace

/-- The text behind the blanks, line breaks and comments at its front. -/
def skipLayout (inComment : Bool) : List Char → List Char
  | [] => []
  | '\n' :: cs => skipLayout false cs
  | '\r' :: '\n' :: cs => skipLayout false cs
  | c :: cs =>
    if inComment then if isPlain c then skipLayout true cs else c :: cs
    else if isSpace c then skipLayout false cs
    else if c = '#' then skipLayout true cs
    else c :: cs

/-- The text behind the end of a line, which may have blanks and a comment before it. -/
def endLine? (cs : List Char) : Option (List Char) :=
  let rest := match skipSpaces cs with
    | '#' :: cs => cs.dropWhile isPlain
    | cs => cs
  match rest with
  | [] => some []
  | '\n' :: cs => some cs
  | '\r' :: '\n' :: cs => some cs
  | _ => none

/-! ### Keys -/

/-- A character of a key without quotes. -/
def isKeyChar (c : Char) : Bool := c.isAlphanum || c == '_' || c == '-'

/-- A key, and what follows it. -/
def key? (cs : List Char) : Option (String × List Char) :=
  match cs.takeWhile isKeyChar with
  | [] => (quotedLine? cs).map fun (text, rest) => (String.ofList text, rest)
  | name => some (String.ofList name, cs.drop name.length)

/-- Keys with dots between them and blanks around them: the path, the last key, and what
follows. -/
def keyPath? : Nat → List Char → Option (List String × String × List Char)
  | 0, _ => none
  | room + 1, cs => do
    let (key, rest) ← key? (skipSpaces cs)
    match skipSpaces rest with
    | '.' :: rest => do
      let (path, last, rest) ← keyPath? room rest
      return (key :: path, last, rest)
    | rest => return ([], key, rest)

/-! ### Values -/

/-- A character of a number, a moment or a truth value. -/
def isWordChar (c : Char) : Bool :=
  c.isAlphanum || c == '+' || c == '-' || c == '_' || c == '.' || c == ':'

/-- The value of a word. -/
def word? (cs : List Char) : Option Item :=
  if cs = "true".toList then some (.boolean true)
  else if cs = "false".toList then some (.boolean false)
  else
    match integer? cs with
    | some n => some (.integer n)
    | none => if isFloat cs then some .float else if isMoment cs then some .moment else none

/-- A value without parts, and what follows it. A date and a time may have a space between
them. -/
def scalar? (cs : List Char) : Option (Item × List Char) :=
  match quoted? cs with
  | some (text, rest) => some (.string (String.ofList text), rest)
  | none =>
    let first := cs.takeWhile isWordChar
    let rest := cs.drop first.length
    let second := (rest.drop 1).takeWhile isWordChar
    if rest.head? = some ' ' && isDate first && isMoment (first ++ ' ' :: second) then
      some (.moment, rest.drop (second.length + 1))
    else (word? first).map fun item => (item, rest)

mutual

/-- A value, and what follows it. Arrays and braces may open `room` levels deep. The first number
is above the length of the text. -/
def valueIn : Nat → Nat → List Char → Option (Item × List Char)
  | 0, _, _ => none
  | _ + 1, 0, cs => scalar? cs
  | fuel + 1, room + 1, cs =>
    match cs with
    | '[' :: cs => (elementsIn fuel room cs).map fun (items, rest) => (.array items, rest)
    | '\x7b' :: cs => do
      let (lines, rest) ← match skipSpaces cs with
        | '\x7d' :: rest => some ([], rest)
        | cs => pairsIn fuel room cs
      let members ← insertLines lines []
      return (.table .braces members, rest)
    | cs => scalar? cs

/-- The elements of an array up to its closing bracket, and what follows it. -/
def elementsIn : Nat → Nat → List Char → Option (List Item × List Char)
  | 0, _, _ => none
  | fuel + 1, room, cs =>
    match skipLayout false cs with
    | ']' :: rest => some ([], rest)
    | cs => do
      let (item, rest) ← valueIn fuel room cs
      match skipLayout false rest with
      | ',' :: rest => do
        let (items, rest) ← elementsIn fuel room rest
        return (item :: items, rest)
      | ']' :: rest => return ([item], rest)
      | _ => none

/-- The keys and values between braces up to the closing one, and what follows it. -/
def pairsIn : Nat → Nat → List Char → Option (List Line × List Char)
  | 0, _, _ => none
  | fuel + 1, room, cs => do
    let (path, key, rest) ← keyPath? depthLimit cs
    match rest with
    | '=' :: rest => do
      let (item, rest) ← valueIn fuel room (skipSpaces rest)
      match skipSpaces rest with
      | ',' :: rest => do
        let (lines, rest) ← pairsIn fuel room rest
        return (⟨path, key, item⟩ :: lines, rest)
      | '\x7d' :: rest => return ([⟨path, key, item⟩], rest)
      | _ => none
    | _ => none

end

/-- A value, and what follows it. -/
def value? (cs : List Char) : Option (Item × List Char) := valueIn (cs.length + 1) depthLimit cs

/-! ### Statements -/

/-- What a line says. -/
inductive Statement
  | blank
  | line (l : Line)
  /-- The header of a table, perhaps in double brackets. -/
  | header (double : Bool) (path : List String) (key : String)
  deriving Repr

/-- What a line says, and what follows it. -/
def statement? (cs : List Char) : Option (Statement × List Char) :=
  match endLine? cs with
  | some rest => some (.blank, rest)
  | none =>
    match skipSpaces cs with
    | '[' :: '[' :: cs => do
      let (path, key, rest) ← keyPath? depthLimit cs
      match rest with
      | ']' :: ']' :: rest => (endLine? rest).map fun rest => (.header true path key, rest)
      | _ => none
    | '[' :: cs => do
      let (path, key, rest) ← keyPath? depthLimit cs
      match rest with
      | ']' :: rest => (endLine? rest).map fun rest => (.header false path key, rest)
      | _ => none
    | cs => do
      let (path, key, rest) ← keyPath? depthLimit cs
      match rest with
      | '=' :: rest => do
        let (item, rest) ← value? (skipSpaces rest)
        (endLine? rest).map fun rest => (.line ⟨path, key, item⟩, rest)
      | _ => none

/-- All that a text says. The number is above the length of the text. -/
def statementsIn : Nat → List Char → Option (List Statement)
  | _, [] => some []
  | 0, _ => none
  | fuel + 1, cs => do
    let (s, rest) ← statement? cs
    return s :: (← statementsIn fuel rest)

/-- The parts of a document. Lines belong to the header above them. -/
def sections (header : Option (Bool × List String × String)) (lines : List Line) :
    List Statement → List Section
  | [] => [⟨header, lines.reverse⟩]
  | .blank :: ss => sections header lines ss
  | .line l :: ss => sections header (l :: lines) ss
  | .header double path key :: ss =>
    ⟨header, lines.reverse⟩ :: sections (some (double, path, key)) [] ss

/-- The characters of a text without the mark of its byte order. -/
def withoutMark (s : String) : List Char :=
  match s.toList with
  | '\uFEFF' :: cs => cs
  | cs => cs

/-- The tables of a document. -/
def read? (s : String) : Option Members := do
  let cs := withoutMark s
  let statements ← statementsIn (cs.length + 1) cs
  ofSections (sections none [] statements)

end LiveBoard.Toml
