/-!
# Strings in TOML

A string stands between quotes. Between double quotes a backslash introduces escapes, between
single quotes everything stands for itself. Three quotes allow line breaks; a line break right
behind the opening quotes does not count.

## Main definitions

* `Toml.basic`, `literal`, `multiBasic`, `multiLiteral`: reading what follows the opening quotes,
  up to and including the closing ones.
* `Toml.quoted?`: reading a string.
* `Toml.written`: writing one.
-/

namespace LiveBoard.Toml

/-- A character that may stand for itself in a comment or between single quotes. -/
def isPlain (c : Char) : Bool := c == '\t' || (0x20 ≤ c.toNat && c.toNat ≠ 0x7F)

/-- The value of a hexadecimal digit. -/
def hexDigit? (c : Char) : Option Nat :=
  if c.isDigit then some (c.toNat - '0'.toNat)
  else if 'a' ≤ c && c ≤ 'f' then some (c.toNat - 'a'.toNat + 10)
  else if 'A' ≤ c && c ≤ 'F' then some (c.toNat - 'A'.toNat + 10)
  else none

/-- The number that hexadecimal digits spell. -/
def hexNumber? (cs : List Char) : Option Nat :=
  cs.foldlM (fun n c => (hexDigit? c).map fun d => 16 * n + d) 0

/-- The character whose number hexadecimal digits spell. -/
def hexChar? (cs : List Char) : Option Char :=
  (hexNumber? cs).bind fun n => if n.isValidChar then some (Char.ofNat n) else none

/-- The character that a single letter behind a backslash stands for. -/
def escape? (c : Char) : Option Char :=
  if c = 'b' then some '\x08'
  else if c = 't' then some '\t'
  else if c = 'n' then some '\n'
  else if c = 'f' then some '\x0c'
  else if c = 'r' then some '\r'
  else if c = '"' then some '"'
  else if c = '\\' then some '\\'
  else none

/-- A character in front of what was read. -/
def push (c : Char) (r : Option (List Char × List Char)) : Option (List Char × List Char) :=
  r.map fun (text, rest) => (c :: text, rest)

/-- A string between double quotes, behind the opening one. -/
def basic : List Char → Option (List Char × List Char)
  | [] => none
  | '"' :: cs => some ([], cs)
  | '\\' :: 'u' :: a :: b :: c :: d :: cs =>
    (hexChar? [a, b, c, d]).bind fun x => push x (basic cs)
  | '\\' :: 'U' :: a :: b :: c :: d :: e :: f :: g :: h :: cs =>
    (hexChar? [a, b, c, d, e, f, g, h]).bind fun x => push x (basic cs)
  | '\\' :: c :: cs => (escape? c).bind fun x => push x (basic cs)
  | c :: cs => if isPlain c && c ≠ '\\' then push c (basic cs) else none

/-- A string between single quotes, behind the opening one. -/
def literal : List Char → Option (List Char × List Char)
  | [] => none
  | '\'' :: cs => some ([], cs)
  | c :: cs => if isPlain c then push c (literal cs) else none

/-- The text behind the blanks at its front starts with a line break. -/
def endsLine (cs : List Char) : Bool :=
  match cs.dropWhile fun c => c == ' ' || c == '\t' with
  | '\n' :: _ => true
  | '\r' :: '\n' :: _ => true
  | _ => false

/-- A string between three double quotes, behind the opening ones. Up to two quotes may stand
right before the closing ones. Behind a backslash at the end of a line all blanks and line breaks
are passed over; `skipping` says that this goes on. -/
def multiBasic (skipping : Bool) : List Char → Option (List Char × List Char)
  | [] => none
  | '\r' :: '\n' :: cs =>
    if skipping then multiBasic true cs else push '\n' (multiBasic false cs)
  | '\n' :: cs => if skipping then multiBasic true cs else push '\n' (multiBasic false cs)
  | '"' :: '"' :: '"' :: '"' :: '"' :: cs => some (['"', '"'], cs)
  | '"' :: '"' :: '"' :: '"' :: cs => some (['"'], cs)
  | '"' :: '"' :: '"' :: cs => some ([], cs)
  | '\\' :: 'u' :: a :: b :: c :: d :: cs =>
    (hexChar? [a, b, c, d]).bind fun x => push x (multiBasic false cs)
  | '\\' :: 'U' :: a :: b :: c :: d :: e :: f :: g :: h :: cs =>
    (hexChar? [a, b, c, d, e, f, g, h]).bind fun x => push x (multiBasic false cs)
  | '\\' :: c :: cs =>
    if endsLine (c :: cs) then multiBasic true (c :: cs)
    else (escape? c).bind fun x => push x (multiBasic false cs)
  | c :: cs =>
    if skipping && (c == ' ' || c == '\t') then multiBasic true cs
    else if isPlain c && c ≠ '\\' then push c (multiBasic false cs)
    else none

/-- A string between three single quotes, behind the opening ones. Up to two quotes may stand
right before the closing ones. -/
def multiLiteral : List Char → Option (List Char × List Char)
  | [] => none
  | '\r' :: '\n' :: cs => push '\n' (multiLiteral cs)
  | '\n' :: cs => push '\n' (multiLiteral cs)
  | '\'' :: '\'' :: '\'' :: '\'' :: '\'' :: cs => some (['\'', '\''], cs)
  | '\'' :: '\'' :: '\'' :: '\'' :: cs => some (['\''], cs)
  | '\'' :: '\'' :: '\'' :: cs => some ([], cs)
  | c :: cs => if isPlain c then push c (multiLiteral cs) else none

/-- A text without the line break at its front. -/
def dropLineBreak : List Char → List Char
  | '\n' :: cs => cs
  | '\r' :: '\n' :: cs => cs
  | cs => cs

/-- A string on a single line, and what follows it. -/
def quotedLine? : List Char → Option (List Char × List Char)
  | '"' :: cs => basic cs
  | '\'' :: cs => literal cs
  | _ => none

/-- A string, and what follows it. -/
def quoted? : List Char → Option (List Char × List Char)
  | '"' :: '"' :: '"' :: cs => multiBasic false (dropLineBreak cs)
  | '\'' :: '\'' :: '\'' :: cs => multiLiteral (dropLineBreak cs)
  | cs => quotedLine? cs

/-! ### Writing -/

/-- The longest run of single quotes in a text, of which `run` were seen right before it. -/
def longestRun (run : Nat) : List Char → Nat
  | [] => run
  | c :: cs => if c = '\'' then longestRun (run + 1) cs else max run (longestRun 0 cs)

/-- A text that is easier to read without escapes: it has a quote or a backslash, and nothing in
it keeps it from standing between single quotes. -/
def prefersLiteral (cs : List Char) : Bool :=
  cs.any (fun c => c == '"' || c == '\\')
    && cs.all (fun c => c == '\n' || isPlain c)
    && longestRun 0 cs < 3
    && cs.getLast? ≠ some '\''

/-- Four hexadecimal digits. -/
def fourHex (n : Nat) : List Char :=
  let ds := (Nat.toDigits 16 n).map Char.toUpper
  List.replicate (4 - ds.length) '0' ++ ds

/-- A character between double quotes. On several lines a line break stands for itself. -/
def writtenChar (several : Bool) (c : Char) : List Char :=
  if c = '\x08' then ['\\', 'b']
  else if c = '\t' then ['\\', 't']
  else if c = '\n' then (if several then ['\n'] else ['\\', 'n'])
  else if c = '\x0c' then ['\\', 'f']
  else if c = '\r' then ['\\', 'r']
  else if c = '"' then ['\\', '"']
  else if c = '\\' then ['\\', '\\']
  else if isPlain c then [c]
  else '\\' :: 'u' :: fourHex c.toNat

/-- A string between quotes: on several lines if it has line breaks, and between single quotes if
that is easier to read. -/
def written (s : String) : List Char :=
  let cs := s.toList
  let several := cs.contains '\n'
  if prefersLiteral cs then
    if several then "'''\n".toList ++ cs ++ "'''".toList
    else if cs.contains '\'' then "'''".toList ++ cs ++ "'''".toList
    else '\'' :: cs ++ ['\'']
  else if several then
    "\"\"\"\n".toList ++ cs.flatMap (writtenChar true) ++ "\"\"\"".toList
  else '"' :: cs.flatMap (writtenChar false) ++ ['"']

end LiveBoard.Toml
