import LiveBoard.Text.Spelled

/-!
# Quoted texts

A text shown inside a message: between quotes, with the quote, the backslash, line breaks and tabs
escaped, and with every character that would not be seen spelled by its number.

## Main definitions

* `Text.quoted`: a text between quotes.
-/

namespace LiveBoard.Text

/-- A code point by its number, in braces. -/
def spelled (c : Char) : List Char :=
  '\\' :: 'u' :: '\x7b' :: (Nat.toDigits 16 c.toNat ++ ['\x7d'])

/-- Whether a character is spelled by its number. -/
def isSpelled (c : Char) : Bool :=
  c.toNat < 0x20 || c.toNat == 0x7F || Table.covers spelledRanges c.toNat

/-- A character inside a quoted text. -/
def quotedChar (c : Char) : List Char :=
  if c = '"' then ['\\', '"']
  else if c = '\\' then ['\\', '\\']
  else if c = '\x00' then ['\\', '0']
  else if c = '\t' then ['\\', 't']
  else if c = '\n' then ['\\', 'n']
  else if c = '\r' then ['\\', 'r']
  else if isSpelled c then spelled c
  else [c]

/-- A text between quotes. -/
def quoted (s : String) : String :=
  String.ofList ('"' :: (s.toList.flatMap quotedChar ++ ['"']))

end LiveBoard.Text
