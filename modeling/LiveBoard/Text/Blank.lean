/-!
# Blank characters

The white space of the Unicode standard and the trimming that uses it. Names, tokens and
addresses that people type are trimmed with it before they are compared.

## Main definitions

* `Text.isBlank`: the `White_Space` property.
* `Text.trim`: a text without the blanks at its two ends.
-/

namespace LiveBoard.Text

/-- The `White_Space` property of the Unicode standard. -/
def isBlank (c : Char) : Bool :=
  let n := c.toNat
  (0x09 ≤ n && n ≤ 0x0D) || n == 0x20 || n == 0x85 || n == 0xA0 || n == 0x1680
    || (0x2000 ≤ n && n ≤ 0x200A) || n == 0x2028 || n == 0x2029 || n == 0x202F
    || n == 0x205F || n == 0x3000

/-- The characters of `cs` without the blanks at its two ends. -/
def trimChars (cs : List Char) : List Char :=
  ((cs.dropWhile isBlank).reverse.dropWhile isBlank).reverse

/-- A text without the blanks at its two ends. -/
def trim (s : String) : String :=
  String.ofList (trimChars s.toList)

/-- A text that holds nothing but blanks. -/
def isBlankText (s : String) : Bool :=
  s.toList.all isBlank

end LiveBoard.Text
