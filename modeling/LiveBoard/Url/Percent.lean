import LiveBoard.Text.Utf8

/-!
# Percent encoding

Characters that a part of an address cannot hold are written as their bytes, each after a percent
sign. The parts differ in which ASCII characters that concerns; characters beyond ASCII always
are encoded. Queries of forms have rules of their own: a space is a plus sign there, and next to
nothing but letters and digits stands for itself.

## Main definitions

* `Url.percentEncode`, `Url.percentDecode`: writing and reading encoded text.
* `Url.inFragment`, `Url.inPath`, …: what the parts of an address encode.
* `Url.formEncode`, `Url.formPairs`: writing and reading the queries of forms.
-/

namespace LiveBoard.Url

/-- The digit of a number below 16, in upper case. -/
def upperHexDigit (n : Nat) : Char := (Nat.digitChar (n % 16)).toUpper

/-- A byte after a percent sign. -/
def percentByte (b : UInt8) : List Char :=
  ['%', upperHexDigit (b.toNat / 16), upperHexDigit b.toNat]

/-- The text of an ASCII byte. -/
def byteChar (b : UInt8) : Char := Char.ofNat b.toNat

/-- A byte of a part that encodes the ASCII characters in `encoded`, and all bytes beyond. -/
def encodeByte (encoded : Char → Bool) (b : UInt8) : List Char :=
  if b.toNat < 0x80 && !encoded (byteChar b) then [byteChar b] else percentByte b

/-- A text in a part that encodes the ASCII characters in `encoded`, and all others beyond. -/
def percentEncode (encoded : Char → Bool) (cs : List Char) : List Char :=
  (Utf8.encode cs).flatMap (encodeByte encoded)

/-- The control characters of ASCII. -/
def isControl (c : Char) : Bool := c.toNat < 0x20 || c.toNat == 0x7F

/-- What fragments encode. -/
def inFragment (c : Char) : Bool := isControl c || " \"<>\x60".toList.contains c

/-- What paths encode. -/
def inPath (c : Char) : Bool := inFragment c || "#?\x7b\x7d".toList.contains c

/-- What user names and passwords encode. -/
def inUserinfo (c : Char) : Bool := inPath c || "/:;=@[\\]^|".toList.contains c

/-- What a single segment of a path encodes, where a slash or percent sign is part of the name. -/
def inSegment (c : Char) : Bool := inPath c || "/%\\".toList.contains c

/-- What queries encode. -/
def inQuery (c : Char) : Bool := isControl c || " \"#<>'".toList.contains c

/-- The value of a hexadecimal digit. -/
def hexValue? (b : UInt8) : Option Nat :=
  let n := b.toNat
  if 0x30 ≤ n && n ≤ 0x39 then some (n - 0x30)
  else if 0x61 ≤ n && n ≤ 0x66 then some (n - 0x61 + 10)
  else if 0x41 ≤ n && n ≤ 0x46 then some (n - 0x41 + 10)
  else none

/-- The bytes of an encoded text. A percent sign without two digits stands for itself. -/
def percentDecode : List UInt8 → List UInt8
  | [] => []
  | b :: c :: d :: rest =>
    if b = 0x25 then
      match hexValue? c, hexValue? d with
      | some high, some low => (high * 16 + low).toUInt8 :: percentDecode rest
      | _, _ => b :: percentDecode (c :: d :: rest)
    else b :: percentDecode (c :: d :: rest)
  | b :: rest => b :: percentDecode rest

/-! ### Forms -/

/-- What stands for itself in the query of a form. -/
def isFormPlain (b : UInt8) : Bool :=
  (byteChar b).isAlphanum || "*-._".toList.contains (byteChar b)

/-- A byte in the query of a form. -/
def formByte (b : UInt8) : List Char :=
  if b.toNat < 0x80 && isFormPlain b then [byteChar b]
  else if b = 0x20 then ['+']
  else percentByte b

/-- A name or value in the query of a form. -/
def formEncode (s : String) : List Char := (Utf8.encode s.toList).flatMap formByte

/-- A name or value read from the query of a form. -/
def formDecode (bs : List UInt8) : String :=
  String.ofList (Utf8.decodeLossy (percentDecode (bs.map fun b => if b = 0x2B then 0x20 else b)))

/-- The parts of a list between separators. -/
def splitOn {α : Type} [DecidableEq α] (sep : α) : List α → List (List α)
  | [] => [[]]
  | a :: as =>
    if a = sep then [] :: splitOn sep as
    else
      match splitOn sep as with
      | [] => [[a]]
      | part :: parts => (a :: part) :: parts

/-- A list before and after its first separator. -/
def splitFirst {α : Type} [DecidableEq α] (sep : α) : List α → List α × List α
  | [] => ([], [])
  | a :: as =>
    if a = sep then ([], as)
    else
      let (before, after) := splitFirst sep as
      (a :: before, after)

/-- The names and values of the query of a form. Empty parts do not count. -/
def formPairs (query : List Char) : List (String × String) :=
  ((splitOn 0x26 (Utf8.encode query)).filter fun part => !part.isEmpty).map fun part =>
    let (name, value) := splitFirst 0x3D part
    (formDecode name, formDecode value)

end LiveBoard.Url
