/-!
# UTF-8

The bytes of a text and the text of bytes. Bytes that are not UTF-8 can be refused, or read with a
replacement character for every stretch that could have been the beginning of a character.

## Main definitions

* `Utf8.encode`: the bytes of a text.
* `Utf8.decodeLossy`, `Utf8.decode?`: the text of bytes.
-/

namespace LiveBoard.Utf8

/-- The bytes of a character. -/
def encodeChar (c : Char) : List UInt8 :=
  let n := c.toNat
  if n < 0x80 then [n.toUInt8]
  else if n < 0x800 then [(0xC0 + n / 0x40).toUInt8, (0x80 + n % 0x40).toUInt8]
  else if n < 0x10000 then
    [(0xE0 + n / 0x1000).toUInt8, (0x80 + n / 0x40 % 0x40).toUInt8, (0x80 + n % 0x40).toUInt8]
  else
    [(0xF0 + n / 0x40000).toUInt8, (0x80 + n / 0x1000 % 0x40).toUInt8,
      (0x80 + n / 0x40 % 0x40).toUInt8, (0x80 + n % 0x40).toUInt8]

/-- The bytes of a text. -/
def encode (cs : List Char) : List UInt8 := cs.flatMap encodeChar

/-- A byte that continues a character. -/
def isContinuation (b : UInt8) : Bool := 0x80 ≤ b.toNat && b.toNat ≤ 0xBF

/-- The number of bytes behind the first byte of a character, and the bounds of the second byte.
Nothing for a byte that begins no character. -/
def lead? (b : UInt8) : Option (Nat × Nat × Nat) :=
  let n := b.toNat
  if n < 0x80 then some (0, 0x80, 0xBF)
  else if n < 0xC2 then none
  else if n < 0xE0 then some (1, 0x80, 0xBF)
  else if n = 0xE0 then some (2, 0xA0, 0xBF)
  else if n = 0xED then some (2, 0x80, 0x9F)
  else if n < 0xF0 then some (2, 0x80, 0xBF)
  else if n = 0xF0 then some (3, 0x90, 0xBF)
  else if n < 0xF4 then some (3, 0x80, 0xBF)
  else if n = 0xF4 then some (3, 0x80, 0x8F)
  else none

/-- The payload of a continuing byte. -/
def payload (b : UInt8) : Nat := b.toNat - 0x80

/-- The character at the front of a list of bytes and the number of bytes it takes. Without a
character, the bytes that could have begun one are taken, at least one. -/
def step (b : UInt8) (bs : List UInt8) : Option Char × Nat :=
  match lead? b with
  | none => (none, 1)
  | some (count, low, high) =>
    match count, bs with
    | 0, _ => (some (Char.ofNat b.toNat), 1)
    | _, [] => (none, 1)
    | count, b₁ :: bs =>
      if b₁.toNat < low || high < b₁.toNat then (none, 1)
      else if count = 1 then
        (some (Char.ofNat ((b.toNat - 0xC0) * 0x40 + payload b₁)), 2)
      else
        match bs with
        | [] => (none, 2)
        | b₂ :: bs =>
          if !isContinuation b₂ then (none, 2)
          else if count = 2 then
            (some (Char.ofNat ((b.toNat - 0xE0) * 0x1000 + payload b₁ * 0x40 + payload b₂)), 3)
          else
            match bs with
            | [] => (none, 3)
            | b₃ :: _ =>
              if !isContinuation b₃ then (none, 3)
              else
                (some (Char.ofNat ((b.toNat - 0xF0) * 0x40000 + payload b₁ * 0x1000
                  + payload b₂ * 0x40 + payload b₃)), 4)

/-- The characters of bytes, nothing where there is no character. -/
def decodeSteps : List UInt8 → List (Option Char)
  | [] => []
  | b :: bs => (step b bs).1 :: decodeSteps (bs.drop ((step b bs).2 - 1))
  termination_by bs => bs.length

/-- The text of bytes, with a replacement character where they are not UTF-8. -/
def decodeLossy (bs : List UInt8) : List Char :=
  (decodeSteps bs).map fun c => c.getD '\uFFFD'

/-- The text of bytes that are UTF-8. -/
def decode? (bs : List UInt8) : Option (List Char) :=
  (decodeSteps bs).mapM fun c => c

end LiveBoard.Utf8
