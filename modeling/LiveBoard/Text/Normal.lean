import LiveBoard.Text.Composition

/-!
# Composed normal form

Texts that look the same can be made of different characters. In composed normal form a letter and
its marks are one character wherever there is one, and the marks behind a letter stand in a fixed
order. A text is brought into this form by taking all characters apart, ordering the marks, and
putting the characters together again.

## Main definitions

* `Text.decompose`: a character taken apart.
* `Text.composed`: the composed normal form of a text.
-/

namespace LiveBoard.Text

/-- The combining class of a character, 0 for most. -/
def combiningClass (c : Char) : Nat :=
  match Table.rowAt? combiningClasses c.toNat with
  | some [_, last, k] => if c.toNat ≤ last then k else 0
  | _ => 0

/-- Whether a character is a combining mark. -/
def isMark (c : Char) : Bool := Table.covers markRanges c.toNat

/-! ### Syllables

Syllables of the Korean script are composed by arithmetic: of a first consonant, a vowel, and
perhaps a last consonant. -/

/-- The first syllable. -/
def syllableBase : Nat := 0xAC00

/-- A syllable of first consonant `l`, vowel `v` and last consonant `t`, 0 for none. -/
def syllable (l v t : Nat) : Char := Char.ofNat (syllableBase + (l * 21 + v) * 28 + t)

/-- The parts of a syllable. -/
def syllableParts? (c : Char) : Option (List Char) :=
  if syllableBase ≤ c.toNat && c.toNat < syllableBase + 11172 then
    let i := c.toNat - syllableBase
    let front := [Char.ofNat (0x1100 + i / 588), Char.ofNat (0x1161 + i % 588 / 28)]
    some (if i % 28 = 0 then front else front ++ [Char.ofNat (0x11A7 + i % 28)])
  else none

/-- The syllable of two parts. -/
def syllableOf? (a b : Char) : Option Char :=
  let m := a.toNat
  let n := b.toNat
  if 0x1100 ≤ m && m < 0x1113 && 0x1161 ≤ n && n < 0x1176 then
    some (syllable (m - 0x1100) (n - 0x1161) 0)
  else if syllableBase ≤ m && m < syllableBase + 11172 && (m - syllableBase) % 28 = 0
      && 0x11A8 ≤ n && n < 0x11C3 then
    some (Char.ofNat (m + (n - 0x11A7)))
  else none

/-! ### Taking apart -/

/-- A character taken apart, `depth` steps deep. -/
def decomposeFrom : Nat → Char → List Char
  | 0, c => [c]
  | depth + 1, c =>
    match Table.rowAt? compositions c.toNat with
    | some [whole, a, b] =>
      if whole = c.toNat then decomposeFrom depth (Char.ofNat a) ++ [Char.ofNat b] else [c]
    | _ => [c]

/-- A character taken apart. No character has more than four parts. -/
def decompose (c : Char) : List Char := (syllableParts? c).getD (decomposeFrom 4 c)

/-- Puts a mark before the marks of higher classes at the end of a text, which is given in
reverse. -/
def placeMark (k : Nat) (c : Char) : List Char → List Char
  | [] => [c]
  | d :: before =>
    if k < combiningClass d then d :: placeMark k c before else c :: d :: before

/-- A text with the marks behind every letter in order. -/
def ordered (cs : List Char) : List Char :=
  (cs.foldl
    (fun acc c =>
      let k := combiningClass c
      if k = 0 then c :: acc else placeMark k c acc)
    []).reverse

/-! ### Putting together -/

/-- The character composed of two. -/
def compose? (a b : Char) : Option Char :=
  match syllableOf? a b with
  | some c => some c
  | none =>
    match compositions.find? fun row => row.drop 1 == [a.toNat, b.toNat] with
    | some (whole :: _) => some (Char.ofNat whole)
    | _ => none

/-- The rest of a text behind a letter, with the marks that were kept behind it, the latest first,
and the class of the latest. -/
def composeFrom (letter : Char) (kept : List Char) (last : Nat) : List Char → List Char
  | [] => letter :: kept.reverse
  | c :: cs =>
    let k := combiningClass c
    let joined := if kept.isEmpty || last < k then compose? letter c else none
    match joined with
    | some d => composeFrom d kept last cs
    | none =>
      if k = 0 then letter :: (kept.reverse ++ composeFrom c [] 0 cs)
      else composeFrom letter (c :: kept) k cs

/-- A text put together, from its first letter on. -/
def composeAll : List Char → List Char
  | [] => []
  | c :: cs => if combiningClass c = 0 then composeFrom c [] 0 cs else c :: composeAll cs

/-- The composed normal form of a text. -/
def composed (cs : List Char) : List Char := composeAll (ordered (cs.flatMap decompose))

end LiveBoard.Text
