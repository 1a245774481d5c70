import LiveBoard.Text.WidthTable

/-!
# Width of texts on a terminal

How many columns a text takes on a terminal. Most characters take one column, ideographs and
pictographs two, marks none; but some sequences are shown as one sign: a letter with the letter
after it, a pictograph with its skin tone, pictographs with joiners between them, a character and
the selector that makes it a pictograph. A text is therefore measured from its end: the characters
after a place leave a `Demand` on the character before them.

A single character has a width of its own too, which differs from its width as a text: a control
character has no width of its own, but takes one column as a text.

## Main definitions

* `Text.charWidth`: the columns of a character on its own.
* `Text.Demand`: what the characters after a place ask of the one before it.
* `Text.Demand.measure`: one more character, with the columns that it adds.
* `Text.width`: the columns of a text.
-/

namespace LiveBoard.Text

/-- Whether the number of `c` lies between two numbers, both included. -/
def isWithin (c : Char) (first last : Nat) : Bool :=
  first ≤ c.toNat && c.toNat ≤ last

/-- The width of a character that is not a control character. -/
def tableWidth (c : Char) : Nat :=
  if c.toNat ≤ 0xA0 then 1
  else if c.toNat = 0x17D8 then 3
  else if Table.covers zeroRanges c.toNat then 0
  else if Table.covers wideRanges c.toNat then 2
  else 1

/-- The columns of a character on its own. Control characters take none. -/
def charWidth (c : Char) : Nat :=
  if c.toNat < 0x20 || isWithin c 0x7F 0x9F then 0 else tableWidth c

/-! ### Kinds of characters -/

/-- The pictographs. -/
def isPictograph (c : Char) : Bool := Table.covers pictographRanges c.toNat

/-- The skin tones, which colour the pictograph before them. -/
def isSkinTone (c : Char) : Bool := isWithin c 0x1F3FB 0x1F3FF

/-- The pictographs that take a skin tone. -/
def isModifiable (c : Char) : Bool := Table.covers modifiableRanges c.toNat

/-- The characters that a selector turns into a pictograph. -/
def isPresentable (c : Char) : Bool := Table.covers presentableRanges c.toNat

/-- The pictographs that a selector turns into a sign of one column. -/
def isFlattened (c : Char) : Bool :=
  isPresentable c && isPictograph c && !isWithin c 0x1F200 0x1F2FF

/-- The letters that name a country in pairs. -/
def isRegional (c : Char) : Bool := isWithin c 0x1F1E6 0x1F1FF

/-- The letters that join an Alef after them. -/
def isLam (c : Char) : Bool :=
  c.toNat = 0x644 || isWithin c 0x6B5 0x6B8 || c.toNat = 0x76A || c.toNat = 0x8A6
    || c.toNat = 0x8C7

/-- The letters that join a Lam before them. -/
def isAlef (c : Char) : Bool :=
  isWithin c 0x622 0x623 || c.toNat = 0x625 || c.toNat = 0x627 || isWithin c 0x671 0x673
    || c.toNat = 0x675 || isWithin c 0x773 0x774 || isWithin c 0x870 0x882

/-- The consonants that go below the letter before them. -/
def isSubjoined (c : Char) : Bool :=
  isWithin c 0x1780 0x1782 || isWithin c 0x1784 0x1787 || isWithin c 0x1789 0x178C
    || isWithin c 0x178E 0x1793 || isWithin c 0x1795 0x1798 || isWithin c 0x179B 0x179D
    || c.toNat = 0x17A0 || c.toNat = 0x17A2 || c.toNat = 0x17A7 || isWithin c 0x17AB 0x17AC
    || c.toNat = 0x17AF

/-- The consonants that form pairs. -/
def isTifinagh (c : Char) : Bool := isWithin c 0x2D31 0x2D65 || c.toNat = 0x2D6F

/-- The characters that may stand inside a pair of joined letters. -/
def isLigatureTransparent (c : Char) : Bool :=
  c.toNat = 0x34F || isWithin c 0x17B4 0x17B5 || isWithin c 0x180B 0x180D || c.toNat = 0x180F
    || c.toNat = 0x200D || isWithin c 0xFE00 0xFE0F || isWithin c 0xE0100 0xE01EF

/-- The marks that may stand between a Lam and its Alef. -/
def isJoiningTransparent (c : Char) : Bool :=
  !isWithin c 0x200B 0x200D && !isWithin c 0x2066 0x2069 && !isWithin c 0x1160 0x11FF
    && !isWithin c 0x302E 0x302F && c.toNat != 0x605 && c.toNat != 0x8E2 && c.toNat != 0x180E
    && tableWidth c = 0

/-! ### Demands -/

/-- Letters of a pair that waits for the letter before it. -/
inductive Pending
  | hebrewLamed
  | bugineseYa
  | tifinagh
  | orkhonI
deriving DecidableEq, Repr

/-- What the characters after a place ask of the character before it. -/
inductive Demand
  /-- Nothing. -/
  | free
  /-- A line feed follows. -/
  | lineFeed
  /-- A skin tone follows. -/
  | skinTone
  /-- A regional letter follows, or several. -/
  | regional
  /-- A pictograph follows. -/
  | pictograph
  /-- A joiner and a pictograph follow. -/
  | joined
  /-- A keycap, a joiner and a pictograph follow. -/
  | joinedKeycap
  /-- Regional letters, a joiner and a pictograph follow: one letter, an even number of them or an
  odd one above one. -/
  | joinedRegional | joinedRegionalEven | joinedRegionalOdd
  /-- The tags of a flag, a joiner and a pictograph follow, with so many letters and digits. -/
  | tags (letters digits : Nat)
  /-- The second letter of a pair follows, with a joiner before it or not. -/
  | pending (letter : Pending) (hasJoiner : Bool)
  /-- The end of a ligature follows, which needs no joiner. -/
  | alef | bugineseVowel | tifinaghJoiner | lisuTone | subjoined
  /-- A vowel sign follows that may be the second half of another one. -/
  | kiratE | kiratAi
deriving DecidableEq, Repr

/-- The selector after a place, if there is one. -/
inductive Presentation
  | unselected
  | asText
  | asPictograph
deriving DecidableEq, Repr

/-- What is known of a text at a place in it from the characters after the place. -/
structure Outlook where
  demand : Demand
  selector : Presentation
deriving DecidableEq, Repr

namespace Demand

/-- Whether a joined pictograph follows. -/
def isJoined : Demand → Bool
  | joined | joinedKeycap => true
  | _ => false

/-- Whether the end of a ligature follows, which a selector does not break. -/
def isLigature : Demand → Bool
  | pending _ _ | alef | bugineseVowel | tifinaghJoiner | lisuTone | subjoined => true
  | _ => false

/-- Whether joiners and transparent characters may stand before what follows. -/
def isTransparent : Demand → Bool
  | pending _ _ | bugineseVowel | tifinaghJoiner | lisuTone | subjoined => true
  | _ => false

/-- The demand with a joiner before it. -/
def withJoiner : Demand → Demand
  | pending l _ => pending l true
  | d => d

/-- The demand of a character that takes no part in what follows it. -/
def ofChar (c : Char) : Demand :=
  if isSkinTone c then skinTone
  else if isRegional c then regional
  else if isAlef c then alef
  else if isSubjoined c then subjoined
  else if isTifinagh c then pending .tifinagh false
  else if c.toNat = 0x5DC then pending .hebrewLamed false
  else if c.toNat = 0x1A10 then pending .bugineseYa false
  else if c.toNat = 0x10C03 then pending .orkhonI false
  else if isWithin c 0xA4FC 0xA4FD then lisuTone
  else if c.toNat = 0x16D67 then kiratE
  else if c.toNat = 0x16D68 then kiratAi
  else if isPictograph c then pictograph
  else free

/-- The columns that a character adds and the demand on the character before it, where the
characters after it let it take part in a sequence. -/
def sequence? (d : Demand) (c : Char) : Option (Int × Demand) :=
  match d with
  | alef =>
    if isLam c then some (0, free)
    else if isJoiningTransparent c then some (0, alef)
    else none
  | pending .hebrewLamed true => if c.toNat = 0x5D0 then some (0, free) else none
  | pending .bugineseYa true => if c.toNat = 0x1A17 then some (0, bugineseVowel) else none
  | pending .orkhonI true => if c.toNat = 0x10C32 then some (0, free) else none
  | pending .tifinagh hasJoiner =>
    if c.toNat = 0x2D7F then some (1, tifinaghJoiner)
    else if hasJoiner && isTifinagh c then some (0, free)
    else none
  | bugineseVowel => if c.toNat = 0x1A15 then some (0, free) else none
  | tifinaghJoiner => if isTifinagh c then some (-1, free) else none
  | lisuTone => if isWithin c 0xA4F8 0xA4FB then some (0, free) else none
  | subjoined => if c.toNat = 0x17D2 then some (-1, free) else none
  | kiratE =>
    if c.toNat = 0x16D63 || c.toNat = 0x16D69 then some (0, free)
    else if c.toNat = 0x16D67 then some (0, kiratAi)
    else if c.toNat = 0x16D68 then some (1, kiratE)
    else none
  | kiratAi => if c.toNat = 0x16D63 then some (0, free) else none
  | skinTone =>
    if isModifiable c then some (0, pictograph)
    else if c.toNat = 0x200D then some (0, joined)
    else none
  | regional =>
    if isRegional c then some (1, regional)
    else if c.toNat = 0x200D then some (0, joined)
    else none
  | pictograph => if c.toNat = 0x200D then some (0, joined) else none
  | joined =>
    if c.toNat = 0x20E3 then some (0, joinedKeycap)
    else if isRegional c then some (1, joinedRegional)
    else if isSkinTone c then some (0, skinTone)
    else if c.toNat = 0xE007F then some (0, tags 0 0)
    else if isPictograph c then some (0, pictograph)
    else none
  | joinedRegional => if isRegional c then some (-1, joinedRegionalEven) else none
  | joinedRegionalEven => if isRegional c then some (3, joinedRegionalOdd) else none
  | joinedRegionalOdd => if isRegional c then some (-3, joinedRegionalEven) else none
  | tags letters digits =>
    if isWithin c 0xE0061 0xE007A && digits = 0 && letters < 6 then some (0, tags (letters + 1) 0)
    else if isWithin c 0xE0030 0xE0039 && letters < 5 && digits < 3 then
      some (0, tags letters (digits + 1))
    else if c.toNat = 0x1F3F4 && (digits = 3 || digits = 0 && 3 ≤ letters) then
      some (0, pictograph)
    else none
  | _ => none

end Demand

namespace Outlook

/-- The outlook at the end of a text. -/
def atEnd : Outlook := ⟨.free, .unselected⟩

/-- The outlook of a demand without a selector. -/
def ofDemand (d : Demand) : Outlook := ⟨d, .unselected⟩

/-- The outlook before the selector of pictographs. -/
def selectPictograph (o : Outlook) : Outlook :=
  ⟨if o.demand.isLigature || o.demand.isJoined then o.demand else .free, .asPictograph⟩

/-- The outlook before the selector of text. -/
def selectText (o : Outlook) : Outlook :=
  ⟨if o.demand.isLigature then o.demand else .free, .asText⟩

/-- The outlook without the selector: only a ligature outlives one. -/
def unselect (o : Outlook) : Outlook :=
  if o.selector = .unselected then o
  else ofDemand (if o.demand.isLigature then o.demand else .free)

/-- The outlook before a character of the first blocks, which takes one column. Only a return
before a line feed takes none. -/
def measureSimple (o : Outlook) (c : Char) : Int × Outlook :=
  if c = '\n' then (1, ofDemand .lineFeed)
  else if c = '\r' && o.demand = .lineFeed then (0, atEnd)
  else (1, atEnd)

/-- The outlook before a character that no selector concerns. -/
def measurePlain (o : Outlook) (c : Char) : Int × Outlook :=
  if o.demand.isTransparent && c.toNat = 0x200D then (0, ofDemand o.demand.withJoiner)
  else if o.demand.isTransparent && isLigatureTransparent c then (0, o)
  else match o.demand.sequence? c with
    | some (n, d) => (n, ofDemand d)
    | none => (tableWidth c, ofDemand (.ofChar c))

/-- The columns that a character adds to the text after it, and the outlook before it. -/
def measure (o : Outlook) (c : Char) : Int × Outlook :=
  if o.selector = .asPictograph && isPresentable c then
    (if o.demand.isJoined then 0 else 2, ofDemand .pictograph)
  else
    let o := if o.selector = .asPictograph then o.unselect else o
    if c.toNat ≤ 0xA0 then o.measureSimple c
    else if c.toNat = 0xFE0F then (0, o.selectPictograph)
    else if c.toNat = 0xFE0E then (0, o.selectText)
    else if o.selector = .asText && isFlattened c then (1, atEnd)
    else o.unselect.measurePlain c

end Outlook

/-- The columns of the characters and the outlook before them. -/
def measure (cs : List Char) : Int × Outlook :=
  cs.foldr (fun c (n, o) => let (add, before) := o.measure c; (n + add, before)) (0, .atEnd)

/-- The columns that a text takes on a terminal. -/
def width (s : String) : Nat := (measure s.toList).1.toNat

end LiveBoard.Text
