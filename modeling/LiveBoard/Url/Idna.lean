import LiveBoard.Text.DomainMapping
import LiveBoard.Text.JoiningTable
import LiveBoard.Text.Normal
import LiveBoard.Url.Bidi
import LiveBoard.Url.Punycode

/-!
# Domains beyond ASCII

A domain may be typed in any script. Before it is looked up its characters are unified, and every
label that is not ASCII is written in its ASCII form. Labels that come in ASCII form have to stand
for a label that would be written so.

## Main definitions

* `Url.Joining`: how a character is joined to those beside it.
* `Url.Idna.unified?`: the unified form of a domain.
* `Url.Idna.joinersFit`: the joiners of a label are where they may be.
* `Url.Idna.toAscii?`: the ASCII form of a domain.
-/

namespace LiveBoard.Url

open Text

/-- How a character is joined to those beside it: to both, to the next or the previous one, or to
none. Joining passes over what is transparent. -/
inductive Joining
  | both
  | next
  | previous
  | transparent
  | none
  deriving DecidableEq, Repr

/-- How a character that a domain may hold is joined. -/
def Joining.ofChar (c : Char) : Joining :=
  match Table.rowAt? joiningRuns c.toNat with
  | some [_, last, kind] =>
    if last < c.toNat then none
    else
      match kind with
      | 1 => both
      | 2 => next
      | 3 => previous
      | _ => transparent
  | _ => none

namespace Idna

/-- What a character of a domain is unified to. Nothing for a character that no domain holds. -/
def image? (c : Char) : Option (List Char) :=
  let n := c.toNat
  if n < 0x80 then some [c.toLower]
  else
    match Table.rowAt? mappedSequences n with
    | some (first :: image) =>
      if first = n then some (image.map Char.ofNat) else simple? n
    | _ => simple? n
where
  /-- What a character without an exceptional image is unified to. -/
  simple? (n : Nat) : Option (List Char) :=
    match Table.rowAt? mappedRuns n with
    | some [first, last, step, target] =>
      if n ≤ last && (n - first) % step = 0 then some [Char.ofNat (target + (n - first))]
      else unchanged? n
    | _ => unchanged? n
  /-- A character that is not changed, unless it is refused. -/
  unchanged? (n : Nat) : Option (List Char) :=
    if Table.covers disallowedRanges n then none else some [Char.ofNat n]

/-- The unified form of a domain. -/
def unified? (cs : List Char) : Option (List Char) :=
  (cs.mapM image?).map fun parts => composed parts.flatten

/-- An ASCII character that no domain holds. -/
def isDenied (c : Char) : Bool :=
  c.toNat ≤ 0x20 || c.toNat = 0x7F || "%#/:<>?@[\\]^|".toList.contains c

/-- The character that keeps letters apart, or the one that joins them. -/
def isJoiner (c : Char) : Bool := c == '\u200C' || c == '\u200D'

/-- The first of the characters that joining does not pass over is joined in one of these ways. -/
def joins (ways : List Joining) (cs : List Char) : Bool :=
  match (cs.map Joining.ofChar).dropWhile (· == .transparent) with
  | way :: _ => ways.contains way
  | [] => false

/-- A joiner is where it may be: behind the sign that mutes a vowel, or it keeps letters apart that
would be joined. The characters before it are given from the last one on. -/
def joinerFits (before : List Char) (joiner : Char) (behind : List Char) : Bool :=
  before.head?.any (combiningClass · == 9)
    || (joiner == '\u200C' && joins [.both, .next] before && joins [.both, .previous] behind)

/-- The joiners of a label are where they may be. The characters before are given from the last one
on. -/
def joinersFit (before : List Char) : List Char → Bool
  | [] => true
  | c :: cs => (!isJoiner c || joinerFits before c cs) && joinersFit (c :: before) cs

/-- The front of labels in ASCII form. -/
def asciiFront : List Char := "xn--".toList

/-- A label beyond ASCII that a domain can hold. It does not look like one in ASCII form. -/
def isValidLabel (label : List Char) : Bool :=
  !asciiFront.isPrefixOf label
    && label.all (fun c => image? c == some [c])
    && (match label with
      | c :: _ => !isMark c
      | [] => true)
    && joinersFit [] label

/-- The ASCII form of a unified label. -/
def labelToAscii? (label : List Char) : Option (List Char) :=
  if label.all fun c => c.toNat < 0x80 then
    if asciiFront.isPrefixOf label then
      match Punycode.decode? (label.drop asciiFront.length) with
      | some inner =>
        if inner.any (fun c => 0x80 ≤ c.toNat) && isValidLabel inner && composed inner == inner then
          some label
        else none
      | none => none
    else some label
  else if isValidLabel label then some (asciiFront ++ Punycode.encode label)
  else none

/-- What the characters of a label stand for. -/
def shownLabel (label : List Char) : List Char :=
  if asciiFront.isPrefixOf label then
    (Punycode.decode? (label.drop asciiFront.length)).getD label
  else label

/-- The labels of a domain. -/
def labels : List Char → List (List Char)
  | [] => [[]]
  | c :: cs =>
    if c = '.' then [] :: labels cs
    else
      match labels cs with
      | [] => [[c]]
      | label :: rest => (c :: label) :: rest

/-- Labels with points between them. -/
def joinLabels : List (List Char) → List Char
  | [] => []
  | [label] => label
  | label :: rest => label ++ '.' :: joinLabels rest

/-- The ASCII form of a domain. -/
def toAscii? (cs : List Char) : Option (List Char) := do
  let domain ← unified? cs
  if domain.any isDenied then none
  else
    let parts ← (labels domain).mapM labelToAscii?
    if Bidi.domainFits ((labels domain).map shownLabel) then return joinLabels parts else none

end Idna

end LiveBoard.Url
