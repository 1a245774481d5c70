import LiveBoard.Text.DirectionTable

/-!
# Domains in two directions

A domain that holds characters written from right to left has to be readable: each of its labels
keeps to one direction, which its first character sets, and ends in a letter or a digit. Numbers
may stand in labels of both directions, but in one from right to left only in one kind of digits.

## Main definitions

* `Url.Direction`: the direction of a character.
* `Url.Bidi.domainFits`: a domain is readable.
-/

namespace LiveBoard.Url

open Text

/-- The direction of a character. -/
inductive Direction
  | leftToRight
  | rightToLeft
  | arabicDigit
  | digit
  | mark
  | neutral
  deriving DecidableEq, Repr

/-- The direction of a character that a domain may hold. -/
def Direction.ofChar (c : Char) : Direction :=
  match Table.rowAt? directionRuns c.toNat with
  | some [_, last, kind] =>
    if last < c.toNat then leftToRight
    else
      match kind with
      | 1 => rightToLeft
      | 2 => arabicDigit
      | 3 => digit
      | 4 => mark
      | _ => neutral
  | _ => leftToRight

namespace Bidi

/-- Some of the characters are written from right to left. -/
def isRightward (ds : List Direction) : Bool :=
  ds.any fun d => d == .rightToLeft || d == .arabicDigit

/-- The directions behind the first character, without the marks at the end. -/
def body (ds : List Direction) : List Direction := (ds.reverse.dropWhile (· == .mark)).reverse

/-- The label ends in one of these directions, its marks aside. -/
def endsIn (ends : List Direction) (ds : List Direction) : Bool :=
  match ds.getLast? with
  | some d => ends.contains d
  | none => true

/-- A label keeps to one direction. -/
def labelFits : List Direction → Bool
  | [] => true
  | .leftToRight :: ds =>
    !isRightward (body ds) && endsIn [.leftToRight, .digit] (body ds)
  | .rightToLeft :: ds =>
    !(body ds).contains .leftToRight
      && endsIn [.rightToLeft, .arabicDigit, .digit] (body ds)
      && !((body ds).contains .arabicDigit && (body ds).contains .digit)
  | _ :: _ => false

/-- All labels of a domain keep to one direction each, if it holds characters that are written from
right to left. -/
def domainFits (labels : List (List Char)) : Bool :=
  let directions := labels.map fun label => label.map Direction.ofChar
  !directions.any isRightward || directions.all labelFits

end Bidi

end LiveBoard.Url
