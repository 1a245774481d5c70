/-!
# Numbers and moments in TOML

A number, a date or a time is a run of characters without quotes. Underscores may stand between
two digits. An integer has at most 64 bits; a float has to be finite, unless it says that it is
not.

## Main definitions

* `Toml.integer?`: the value of an integer.
* `Toml.isFloat`: whether a run of characters is a float.
* `Toml.isMoment`: whether it is a date, a time, or both.
-/

namespace LiveBoard.Toml

/-- The value of a digit in any base up to 16. -/
def digitValue (c : Char) : Nat :=
  if c.isDigit then c.toNat - '0'.toNat
  else if 'a' ≤ c && c ≤ 'f' then c.toNat - 'a'.toNat + 10
  else if 'A' ≤ c && c ≤ 'F' then c.toNat - 'A'.toNat + 10
  else 16

/-- The digits of a run in which underscores stand between two digits only. -/
def digits? (base : Nat) : List Char → Option (List Nat)
  | [] => none
  | [c] => if digitValue c < base then some [digitValue c] else none
  | c :: '_' :: cs =>
    if digitValue c < base then (digits? base cs).map (digitValue c :: ·) else none
  | c :: cs => if digitValue c < base then (digits? base cs).map (digitValue c :: ·) else none

/-- The number that digits spell. -/
def number (base : Nat) (ds : List Nat) : Nat := ds.foldl (fun n d => base * n + d) 0

/-- The number of a run of decimal digits that does not start with a superfluous zero. -/
def wholeDigits? (cs : List Char) : Option (List Nat) :=
  match digits? 10 cs with
  | some (0 :: _ :: _) => none
  | r => r

/-- The sign at the front of a run, and the rest. -/
def splitSign : List Char → Bool × List Char
  | '-' :: cs => (true, cs)
  | '+' :: cs => (false, cs)
  | cs => (false, cs)

/-- An integer of at most 64 bits. -/
def within64 (n : Int) : Option Int :=
  let bound := Int.ofNat (Nat.pow 2 63)
  if -bound ≤ n ∧ n < bound then some n else none

/-- The value of an integer. -/
def integer? : List Char → Option Int
  | '0' :: 'x' :: cs => (digits? 16 cs).bind fun ds => within64 (number 16 ds)
  | '0' :: 'o' :: cs => (digits? 8 cs).bind fun ds => within64 (number 8 ds)
  | '0' :: 'b' :: cs => (digits? 2 cs).bind fun ds => within64 (number 2 ds)
  | cs =>
    let (negative, cs) := splitSign cs
    (wholeDigits? cs).bind fun ds =>
      within64 (if negative then -(number 10 ds : Int) else number 10 ds)

/-! ### Floats -/

/-- An exponent, behind its letter. -/
def exponent? (cs : List Char) : Option Int :=
  let (down, cs) := splitSign cs
  (digits? 10 cs).map fun ds => if down then -(number 10 ds : Int) else number 10 ds

/-- A decimal below the halfway point between the greatest double and the next power of two. The
exponent is not worked out where the number of digits decides. -/
def isFinite (ds : List Nat) (exponent : Int) : Bool :=
  let significand := ds.dropWhile (· == 0)
  let magnitude := significand.length + exponent
  if significand.isEmpty || magnitude < 300 then true
  else if 400 < magnitude then false
  else
    let limit := Nat.pow 2 1024 - Nat.pow 2 970
    let n := number 10 significand
    if 0 ≤ exponent then n * Nat.pow 10 exponent.toNat < limit
    else n < limit * Nat.pow 10 exponent.natAbs

/-- A float: a fraction, an exponent, or both; or one that is not a finite number and says so. -/
def isFloat (cs : List Char) : Bool :=
  let (_, cs) := splitSign cs
  if cs = "inf".toList || cs = "nan".toList then true
  else
    let isLetter := fun c => c == 'e' || c == 'E'
    let mantissa := cs.takeWhile fun c => !isLetter c
    let whole := mantissa.takeWhile (· != '.')
    let fraction := (mantissa.dropWhile (· != '.')).drop 1
    let hasFraction := mantissa.contains '.'
    let power := (cs.dropWhile fun c => !isLetter c).drop 1
    let hasPower := cs.any isLetter
    match wholeDigits? whole, if hasFraction then digits? 10 fraction else some [],
      if hasPower then exponent? power else some 0 with
    | some ws, some fs, some e =>
      (hasFraction || hasPower) && isFinite (ws ++ fs) (e - fs.length)
    | _, _, _ => false

/-! ### Dates and times -/

/-- The number of decimal digits, all of which are wanted. -/
def decimal? (cs : List Char) : Option Nat :=
  if cs.all Char.isDigit then some (number 10 (cs.map digitValue)) else none

/-- The days of a month. -/
def daysOf (year month : Nat) : Nat :=
  if month = 2 then
    if year % 4 = 0 && (year % 100 ≠ 0 || year % 400 = 0) then 29 else 28
  else if month = 4 || month = 6 || month = 9 || month = 11 then 30
  else 31

/-- A date: year, month and day. -/
def isDate : List Char → Bool
  | [y₁, y₂, y₃, y₄, '-', m₁, m₂, '-', d₁, d₂] =>
    match decimal? [y₁, y₂, y₃, y₄], decimal? [m₁, m₂], decimal? [d₁, d₂] with
    | some y, some m, some d => 1 ≤ m && m ≤ 12 && 1 ≤ d && d ≤ daysOf y m
    | _, _, _ => false
  | _ => false

/-- Two digits that spell a number up to a limit. -/
def upTo (limit : Nat) (cs : List Char) : Bool :=
  match decimal? cs with
  | some n => n ≤ limit
  | none => false

/-- The distance to the standard time: `Z`, or hours and minutes. -/
def isOffset : List Char → Bool
  | [c] => c == 'Z' || c == 'z'
  | [s, h₁, h₂, ':', m₁, m₂] => (s == '+' || s == '-') && upTo 23 [h₁, h₂] && upTo 59 [m₁, m₂]
  | _ => false

/-- A time of the day, perhaps with a fraction of a second, and what `rest` says about the text
behind it. -/
def isTime (rest : List Char → Bool) : List Char → Bool
  | h₁ :: h₂ :: ':' :: m₁ :: m₂ :: ':' :: s₁ :: s₂ :: cs =>
    upTo 23 [h₁, h₂] && upTo 59 [m₁, m₂] && upTo 60 [s₁, s₂] &&
      match cs with
      | '.' :: c :: cs => c.isDigit && rest (cs.dropWhile Char.isDigit)
      | cs => rest cs
  | _ => false

/-- A date, a time, or a date with a time and perhaps an offset. -/
def isMoment (cs : List Char) : Bool :=
  isDate cs || isTime List.isEmpty cs ||
    (isDate (cs.take 10) &&
      match cs.drop 10 with
      | c :: time =>
        (c == 'T' || c == 't' || c == ' ')
          && isTime (fun rest => rest.isEmpty || isOffset rest) time
      | [] => false)

end LiveBoard.Toml
