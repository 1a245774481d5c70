import LiveBoard.Decimal.Shortest

/-!
# Doubles as text

Reading and writing double-precision numbers. A double is written with the fewest digits that
identify it, in positional notation from `10^-5` up to but not including `10^16` and with an
exponent elsewhere. A decimal is read by scaling an integer of at most 64 bits with a power of
ten; digits beyond the 64 bits only count towards the exponent.

## Main definitions

* `Decimal.ofDouble`: the text of a finite double.
* `Decimal.scaled`: the double of an integer times a power of ten.
-/

namespace LiveBoard.Decimal

/-- The rounding interval of a positive finite double. -/
def Interval.ofDouble (x : Float) : Interval :=
  let bits := x.toBits.toNat % Nat.pow 2 63
  let exponent := bits / Nat.pow 2 52
  let fraction := bits % Nat.pow 2 52
  if exponent = 0 then .ofDyadic fraction (-1074) 2
  else
    .ofDyadic (fraction + Nat.pow 2 52) (Int.ofNat exponent - 1075)
      (if fraction = 0 && 1 < exponent then 1 else 2)

/-- Digits and exponent in positional notation, always with a digit on both sides of the point. -/
def positional (digits : List Char) (exponent : Int) : List Char :=
  if exponent < 0 then
    '0' :: '.' :: (List.replicate (-exponent - 1).toNat '0' ++ digits)
  else
    let whole := exponent.toNat + 1
    let padded := digits ++ List.replicate (whole - digits.length) '0'
    let fraction := padded.drop whole
    padded.take whole ++ '.' :: (if fraction.isEmpty then ['0'] else fraction)

/-- Digits and exponent in scientific notation: the point only if digits follow it, the sign of
the exponent always. -/
def scientific (digits : List Char) (exponent : Int) : List Char :=
  let mantissa :=
    match digits with
    | [] => ['0']
    | [d] => [d]
    | d :: ds => d :: '.' :: ds
  mantissa ++ 'e' :: (if exponent < 0 then '-' else '+') :: Nat.toDigits 10 exponent.natAbs

/-- The text of the magnitude of a finite double. -/
def magnitude (x : Float) : List Char :=
  if x.toBits.toNat % Nat.pow 2 63 = 0 then ['0', '.', '0']
  else
    let (digits, exponent) := shortest (.ofDouble x)
    if -5 ≤ exponent && exponent < 16 then positional digits exponent
    else scientific digits exponent

/-- Whether the sign bit of a double is set. -/
def isNegative (x : Float) : Bool :=
  Nat.pow 2 63 ≤ x.toBits.toNat

/-- The text of a finite double: the fewest digits that identify it, positional from `10^-5` up
to but not including `10^16`, with an exponent elsewhere. -/
def ofDouble (x : Float) : List Char :=
  if isNegative x then '-' :: magnitude x else magnitude x

/-- The power of ten as a double, for exponents up to 308. -/
def powerOfTen (n : Nat) : Float :=
  Float.ofScientific 1 false n

/-- `x · 10^-e`, in steps of at most `10^308`. A value that has become zero stays zero. -/
def scaleDown (x : Float) (e : Nat) : Float :=
  if e ≤ 308 then x / powerOfTen e
  else if x == 0 then x
  else scaleDown (x / powerOfTen 308) (e - 308)
  termination_by e

/-- `x · 10^e`, or nothing when the result is not finite. -/
def scaleUp (x : Float) (e : Nat) : Option Float :=
  if e ≤ 308 then
    let y := x * powerOfTen e
    if y.isInf then none else some y
  else if x == 0 then some x
  else none

/-- The double of `significand · 10^exponent`, or nothing when it is too large. -/
def scaled (negative : Bool) (significand : Nat) (exponent : Int) : Option Float :=
  let x := Float.ofNat significand
  let y := if 0 ≤ exponent then scaleUp x exponent.toNat else some (scaleDown x exponent.natAbs)
  y.map fun z => if negative then -z else z

end LiveBoard.Decimal
