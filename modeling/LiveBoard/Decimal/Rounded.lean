import LiveBoard.Decimal.Double

/-!
# Rounded doubles

The text of the whole number nearest to a double. The double is taken exactly, and of two whole
numbers that are equally near the even one is written. A double need not be finite.

## Main definitions

* `Decimal.divNearest`: the natural number nearest to a quotient.
* `Decimal.rounded`: the text of the whole number nearest to a double.
-/

namespace LiveBoard.Decimal

/-- The natural number nearest to `num / den`, the even one of two that are equally near. -/
def divNearest (num den : Nat) : Nat :=
  let below := num / den
  let twice := 2 * (num % den)
  if twice < den then below
  else if den < twice then below + 1
  else below + below % 2

/-- The natural number nearest to the magnitude of a finite double. -/
def nearestNat (x : Float) : Nat :=
  let iv := Interval.ofDouble x
  divNearest iv.value iv.den

/-- The text of the whole number nearest to a double. The sign is written even before a zero. -/
def rounded (x : Float) : List Char :=
  if x.isNaN then ['N', 'a', 'N']
  else
    let text := if x.isInf then ['i', 'n', 'f'] else Nat.toDigits 10 (nearestNat x)
    if isNegative x then '-' :: text else text

end LiveBoard.Decimal
