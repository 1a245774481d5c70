/-!
# Shortest decimals

A positive double is a dyadic rational `m · 2^q` together with the interval of reals that round
to it. The shortest decimal of the double is the one with the fewest digits among the decimals
of that interval, and the one nearest to the value among those. On a grid of `n` digits only the
two neighbours of the value can be the answer: if any point of the grid lies in the interval,
then one of the two does.

All of it is exact arithmetic on natural numbers: value and interval are given over one common
denominator.

## Main definitions

* `Decimal.Interval`: a value and its rounding interval over a common denominator.
* `Decimal.shortest`: the digits of the shortest decimal and its decimal exponent.
-/

namespace LiveBoard.Decimal

/-- A positive value between two bounds, all three over the denominator `den`. The bounds belong
to the interval exactly when `closed` holds. -/
structure Interval where
  low : Nat
  value : Nat
  high : Nat
  den : Nat
  closed : Bool
  deriving Repr, DecidableEq

/-- The interval of the reals that round to `m · 2^q` when `gap` quarters of a unit in the last
place lie below the value: two of them, or one where the value opens a binade. -/
def Interval.ofDyadic (m : Nat) (q : Int) (gap : Nat) : Interval :=
  let up := (q - 2).toNat
  let down := (2 - q).toNat
  { low := (4 * m - gap) * Nat.pow 2 up
    value := 4 * m * Nat.pow 2 up
    high := (4 * m + 2) * Nat.pow 2 up
    den := Nat.pow 2 down
    closed := m % 2 == 0 }

/-- Whether `num / (interval's denominator · scale)` lies in the interval. -/
def Interval.admits (iv : Interval) (num scale : Nat) : Bool :=
  if iv.closed then iv.low * scale ≤ num && num ≤ iv.high * scale
  else iv.low * scale < num && num < iv.high * scale

/-- The greatest exponent `e` for which `10^e` is at most `num / den`, for a positive value. -/
def leadingExponent (num den : Nat) : Int :=
  if den ≤ num then Int.ofNat ((Nat.toDigits 10 (num / den)).length - 1)
  else
    let e := (Nat.toDigits 10 (den / num)).length
    if den ≤ num * Nat.pow 10 (e - 1) then -Int.ofNat (e - 1) else -Int.ofNat e

/-- The point of the grid with spacing `10^unit` that represents the value best, if the grid has
one in the interval. Of two points the nearer wins, and the even one on a tie. -/
def Interval.onGrid (iv : Interval) (unit : Int) : Option Nat :=
  let up := Nat.pow 10 unit.toNat
  let down := Nat.pow 10 (-unit).toNat
  let step := iv.den * up
  let target := iv.value * down
  let below := target / step
  let lowHit := iv.admits (below * step) down
  let highHit := iv.admits ((below + 1) * step) down
  if lowHit && highHit then
    let toLow := target - below * step
    let toHigh := (below + 1) * step - target
    some (if toLow < toHigh || toLow = toHigh && below % 2 = 0 then below else below + 1)
  else if lowHit then some below
  else if highHit then some (below + 1)
  else none

/-- The first grid of `count`, `count + 1`, … digits, at most `fuel` of them, that meets the
interval: its point and the exponent of its spacing. -/
def Interval.search (iv : Interval) (lead : Int) : Nat → Nat → Option (Nat × Int)
  | 0, _ => none
  | fuel + 1, count =>
    let unit := lead - Int.ofNat count + 1
    match iv.onGrid unit with
    | some d => some (d, unit)
    | none => iv.search lead fuel (count + 1)

/-- The digits of `n` without zeros at the end, for positive `n`. -/
def significantDigits (n : Nat) : List Char :=
  ((Nat.toDigits 10 n).reverse.dropWhile (· == '0')).reverse

/-- The shortest decimal of the interval's value: its digits `d₁d₂…` and the exponent `e` for
which the value reads `d₁.d₂… · 10^e`. Seventeen digits are enough for every double. -/
def shortest (iv : Interval) : List Char × Int :=
  let lead := leadingExponent iv.value iv.den
  match iv.search lead 17 1 with
  | some (d, unit) =>
    (significantDigits d, Int.ofNat ((Nat.toDigits 10 d).length - 1) + unit)
  | none => (['0'], 0)

end LiveBoard.Decimal
