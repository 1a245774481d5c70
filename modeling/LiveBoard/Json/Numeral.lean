import LiveBoard.Decimal.Double
import LiveBoard.Json.Value

/-!
# Numerals

A number as it is spelled in JSON text, and the number it stands for. An integer of at most 64
bits stands for itself; anything else stands for a double, and a double out of range is no number
at all. A negative zero is a double, since no integer has that sign.

## Main definitions

* `Json.Fault`: why a text is not JSON.
* `Json.Numeral`: the parts of a spelled number.
* `Json.Numeral.value`: the number it stands for.
-/

namespace LiveBoard.Json

/-- Why a text is not a JSON document: it ended too early, or it is malformed. -/
inductive Fault
  | endOfText
  | malformed
  deriving Repr, DecidableEq

/-- A number as it is spelled. An empty `fraction` means that there is no point. -/
structure Numeral where
  negative : Bool
  whole : List Char
  fraction : List Char
  exponent : Option (Bool × List Char)
  deriving Repr, DecidableEq

namespace Numeral

/-- The value of a decimal digit. -/
def digit (c : Char) : Nat := c.toNat - '0'.toNat

/-- The value of a list of decimal digits. -/
def natOfDigits (ds : List Char) : Nat :=
  ds.foldl (fun n d => 10 * n + digit d) 0

/-- Appends digits to a significand as long as it fits 64 bits. Gives the significand and the
number of digits that were appended. -/
def absorb (significand : Nat) : List Char → Nat × Nat
  | [] => (significand, 0)
  | d :: ds =>
    let next := 10 * significand + digit d
    if next < UInt64.size then
      let (s, n) := absorb next ds
      (s, n + 1)
    else (significand, 0)

/-- The double of a significand, a power of ten and a spelled exponent on top of it. Spelled
exponents beyond 31 bits are out of range, whatever the digits before them. -/
def withExponent (negative : Bool) (significand : Nat) (shift : Int) :
    Option (Bool × List Char) → Except Fault Float
  | none => fits (Decimal.scaled negative significand shift)
  | some (down, ds) =>
    let e := natOfDigits ds
    if e < Nat.pow 2 31 then
      fits (Decimal.scaled negative significand (if down then shift - e else shift + e))
    else if significand ≠ 0 && !down then .error .malformed
    else .ok (if negative then -0.0 else 0.0)
where
  /-- A result that is not finite is a malformed number. -/
  fits : Option Float → Except Fault Float
    | some x => .ok x
    | none => .error .malformed

/-- The number that a numeral stands for. -/
def value (n : Numeral) : Except Fault Number :=
  let (s, taken) := absorb 0 n.whole
  let dropped := n.whole.length - taken
  if n.fraction.isEmpty && n.exponent.isNone && dropped = 0 then
    if !n.negative then .ok (.integer s)
    else if s = 0 || Nat.pow 2 63 < s then .ok (.double (-Float.ofNat s))
    else .ok (.integer (-s))
  else
    let (s, decimals) := absorb s n.fraction
    (withExponent n.negative s (Int.ofNat dropped - Int.ofNat decimals) n.exponent).map .double

end Numeral

end LiveBoard.Json
