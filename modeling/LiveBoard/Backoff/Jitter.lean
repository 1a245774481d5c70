import LiveBoard.Decimal.Rounded

/-!
# Backoff with jitter

Delays for retrying one-shot operations: a base that doubles with every attempt, up to a cap, with
a random extra of at most a given fraction of the delay. Durations are nanoseconds. The fraction is
multiplied in double precision, in seconds, and the product rounded to the nearest nanosecond.

## Main definitions

* `JitteredBackoff`: base, cap, fraction and the number of attempts so far.
* `JitteredBackoff.next`: the next delay for a given random extra.
-/

namespace LiveBoard

/-- The nanoseconds of a second. -/
def nanosPerSecond : Nat := 1000000000

/-- The nanoseconds of a millisecond. -/
def nanosPerMilli : Nat := 1000000

/-- The longest duration: `2^64 - 1` seconds and all nanoseconds of another one but one. -/
def maxDuration : Nat := UInt64.size * nanosPerSecond - 1

/-- A duration as a double of seconds. -/
def durationSeconds (nanos : Nat) : Float :=
  Float.ofNat (nanos / nanosPerSecond)
    + Float.ofNat (nanos % nanosPerSecond) / Float.ofNat nanosPerSecond

/-- The duration nearest to a double of seconds, which is finite and not negative. -/
def durationOfSeconds (x : Float) : Nat :=
  let bits := x.toBits.toNat % Nat.pow 2 63
  let exponent := bits / Nat.pow 2 52
  let fraction := bits % Nat.pow 2 52
  let m := if exponent = 0 then fraction else fraction + Nat.pow 2 52
  let up := exponent - 1075
  let down := 1075 - max exponent 1
  Decimal.divNearest (m * Nat.pow 2 up * nanosPerSecond) (Nat.pow 2 down)

/-- The fraction of a duration. -/
def scaleDuration (nanos : Nat) (fraction : Float) : Nat :=
  durationOfSeconds (fraction * durationSeconds nanos)

/-- A backoff in progress. -/
structure JitteredBackoff where
  base : Nat
  cap : Nat
  jitter : Float
  attempt : UInt32
  deriving Repr, DecidableEq

namespace JitteredBackoff

/-- A backoff without jitter. The cap is never below the base. -/
def start (base cap : Nat) : JitteredBackoff := ⟨base, max cap base, 0.0, 0⟩

/-- A second at first, half a minute at most. -/
def standard : JitteredBackoff := start (1000 * nanosPerMilli) (30000 * nanosPerMilli)

/-- A fraction between 0 and 1; one that is not finite counts as 0. -/
def clampFraction (fraction : Float) : Float :=
  if fraction.isFinite then
    if fraction < 0.0 then 0.0 else if 1.0 < fraction then 1.0 else fraction
  else 0.0

/-- The same backoff with a fraction of jitter. -/
def withJitter (b : JitteredBackoff) (fraction : Float) : JitteredBackoff :=
  { b with jitter := clampFraction fraction }

/-- The attempts counted one further, as far as 32 bits go. -/
def advance (b : JitteredBackoff) : JitteredBackoff :=
  { b with attempt := if b.attempt = 0xFFFFFFFF then b.attempt else b.attempt + 1 }

/-- The delay of the current attempt without jitter. -/
def plainDelay (b : JitteredBackoff) : Nat :=
  min (min (b.base * Nat.pow 2 (min (b.attempt.toNat - 1) 31)) maxDuration) b.cap

/-- The greatest extra that may be drawn for the current attempt. -/
def spread (b : JitteredBackoff) : Nat :=
  if b.jitter == 0.0 then 0 else scaleDuration b.plainDelay b.jitter

/-- The delay of the current attempt with a drawn extra. -/
def delayWith (b : JitteredBackoff) (extra : Nat) : Nat :=
  if b.jitter == 0.0 then b.plainDelay else min (b.plainDelay + extra) b.cap

/-- The next delay, with a drawn extra that is held to what may be drawn, and the backoff after
it. -/
def next (b : JitteredBackoff) (extra : Nat) : Nat × JitteredBackoff :=
  let b := b.advance
  (b.delayWith (min extra b.spread), b)

/-- The backoff as it was at the start. -/
def reset (b : JitteredBackoff) : JitteredBackoff := { b with attempt := 0 }

end JitteredBackoff

end LiveBoard
