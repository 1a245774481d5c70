import LiveBoard.Json.Decoder
import LiveBoard.Json.Members

/-!
# Backoff policies

How long to wait before the next attempt to reconnect: a base delay that grows by a factor with
every attempt, up to a limit. Delays are milliseconds of 64 bits. The product saturates on the
way, which the limit hides.

## Main definitions

* `BackoffPolicy`: base, factor and limit.
* `BackoffPolicy.delay`: the delay before an attempt.
-/

namespace LiveBoard

open Json

/-- The greatest number of 64 bits. -/
def maxWord : Nat := UInt64.size - 1

/-- `b ^ e`, or `maxWord` where that is less. The base is positive. -/
def cappedPower (b e : Nat) : Nat :=
  if b ≤ 1 then Nat.pow b (min e 1)
  else if 64 ≤ e then maxWord
  else min (Nat.pow b e) maxWord

/-- The policy for the delays before attempts to reconnect. -/
structure BackoffPolicy where
  baseMs : UInt64
  multiplier : UInt32
  maxMs : UInt64
  deriving Repr, DecidableEq

namespace BackoffPolicy

/-- A second at first, twice as long every time, half a minute at most. -/
def standard : BackoffPolicy := ⟨1000, 2, 30000⟩

/-- The delay in milliseconds before an attempt. Attempts count from 1; attempt 0 is taken for
the first. -/
def delay (p : BackoffPolicy) (attempt : UInt32) : Nat :=
  let power := cappedPower (max p.multiplier.toNat 1) (attempt.toNat - 1)
  min (min (p.baseMs.toNat * power) maxWord) p.maxMs.toNat

/-! ### Reading and writing -/

/-- A policy in the making. -/
structure Draft where
  baseMs : Option Nat := none
  multiplier : Option Nat := none
  maxMs : Option Nat := none

/-- The policy of a draft, completed by the standard one. -/
def Draft.build (d : Draft) : BackoffPolicy where
  baseMs := (d.baseMs.map Nat.toUInt64).getD standard.baseMs
  multiplier := (d.multiplier.map Nat.toUInt32).getD standard.multiplier
  maxMs := (d.maxMs.map Nat.toUInt64).getD standard.maxMs

/-- The written shape of a policy. -/
def shape : RecordShape Draft BackoffPolicy where
  name := "struct BackoffPolicy"
  blank := {}
  build d := some d.build
  slots := [
    .of "base_ms" false (·.baseMs) (fun d x => { d with baseMs := some x }) (.unsigned 64),
    .of "multiplier" false (·.multiplier) (fun d x => { d with multiplier := some x })
      (.unsigned 32),
    .of "max_ms" false (·.maxMs) (fun d x => { d with maxMs := some x }) (.unsigned 64)]

/-- Reads a policy. -/
def decoder : Decoder BackoffPolicy := shape.decoder

/-- The written form of a policy. -/
def toValue (p : BackoffPolicy) : Value :=
  .object [
    ("base_ms", .nat p.baseMs.toNat),
    ("multiplier", .nat p.multiplier.toNat),
    ("max_ms", .nat p.maxMs.toNat)]

end BackoffPolicy

end LiveBoard
