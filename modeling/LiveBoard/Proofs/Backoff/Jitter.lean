import LiveBoard.Proofs.Backoff.Doubling
import LiveBoard.Proofs.Decimal.Unsigned

/-!
# Delays with jitter

A random extra is added to a delay, of at most a fraction of it, and the sum is held to the cap. The
fraction is a double that somebody gives, and it is clamped: what is not finite counts as zero, and
what is left is between zero and one. So whatever was given and whatever is drawn, a delay is never
shorter than without jitter and never exceeds the cap.

The fraction of a delay is computed in seconds, as a product of doubles that rounds several times.
The exponents of the doubles on the way bound what comes of it. A delay of whole milliseconds is
less than `2 ^ 55` seconds, its fraction rounds to less than `2 ^ 60`, and a duration holds
`2 ^ 64`. So neither the product nor the sum overflows.

## Main results

* `JitteredBackoff.isUnsignedLE_clampFraction`: what the fraction is clamped to.
* `isUnsignedLE_durationSeconds`, `durationOfSeconds_le`: between durations and doubles.
* `JitteredBackoff.next_bounds`, `JitteredBackoff.spread_fits`: one delay, and its extra.
* `JitteredBackoff.jitter_keeps_bounds`: the delays of any run.
-/

namespace LiveBoard

open Decimal

/-! ### Durations in seconds -/

theorem divNearest_le {num den : Nat} (h : 0 < den) : divNearest num den ≤ num := by
  have hdiv : den * (num / den) + num % den = num := Nat.div_add_mod num den
  have hbelow : num / den ≤ den * (num / den) := Nat.le_mul_of_pos_left _ h
  rw [divNearest]
  split
  · omega
  · split <;> omega

/-- A double below `2 ^ (53 + k)` stands for at most that many seconds. -/
theorem durationOfSeconds_le {k : Nat} {x : Float} (hx : HasExponentLE k x) :
    durationOfSeconds x ≤ 2 ^ (53 + k) * nanosPerSecond := by
  have hbits := exponentBits_le (by omega) hx
  rw [durationOfSeconds]
  generalize hexponent : x.toBits.toNat % Nat.pow 2 63 / Nat.pow 2 52 = exponent at hbits
  have hfraction : x.toBits.toNat % Nat.pow 2 63 % Nat.pow 2 52 < Nat.pow 2 52 :=
    Nat.mod_lt _ (by decide)
  generalize x.toBits.toNat % Nat.pow 2 63 % Nat.pow 2 52 = fraction at hfraction
  have hsignificand : (if exponent = 0 then fraction else fraction + Nat.pow 2 52) ≤ 2 ^ 53 := by
    have hpower : Nat.pow 2 52 + Nat.pow 2 52 = 2 ^ 53 := rfl
    split <;> omega
  refine Nat.le_trans (divNearest_le (Nat.pow_pos (by decide))) (Nat.mul_le_mul_right _ ?_)
  rw [Nat.pow_add]
  exact Nat.mul_le_mul hsignificand (Nat.pow_le_pow_right (by decide) (by omega))

/-- A second as a double of nanoseconds. -/
theorem isLarge_nanosPerSecond :
    IsLarge (Float.ofNat nanosPerSecond).toModel.unpack = true := by
  decide +kernel

/-- **A duration in seconds** is a double that is not below zero, and hardly greater than the
duration. -/
theorem isUnsignedLE_durationSeconds {nanos : Nat} (h : nanos < 2 ^ 55 * nanosPerSecond) :
    IsUnsignedLE 5 (durationSeconds nanos) := by
  have hseconds : nanos / nanosPerSecond < 2 ^ (52 + 3) :=
    Nat.div_lt_of_lt_mul (by rwa [Nat.mul_comm])
  have hrest : nanos % nanosPerSecond < 2 ^ (52 + 3) :=
    Nat.lt_trans (Nat.mod_lt _ (by decide)) (by decide)
  have hunit : IsUnsignedLE 3 (Float.ofNat nanosPerSecond) :=
    isUnsignedLE_ofNat (by decide) (by decide) (by decide)
  have hwhole : IsUnsignedLE 3 (Float.ofNat (nanos / nanosPerSecond)) :=
    isUnsignedLE_ofNat (by decide) (by decide) hseconds
  have hpart : IsUnsignedLE 3
      (Float.ofNat (nanos % nanosPerSecond) / Float.ofNat nanosPerSecond) :=
    (isUnsignedLE_ofNat (by decide) (by decide) hrest).div hunit.unsigned isLarge_nanosPerSecond
      (by decide) (by decide)
  exact hwhole.add hpart (by decide) (by decide)

namespace JitteredBackoff

variable {b : JitteredBackoff}

/-! ### The fraction -/

/-- **What the fraction is clamped to** is between zero and one. -/
theorem isUnsignedLE_clampFraction (fraction : Float) :
    IsUnsignedLE (-52) (clampFraction fraction) := by
  have hzero : IsUnsignedLE (-52) 0.0 :=
    isUnsignedLE_of_not_lt (by decide +kernel) (by decide +kernel) (by decide +kernel)
  rw [clampFraction]
  split
  · next hfinite =>
    split
    · exact hzero
    · next hnegative =>
      split
      · exact isUnsignedLE_of_not_lt (by decide +kernel) (by decide +kernel) (by decide +kernel)
      · next hgreat => exact isUnsignedLE_of_not_lt hfinite hnegative hgreat
  · exact hzero

/-- The product for a fraction of a duration. -/
theorem isUnsignedLE_product (fraction : Float) {nanos : Nat}
    (h : nanos < 2 ^ 55 * nanosPerSecond) :
    IsUnsignedLE 7 (clampFraction fraction * durationSeconds nanos) :=
  (isUnsignedLE_clampFraction fraction).mul (isUnsignedLE_durationSeconds h) (by decide)
    (by decide) (by decide)

/-! ### Delays -/

/-- **What a drawn extra does to a delay**: it makes it longer by no more than itself, up to the
cap. -/
theorem next_bounds (b : JitteredBackoff) (extra : Nat) :
    b.advance.plainDelay ≤ (b.next extra).1 ∧
      (b.next extra).1 ≤ b.advance.plainDelay + extra ∧ (b.next extra).1 ≤ b.cap := by
  have hcap : b.advance.plainDelay ≤ b.cap := Nat.min_le_right _ _
  have hnext : (b.next extra).1 =
      if b.jitter == 0.0 then b.advance.plainDelay
      else min (b.advance.plainDelay + min extra b.advance.spread) b.cap := rfl
  rw [hnext]
  split <;> omega

/-- **Neither the product nor the sum overflows**, for a delay of whole milliseconds. -/
theorem spread_fits {fraction : Float} (hjitter : b.jitter = clampFraction fraction)
    (hdelay : b.plainDelay < 2 ^ 55 * nanosPerSecond) :
    let product := b.jitter * durationSeconds b.plainDelay
    product.isFinite = true ∧ ¬product < 0.0 ∧ durationOfSeconds product ≤ maxDuration ∧
      ∀ drawn ≤ b.spread, b.plainDelay + drawn ≤ maxDuration := by
  intro product
  have hproduct : IsUnsignedLE 7 product := by
    have h := isUnsignedLE_product fraction hdelay
    rwa [← hjitter] at h
  have hduration : durationOfSeconds product ≤ 2 ^ 60 * nanosPerSecond :=
    durationOfSeconds_le (k := 7) hproduct.exponent
  have hspread : b.spread ≤ 2 ^ 60 * nanosPerSecond := by
    rw [spread]
    split
    · exact Nat.zero_le _
    · exact hduration
  have hroom : 2 ^ 55 * nanosPerSecond + 2 ^ 60 * nanosPerSecond ≤ maxDuration := by decide
  exact ⟨hproduct.exponent.isFinite, hproduct.not_lt_zero, by omega, fun drawn hdrawn => by omega⟩

theorem millis_le_plainDelay (base limit : UInt64) (fraction : Float) (calls : List Call) :
    millis base ≤ ((ofMillis base limit fraction).run calls).advance.plainDelay := by
  rw [plainDelay_run_ofMillis]
  exact Nat.mul_le_mul_right _ (Nat.le_min.mpr
    ⟨Nat.le_mul_of_pos_right _ (Nat.pow_pos (by decide)), Nat.le_max_right _ _⟩)

/-- The call asks for a delay. -/
def Call.isNext : Call → Bool
  | .next _ => true
  | .reset => false

/-- The count does not depend on what is drawn. -/
theorem streak_congr {calls others : List Call}
    (h : others.map Call.isNext = calls.map Call.isNext) : streak others = streak calls := by
  have hcount : ∀ calls : List Call, streak calls =
      (calls.map Call.isNext).foldl (fun n asks => if asks then n + 1 else 0) 0 := by
    intro calls
    rw [List.foldl_map, streak]
    congr 1
    funext n c
    cases c <;> rfl
  rw [hcount, hcount, h]

/-- Without a fraction, a backoff of whole milliseconds is as it was made. -/
theorem ofMillis_zero (base limit : UInt64) :
    ofMillis base limit 0.0 = start (millis base) (millis limit) := by
  have hzero : clampFraction 0.0 = 0.0 := by decide +kernel
  rw [ofMillis, withJitter, hzero]
  rfl

/-- **Jitter keeps to its bounds.** Whatever the base and the limit are in whole milliseconds,
whatever fraction is given, and whatever was called and drawn before: the next delay is not shorter
than that of a backoff without jitter after the same calls, which is not shorter than the base, it
is longer by no more than what is drawn, and it does not exceed the limit, or the base if that is
greater. The fraction of the delay is computed from a finite product that is not below zero and
stands for a duration, and together with anything that may be drawn the delay is still a duration.
The attempts do not depend on what is drawn. -/
theorem jitter_keeps_bounds (base limit : UInt64) (fraction : Float) (calls : List Call)
    (extra : Nat) :
    let plain := (start (millis base) (millis limit)).run calls
    let jittered := ((start (millis base) (millis limit)).withJitter fraction).run calls
    ((plain.next extra).1 ≤ (jittered.next extra).1 ∧ millis base ≤ (plain.next extra).1 ∧
      (jittered.next extra).1 ≤ (plain.next extra).1 + extra ∧
      (jittered.next extra).1 ≤ max (millis limit) (millis base)) ∧
    (let now := jittered.advance
      let product := now.jitter * durationSeconds now.plainDelay
      product.isFinite = true ∧ ¬product < 0.0 ∧ durationOfSeconds product ≤ maxDuration ∧
        ∀ drawn ≤ now.spread, now.plainDelay + drawn ≤ maxDuration) ∧
    ∀ others : List Call, others.map Call.isNext = calls.map Call.isNext →
      (((start (millis base) (millis limit)).withJitter fraction).run others).attempt =
        jittered.attempt := by
  intro plain jittered
  have hplain : plain = (ofMillis base limit 0.0).run calls := by rw [ofMillis_zero]
  have hjittered : jittered = (ofMillis base limit fraction).run calls := rfl
  obtain ⟨-, hcap, hjitter⟩ := run_ofMillis base limit fraction calls
  rw [← hjittered] at hcap hjitter
  have hnone : (plain.next extra).1 = plain.advance.plainDelay := by
    refine next_of_jitter_eq_zero ?_ extra
    rw [hplain, (run_ofMillis base limit 0.0 calls).2.2]
    decide +kernel
  have hsame : plain.advance.plainDelay = jittered.advance.plainDelay := by
    rw [hplain, hjittered, plainDelay_run_ofMillis, plainDelay_run_ofMillis]
  obtain ⟨hlonger, hextra, hlimit⟩ := jittered.next_bounds extra
  refine ⟨⟨?_, ?_, ?_, Nat.le_trans hlimit (Nat.le_of_eq hcap)⟩, ?_, fun others hothers => ?_⟩
  · rwa [hnone, hsame]
  · rw [hnone, hplain]
    exact millis_le_plainDelay base limit 0.0 calls
  · rwa [hnone, hsame]
  · have hdelay : jittered.advance.plainDelay ≤ jittered.cap := Nat.min_le_right _ _
    exact spread_fits (b := jittered.advance) hjitter
      (Nat.lt_of_le_of_lt (Nat.le_trans hdelay (Nat.le_of_eq hcap)) cap_ofMillis_lt)
  · refine UInt32.toNat_inj.mp ?_
    rw [attempt_run rfl others, streak_congr hothers, attempt_run rfl calls]

/-- All of half a delay of 200 ms is drawn, and the cap leaves half of what was drawn. Another draw
before leads to the same attempts. -/
theorem jitter_keeps_bounds_of_half :
    let plain := (start (millis 100) (millis 250)).run [.next 0]
    let jittered := ((start (millis 100) (millis 250)).withJitter 0.5).run [.next 0]
    let now := jittered.advance
    let drawn := 100 * nanosPerMilli
    now.spread = drawn ∧ now.plainDelay + drawn ≤ maxDuration ∧
      (plain.next drawn).1 = 200 * nanosPerMilli ∧
      (jittered.next drawn).1 = 250 * nanosPerMilli ∧
      (plain.next drawn).1 ≤ (jittered.next drawn).1 ∧
      [Call.next 7].map Call.isNext = [Call.next 0].map Call.isNext ∧
      (((start (millis 100) (millis 250)).withJitter 0.5).run [.next 7]).attempt =
        jittered.attempt := by
  intro plain jittered now drawn
  obtain ⟨⟨hlonger, -, -, -⟩, ⟨-, -, -, hfits⟩, hattempt⟩ :=
    jitter_keeps_bounds 100 250 0.5 [.next 0] drawn
  have hspread : now.spread = drawn := by decide +kernel
  have hkinds : [Call.next 7].map Call.isNext = [Call.next 0].map Call.isNext := rfl
  exact ⟨hspread, hfits drawn (Nat.le_of_eq hspread.symm), by decide +kernel, by decide +kernel,
    hlonger, hkinds, hattempt _ hkinds⟩

end JitteredBackoff

end LiveBoard
