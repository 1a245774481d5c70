import LiveBoard.Backoff.Jitter
import LiveBoard.Proofs.Backoff.Delay

/-!
# Delays that double

A backoff is asked for one delay after the other, and now and then to begin anew. It counts the
delays since then with 32 bits, as far as they go. Without jitter the `n`-th of them is the base
doubled `n - 1` times, up to the cap. The product saturates at the longest duration, which the cap
hides, but no delay is doubled more than 31 times. Where the base is so short that the cap is
farther away than that, the delays stop growing below the cap.

## Main definitions

* `JitteredBackoff.Call`, `JitteredBackoff.run`: what is asked of a backoff, and what it is then.
* `JitteredBackoff.streak`: the number of delays since the backoff began anew.

## Main results

* `JitteredBackoff.attempt_run`: the attempts of a whole run.
* `JitteredBackoff.plainDelay_eq`: the delay in unbounded numbers.
* `JitteredBackoff.doubles_up_to_cap`: the delays without jitter, and when they double.
* `JitteredBackoff.delay_stays_of_short_base`: a delay that does not.
-/

namespace LiveBoard

/-- Whole milliseconds as a duration. -/
def millis (ms : UInt64) : Nat := ms.toNat * nanosPerMilli

/-- Whole milliseconds are far below the longest duration, of almost `2 ^ 64` seconds. -/
theorem millis_lt (ms : UInt64) : millis ms < Nat.pow 2 55 * nanosPerSecond := by
  have hms : ms.toNat < UInt64.size := ms.toNat_lt
  have hpower : Nat.pow 2 55 = 36028797018963968 := rfl
  simp only [millis, nanosPerMilli, nanosPerSecond, UInt64.size, hpower] at hms ⊢
  omega

namespace JitteredBackoff

/-! ### Calls -/

/-- What is asked of a backoff. -/
inductive Call
  /-- The next delay, for which an extra is drawn. -/
  | next (extra : Nat)
  /-- To begin anew. -/
  | reset
  deriving Repr, DecidableEq

/-- The backoff after a call. -/
def after (b : JitteredBackoff) : Call → JitteredBackoff
  | .next extra => (b.next extra).2
  | .reset => b.reset

/-- The backoff after a sequence of calls. -/
def run (b : JitteredBackoff) (calls : List Call) : JitteredBackoff := calls.foldl after b

/-- A call counts one delay more, or begins anew. -/
def Call.count (n : Nat) : Call → Nat
  | .next _ => n + 1
  | .reset => 0

/-- The number of delays since the backoff began anew. -/
def streak (calls : List Call) : Nat := calls.foldl Call.count 0

variable {b : JitteredBackoff} {n : Nat}

/-- A call changes nothing but the attempts. -/
theorem after_eq (b : JitteredBackoff) (c : Call) :
    b.after c = { b with attempt := (b.after c).attempt } := by
  cases c <;> rfl

theorem run_eq (b : JitteredBackoff) (calls : List Call) :
    b.run calls = { b with attempt := (b.run calls).attempt } := by
  induction calls generalizing b with
  | nil => rfl
  | cons c calls ih =>
    have hrest : b.run (c :: calls) = (b.after c).run calls := rfl
    rw [hrest, ih, after_eq]

/-- One call goes into the count, as far as 32 bits go. -/
theorem attempt_after (h : b.attempt.toNat = min n (UInt32.size - 1)) (c : Call) :
    (b.after c).attempt.toNat = min (c.count n) (UInt32.size - 1) := by
  cases c with
  | next extra => exact toNat_nextAttempt h
  | reset => rfl

/-- **The attempts of a whole run** are the delays since the backoff began anew. -/
theorem attempt_run (h : b.attempt = 0) (calls : List Call) :
    (b.run calls).attempt.toNat = min (streak calls) (UInt32.size - 1) := by
  have hcount : b.attempt.toNat = min 0 (UInt32.size - 1) := by rw [h]; rfl
  clear h
  rw [run, streak]
  generalize 0 = n at hcount
  induction calls generalizing b n with
  | nil => exact hcount
  | cons c calls ih => exact ih _ (attempt_after hcount c)

/-! ### Delays -/

/-- **The delay in unbounded numbers.** The cap hides that the product saturates. -/
theorem plainDelay_eq (h : b.cap ≤ maxDuration) :
    b.plainDelay = min (b.base * Nat.pow 2 (min (b.attempt.toNat - 1) 31)) b.cap := by
  rw [plainDelay]
  omega

/-- Without jitter no extra counts. -/
theorem next_of_jitter_eq_zero (h : (b.jitter == 0.0) = true) (extra : Nat) :
    (b.next extra).1 = b.advance.plainDelay := if_pos h

/-- A backoff with whole milliseconds as its base and as the limit of its delays. -/
def ofMillis (base limit : UInt64) (fraction : Float) : JitteredBackoff :=
  (start (millis base) (millis limit)).withJitter fraction

section Millis

variable {base limit : UInt64} {fraction : Float} {calls : List Call}

theorem cap_ofMillis :
    (ofMillis base limit fraction).cap = max limit.toNat base.toNat * nanosPerMilli :=
  Nat.mul_max_mul_right _ _ _

theorem cap_ofMillis_lt : (ofMillis base limit fraction).cap < Nat.pow 2 55 * nanosPerSecond :=
  Nat.max_lt.mpr ⟨millis_lt limit, millis_lt base⟩

/-- What a run leaves but for the attempts. -/
theorem run_ofMillis (base limit : UInt64) (fraction : Float) (calls : List Call) :
    ((ofMillis base limit fraction).run calls).base = millis base ∧
      ((ofMillis base limit fraction).run calls).cap = (ofMillis base limit fraction).cap ∧
      ((ofMillis base limit fraction).run calls).jitter = clampFraction fraction := by
  rw [run_eq]
  exact ⟨rfl, rfl, rfl⟩

/-- **The delay after a run**, before an extra is added to it: the base doubled once for every
delay since the backoff began anew, but 31 times at most. -/
theorem plainDelay_run_ofMillis :
    ((ofMillis base limit fraction).run calls).advance.plainDelay =
      min (base.toNat * Nat.pow 2 (min (streak calls) 31)) (max limit.toNat base.toNat) *
        nanosPerMilli := by
  obtain ⟨hbase, hcap, -⟩ := run_ofMillis base limit fraction calls
  have hattempt : ((ofMillis base limit fraction).run calls).advance.attempt.toNat =
      min (streak calls + 1) (UInt32.size - 1) := toNat_nextAttempt (attempt_run rfl calls)
  have hexponent : min (((ofMillis base limit fraction).run calls).advance.attempt.toNat - 1) 31 =
      min (streak calls) 31 := by
    have hsize : UInt32.size = 4294967296 := rfl
    omega
  have hfits : ((ofMillis base limit fraction).run calls).advance.cap ≤ maxDuration := by
    rw [advance, hcap]
    exact Nat.le_trans (Nat.le_of_lt cap_ofMillis_lt) (by decide)
  rw [plainDelay_eq hfits, hexponent, advance, hbase, hcap, cap_ofMillis, millis,
    Nat.mul_right_comm, Nat.mul_min_mul_right]

end Millis

/-- A delay doubled at most 31 times has doubled every time, unless it might have grown further. -/
theorem min_double_eq_iff {base cap n : Nat} :
    min (base * Nat.pow 2 (min n 31)) cap = min (base * Nat.pow 2 n) cap ↔
      n ≤ 31 ∨ cap ≤ base * Nat.pow 2 31 ∨ base = 0 := by
  rcases Nat.lt_or_ge 31 n with hn | hn
  · rw [Nat.min_eq_right (Nat.le_of_lt hn)]
    rcases Nat.eq_zero_or_pos base with rfl | hbase
    · simp
    · have hpower : Nat.pow 2 31 < Nat.pow 2 n := Nat.pow_lt_pow_right (by decide) hn
      have hgrows := Nat.mul_lt_mul_of_pos_left hpower hbase
      omega
  · rw [Nat.min_eq_left hn]
    exact iff_of_true rfl (.inl hn)

/-- **Delays double up to the cap**, the first 32 of them. Whatever the base and the limit are in
whole milliseconds, after any calls the next delay of a backoff without jitter is the base doubled
once for every delay since the backoff began anew, but at most 31 times, up to the limit or the base
if that is greater, in numbers without bounds. This is the base doubled every time exactly if at
most 31 delays came before it, or 31 doublings reach the cap, or the base is zero. The attempts are
counted as far as 32 bits go. -/
theorem doubles_up_to_cap (base limit : UInt64) {fraction : Float}
    (h : (clampFraction fraction == 0.0) = true) (calls : List Call) (extra : Nat) :
    let b := (ofMillis base limit fraction).run calls
    let n := streak calls + 1
    let cap := max limit.toNat base.toNat
    (b.next extra).1 = min (base.toNat * Nat.pow 2 (min (n - 1) 31)) cap * nanosPerMilli ∧
      ((b.next extra).1 = min (base.toNat * Nat.pow 2 (n - 1)) cap * nanosPerMilli ↔
        n ≤ 32 ∨ cap ≤ base.toNat * Nat.pow 2 31 ∨ base = 0) ∧
      (b.next extra).2.attempt.toNat = min n (UInt32.size - 1) := by
  intro b n cap
  have hjitter : (b.jitter == 0.0) = true := by
    rw [(run_ofMillis base limit fraction calls).2.2, h]
  have hdelay : (b.next extra).1 =
      min (base.toNat * Nat.pow 2 (min (n - 1) 31)) cap * nanosPerMilli :=
    (next_of_jitter_eq_zero hjitter extra).trans plainDelay_run_ofMillis
  refine ⟨hdelay, ?_, toNat_nextAttempt (attempt_run rfl calls)⟩
  have hzero : base = 0 ↔ base.toNat = 0 := UInt64.toNat_inj.symm
  rw [hdelay, Nat.mul_left_inj (by decide), min_double_eq_iff, hzero, Nat.add_sub_cancel,
    Nat.succ_le_succ_iff]

/-- A fraction below zero is no jitter. The second delay after a reset is the base doubled once,
however many delays came before the reset. -/
theorem doubles_up_to_cap_of_reset :
    let calls : List Call := [.next 7, .next 0, .reset, .next 9]
    (clampFraction (-0.5) == 0.0) = true ∧ streak calls = 1 ∧
      (((ofMillis 100 1000 (-0.5)).run calls).next 5).1 = 200 * nanosPerMilli := by
  intro calls
  have hnone : (clampFraction (-0.5) == 0.0) = true := by decide +kernel
  obtain ⟨hdelay, -, -⟩ := doubles_up_to_cap 100 1000 hnone calls 5
  exact ⟨hnone, rfl, hdelay⟩

/-- A base of one millisecond does not reach the cap with 31 doublings, and the delay after 32
others is half of what one doubling more would have made it. -/
theorem delay_stays_of_short_base :
    let calls := List.replicate 32 (Call.next 0)
    let b := (ofMillis 1 4294967296 0.0).run calls
    streak calls + 1 = 33 ∧ (b.next 0).1 = 2147483648 * nanosPerMilli ∧
      (b.next 0).1 ≠ min (1 * Nat.pow 2 (33 - 1)) (max 4294967296 1) * nanosPerMilli := by
  decide +kernel

end JitteredBackoff

end LiveBoard
