import LiveBoard.Backoff.Policy

/-!
# Delays without saturation

A delay is computed with words of 64 bits that saturate, in the power and in the product. The limit
of the policy is such a word itself, so saturation never shows: the delay is the product of the base
and a power of the factor in unbounded numbers, up to the limit. It therefore grows with the number
of the attempt, from the base towards the limit.

## Main results

* `BackoffPolicy.delay_eq`: the delay in unbounded numbers.
* `BackoffPolicy.delay_mono`, `BackoffPolicy.min_le_delay`, `BackoffPolicy.delay_le_maxMs`: delays
  grow, from the base up to the limit.
* `BackoffPolicy.delay_is_exact`: all of it for every policy and attempt.
-/

namespace LiveBoard

/-- A count of 32 bits that goes on as far as it can. -/
theorem toNat_nextAttempt {a : UInt32} {n : Nat} (h : a.toNat = min n (UInt32.size - 1)) :
    (if a = 0xFFFFFFFF then a else a + 1).toNat = min (n + 1) (UInt32.size - 1) := by
  have hsize : UInt32.size = 4294967296 := rfl
  split
  · next hmax =>
    subst hmax
    have hvalue : (0xFFFFFFFF : UInt32).toNat = 4294967295 := rfl
    omega
  · next hmax =>
    have hne : a.toNat ≠ 4294967295 := fun heq => hmax (UInt32.toNat_inj.mp heq)
    have hone : (1 : UInt32).toNat = 1 := rfl
    rw [UInt32.toNat_add]
    omega

/-- A power of a positive base saturates where it does not fit a word. -/
theorem cappedPower_eq {b : Nat} (hb : 0 < b) (e : Nat) :
    cappedPower b e = min (Nat.pow b e) maxWord := by
  rw [cappedPower]
  split
  · next hone =>
    obtain rfl : b = 1 := Nat.le_antisymm hone hb
    simp [maxWord, UInt64.size]
  · next hone =>
    split
    · next he =>
      have hpower : Nat.pow 2 64 ≤ Nat.pow b e :=
        calc Nat.pow 2 64 ≤ Nat.pow 2 e := Nat.pow_le_pow_right (by decide) he
          _ ≤ Nat.pow b e := Nat.pow_le_pow_left (by omega) e
      have hword : maxWord ≤ Nat.pow b e := Nat.le_trans (by decide) hpower
      exact (Nat.min_eq_right hword).symm
    · rfl

namespace BackoffPolicy

variable (p : BackoffPolicy)

theorem maxMs_le_maxWord : p.maxMs.toNat ≤ maxWord :=
  Nat.le_sub_one_of_lt p.maxMs.toNat_lt

/-- **The delay in unbounded numbers.** Neither the power nor the product shows that it
saturates. -/
theorem delay_eq (attempt : UInt32) :
    p.delay attempt =
      min (p.baseMs.toNat * Nat.pow (max p.multiplier.toNat 1) (attempt.toNat - 1))
        p.maxMs.toNat := by
  have hmax := p.maxMs_le_maxWord
  rw [delay, cappedPower_eq (Nat.le_max_right _ 1)]
  generalize Nat.pow (max p.multiplier.toNat 1) (attempt.toNat - 1) = power
  rcases Nat.le_total power maxWord with hpower | hpower
  · rw [Nat.min_eq_left hpower]
    omega
  · rw [Nat.min_eq_right hpower]
    rcases Nat.eq_zero_or_pos p.baseMs.toNat with hbase | hbase
    · simp [hbase]
    · have hleft : maxWord ≤ p.baseMs.toNat * maxWord := Nat.le_mul_of_pos_left _ hbase
      have hright : maxWord ≤ p.baseMs.toNat * power :=
        Nat.le_trans hleft (Nat.mul_le_mul_left _ hpower)
      omega

theorem delay_le_maxMs (attempt : UInt32) : p.delay attempt ≤ p.maxMs.toNat := by
  rw [delay_eq]
  exact Nat.min_le_right _ _

/-- Delays do not get shorter from one attempt to the next. -/
theorem delay_mono {i j : UInt32} (h : i ≤ j) : p.delay i ≤ p.delay j := by
  have hexponent : i.toNat - 1 ≤ j.toNat - 1 := Nat.sub_le_sub_right (UInt32.le_iff_toNat_le.mp h) 1
  have hpower : Nat.pow (max p.multiplier.toNat 1) (i.toNat - 1) ≤
      Nat.pow (max p.multiplier.toNat 1) (j.toNat - 1) :=
    Nat.pow_le_pow_right (Nat.le_max_right _ 1) hexponent
  have hproduct := Nat.mul_le_mul_left p.baseMs.toNat hpower
  rw [delay_eq, delay_eq]
  omega

/-- No delay is shorter than the base, unless the limit is. -/
theorem min_le_delay (attempt : UInt32) :
    min p.baseMs.toNat p.maxMs.toNat ≤ p.delay attempt := by
  have hpower : 0 < Nat.pow (max p.multiplier.toNat 1) (attempt.toNat - 1) :=
    Nat.pow_pos (Nat.le_max_right _ 1)
  have hproduct : p.baseMs.toNat ≤
      p.baseMs.toNat * Nat.pow (max p.multiplier.toNat 1) (attempt.toNat - 1) :=
    Nat.le_mul_of_pos_right _ hpower
  rw [delay_eq]
  omega

/-- **A delay is exact.** Whatever the base, the factor and the limit of a policy are, the delay
before an attempt is the base times the factor to the number of attempts before it, up to the
limit, in numbers without bounds. A factor 0 counts as 1, and attempt 0 as the first one. So delays
do not get shorter from one attempt to a later one, none exceeds the limit, and none is below both
the base and the limit. -/
theorem delay_is_exact (p : BackoffPolicy) :
    (∀ attempt : UInt32, p.delay attempt =
      min (p.baseMs.toNat * Nat.pow (max p.multiplier.toNat 1) (max attempt.toNat 1 - 1))
        p.maxMs.toNat) ∧
    (∀ i j : UInt32, i ≤ j → p.delay i ≤ p.delay j) ∧
    ∀ attempt : UInt32, min p.baseMs.toNat p.maxMs.toNat ≤ p.delay attempt ∧
      p.delay attempt ≤ p.maxMs.toNat := by
  refine ⟨fun attempt => ?_, fun i j hij => p.delay_mono hij, fun attempt => ?_⟩
  · have hexponent : max attempt.toNat 1 - 1 = attempt.toNat - 1 := by omega
    rw [delay_eq, hexponent]
  · exact ⟨p.min_le_delay attempt, p.delay_le_maxMs attempt⟩

/-- The delay of attempt 41 is the last one that a word can hold, of attempt 42 the power overflows,
and of the last attempt it does so by far. -/
theorem delay_is_exact_of_overflow :
    let p : BackoffPolicy := ⟨1, 3, 0xFFFFFFFFFFFFFFFF⟩
    (42 : UInt32) ≤ 0xFFFFFFFF ∧ p.delay 42 ≤ p.delay 0xFFFFFFFF ∧
      p.delay 41 = 12157665459056928801 ∧ p.delay 42 = 18446744073709551615 := by
  intro p
  obtain ⟨hexact, hgrow, -⟩ := delay_is_exact p
  have hlater : (42 : UInt32) ≤ 0xFFFFFFFF := by decide
  exact ⟨hlater, hgrow 42 0xFFFFFFFF hlater, (hexact 41).trans (by decide +kernel),
    (hexact 42).trans (by decide +kernel)⟩

end BackoffPolicy

end LiveBoard
