import LiveBoard.Proofs.Connection.Outage

/-!
# The count of attempts at its limit

A machine counts the reconnect timers of an outage with 32 bits, as far as they go: from then on
the count stays where it is. The next delay is that of one attempt more, and this sum is not held
back. As long as it fits, it is the sum of unbounded numbers, and the delays of an outage do not get
shorter. It fits exactly until the timers that have fired are as many as can be counted. Then the
sum is 0, which is taken for the first attempt, and the machine waits the first delay of an outage
that has lasted for all of them.

## Main definitions

* `Machine.failures`: a run in which no socket ever opens.

## Main results

* `Machine.run_failures`: the machine after any number of failures that can be counted.
* `Machine.delays_grow_below_limit`: the next delay while the sum fits.
* `Machine.delay_drops_at_limit`: two delays in a row, the second one far shorter.
-/

namespace LiveBoard.Connection

namespace Machine

variable {m : Machine} {e : Event} {es seen : List Event}

/-! ### Below the limit -/

/-- The next attempt can be numbered exactly if another timer of the outage can be counted. -/
theorem IsCounted.attempt_fits_iff (h : m.IsCounted seen) :
    m.attempt.toNat + 1 < UInt32.size ↔
      seen.countP Event.isReconnectDue + 1 < UInt32.size := by
  have hsize : UInt32.size = 4294967296 := rfl
  have hattempt := h.attempt
  omega

/-- While an outage lasts, no attempt of it is forgotten. -/
theorem IsSteady.attempt_le_run (hm : m.IsSteady) (hcount : m.IsCounted seen)
    (hes : ∀ e ∈ m.acted es, e.endsOutage = false) :
    m.attempt.toNat ≤ (m.run es).attempt.toNat := by
  have hlater := (hm.isCounted_run hcount es).attempt
  rw [countP_since _ hes] at hlater
  have hearlier := hcount.attempt
  omega

/-- Where the next attempt can be numbered, its delay is the base times the factor to the number of
attempts so far, up to the limit. -/
theorem nextDelay_eq_of_fits (h : m.attempt.toNat + 1 < UInt32.size) :
    m.nextDelay =
      min (m.policy.baseMs.toNat * Nat.pow (max m.policy.multiplier.toNat 1) m.attempt.toNat)
        m.policy.maxMs.toNat := by
  rw [nextDelay_eq_ofNat, BackoffPolicy.delay_eq, UInt32.toNat_ofNat_of_lt' h, Nat.add_sub_cancel]

/-- With more attempts the next delay is not shorter, as long as the attempt can be numbered. -/
theorem nextDelay_le_of_fits {m' : Machine} (hpolicy : m'.policy = m.policy)
    (hattempt : m.attempt.toNat ≤ m'.attempt.toNat) (h : m'.attempt.toNat + 1 < UInt32.size) :
    m.nextDelay ≤ m'.nextDelay := by
  rw [nextDelay_eq_ofNat, nextDelay_eq_ofNat, hpolicy]
  refine m.policy.delay_mono (UInt32.le_iff_toNat_le.mpr ?_)
  rw [UInt32.toNat_ofNat_of_lt' (by omega), UInt32.toNat_ofNat_of_lt' h]
  exact Nat.succ_le_succ hattempt

/-- **Below the limit** of the count delays are exact and do not get shorter. In every run of a
machine with any policy, the next attempt can be numbered with 32 bits exactly as long as fewer than
`2 ^ 32 - 1` timers of the outage have fired. As long as it can be, whatever happens next starts no
timer but one with the next delay, which is the base times the factor to the number of attempts so
far, up to the limit of the policy, in numbers without bounds; and this delay is not shorter than
that of any timer started earlier in the outage. -/
theorem delays_grow_below_limit (policy : BackoffPolicy) (active : Bool) :
    let m := start policy active
    (∀ events, (m.run events).attempt.toNat + 1 < UInt32.size ↔
      (m.outage events).countP Event.isReconnectDue + 1 < UInt32.size) ∧
    (∀ events,
      let now := m.run events
      now.attempt.toNat + 1 < UInt32.size →
      now.nextDelay =
          min (policy.baseMs.toNat * Nat.pow (max policy.multiplier.toNat 1) now.attempt.toNat)
            policy.maxMs.toNat ∧
        ∀ e, ∀ timer ∈ schedules (now.handle e).2, timer.2 = now.nextDelay) ∧
    ∀ past first between e,
      let before := m.run past
      let now := m.run (past ++ first :: between)
      (∀ x ∈ before.acted (first :: between), x.endsOutage = false) →
      now.attempt.toNat + 1 < UInt32.size →
      ∀ earlier ∈ schedules (before.handle first).2, ∀ later ∈ schedules (now.handle e).2,
        earlier.2 ≤ later.2 := by
  intro m
  have hm : m.IsSteady := isSteady_start policy active
  have hcounted : ∀ es, (m.run es).IsCounted (m.outage es) :=
    hm.isCounted_run (isCounted_start policy active)
  have hpolicy : ∀ es, (m.run es).policy = policy := hm.policy_run
  have hdelay : ∀ es e, ∀ timer ∈ schedules ((m.run es).handle e).2,
      timer.2 = (m.run es).nextDelay := by
    intro es e timer htimer
    obtain ⟨-, -, rfl⟩ := (hm.run es).eq_of_mem_schedules htimer
    rfl
  refine ⟨fun events => (hcounted events).attempt_fits_iff, ?_, ?_⟩
  · intro events now hfits
    exact ⟨by rw [nextDelay_eq_of_fits hfits, hpolicy], hdelay events⟩
  · intro past first between e before now hduring hfits earlier hearlier later hlater
    have hnow : now = before.run (first :: between) := run_append m past (first :: between)
    have hgrow : before.attempt.toNat ≤ now.attempt.toNat := by
      rw [hnow]
      exact (hm.run past).attempt_le_run (hcounted past) hduring
    rw [hdelay past first earlier hearlier, hdelay _ e later hlater]
    exact nextDelay_le_of_fits ((hpolicy _).trans (hpolicy past).symm) hgrow hfits

/-- A socket is lost, its successor fails as well, and what is heard of the first one comes late. -/
theorem delays_grow_below_limit_of_lost :
    let m := start .standard true
    let between : List Event := [.opened 1, .reconnectDue 1, .closed 1 1006]
    let before := m.run [.connect]
    let now := m.run ([.connect] ++ .closed 1 1006 :: between)
    (∀ x ∈ before.acted (.closed 1 1006 :: between), x.endsOutage = false) ∧
      now.attempt.toNat + 1 < UInt32.size ∧ now.nextDelay = 2000 ∧
      (1, 1000) ∈ schedules (before.handle (.closed 1 1006)).2 ∧
      (2, 2000) ∈ schedules (now.handle (.closed 2 1011)).2 ∧ 1000 ≤ 2000 := by
  intro m between before now
  obtain ⟨-, hexact, hgrow⟩ := delays_grow_below_limit .standard true
  have hduring : ∀ x ∈ before.acted (.closed 1 1006 :: between), x.endsOutage = false := by
    decide +kernel
  have hfits : now.attempt.toNat + 1 < UInt32.size := by decide +kernel
  have hearlier : (1, 1000) ∈ schedules (before.handle (.closed 1 1006)).2 := by decide +kernel
  have hlater : (2, 2000) ∈ schedules (now.handle (.closed 2 1011)).2 := by decide +kernel
  exact ⟨hduring, hfits, (hexact _ hfits).1.trans (by decide +kernel), hearlier, hlater,
    hgrow [.connect] (.closed 1 1006) between (.closed 2 1011) hduring hfits _ hearlier _ hlater⟩

/-! ### At the limit -/

/-- A connection is asked for, and `n` sockets in a row fail before they open. Each time the
reconnect timer fires. -/
def failures : Nat → List Event
  | 0 => [.connect]
  | n + 1 => failures n ++
      [.closed (.ofNat (n + 1)) CloseCode.abnormal, .reconnectDue (.ofNat (n + 1))]

/-- A machine that has seen `n` sockets fail and heard the timer each time. It opens the next one,
or that one has failed as well and it waits for the timer. -/
def failing (policy : BackoffPolicy) (state : ConnectionState) (n : Nat) : Machine where
  state
  policy
  active := true
  alive := true
  attempt := .ofNat n
  epoch := .ofNat (n + 1)
  heartbeatLive := false
  reconnectPending := decide (state = .reconnecting)

theorem isSteady_failing (policy : BackoffPolicy) (n : Nat) {state : ConnectionState}
    (h : state ≠ .connected) : (failing policy state n).IsSteady :=
  ⟨(decide_eq_false h).symm, rfl, by simp [failing], by simp [failing]⟩

variable {policy : BackoffPolicy} {n : Nat}

/-- The socket fails once more. -/
theorem handle_failing_closed (policy : BackoffPolicy) (n : Nat) :
    (failing policy .connecting n).handle (.closed (.ofNat (n + 1)) CloseCode.abnormal) =
      (failing policy .reconnecting n,
        [.stateChanged .reconnecting,
          .scheduleReconnect (.ofNat (n + 1)) (policy.delay (.ofNat n + 1))]) :=
  (isSteady_failing policy n (by decide)).onClosed_eq_of_not_isTerminal rfl rfl

/-- The timer fires, and a count below the limit goes on. -/
theorem handle_failing_reconnectDue (h : n + 1 < UInt32.size) :
    ((failing policy .reconnecting n).handle (.reconnectDue (.ofNat (n + 1)))).1 =
      failing policy .connecting (n + 1) := by
  have hne : UInt32.ofNat n ≠ 0xFFFFFFFF := by
    intro heq
    have hnat : n = 4294967295 :=
      (UInt32.toNat_ofNat_of_lt' (Nat.lt_of_succ_lt h)).symm.trans (congrArg UInt32.toNat heq)
    exact absurd h (by rw [hnat]; decide)
  have hsteady : (failing policy .reconnecting n).IsSteady := isSteady_failing policy n (by decide)
  refine (congrArg Prod.fst (hsteady.onReconnectDue_eq rfl)).trans ?_
  simp only [failing, if_neg hne, UInt32.ofNat_add, UInt64.ofNat_add]
  rfl

/-- **The machine after failures** has counted them all, as long as they can be counted. -/
theorem run_failures (h : n < UInt32.size) :
    (start policy true).run (failures n) = failing policy .connecting n := by
  induction n with
  | zero => rfl
  | succ n ih =>
    rw [failures, run_append, ih (Nat.lt_of_succ_lt h), run_cons, handle_failing_closed, run_cons,
      handle_failing_reconnectDue h, run_nil]

/-- After as many failures as can be counted the next attempt has no number any more, and the delay
is the first one again, although half a minute was waited for the attempt before and nothing in
between ends the outage. -/
theorem delay_drops_at_limit :
    let m := start .standard true
    let before := m.run (failures 4294967294)
    let failure : List Event :=
      [.closed 4294967295 CloseCode.abnormal, .reconnectDue 4294967295]
    let now := m.run (failures 4294967295)
    (∀ x ∈ before.acted failure, x.endsOutage = false) ∧ now = before.run failure ∧
      now.attempt.toNat + 1 = UInt32.size ∧ now.attempt + 1 = 0 ∧ now.nextDelay = 1000 ∧
      schedules (before.handle (.closed 4294967295 CloseCode.abnormal)).2 =
        [(4294967295, 30000)] ∧
      schedules (now.handle (.closed 4294967296 CloseCode.abnormal)).2 = [(4294967296, 1000)] := by
  intro m before failure now
  have hbefore : before = failing .standard .connecting 4294967294 := run_failures (by decide)
  have hnow : now = failing .standard .connecting 4294967295 := run_failures (by decide)
  rw [hbefore, hnow]
  decide +kernel

end Machine

end LiveBoard.Connection
