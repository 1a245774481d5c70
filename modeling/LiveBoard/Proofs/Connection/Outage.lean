import LiveBoard.Proofs.Backoff.Delay
import LiveBoard.Proofs.Connection.Epoch

/-!
# Outages

An outage is what happens between two moments at which the count of attempts begins anew: a socket
opens, a connection is asked for, somebody disconnects or the owner goes away. Within an outage
sockets close and reconnect timers fire in turn, so the attempts that a machine counts are the
timers that have fired, and one more socket has closed exactly while the machine waits for a timer.
The delay before the next attempt is therefore that of the number of closes in the outage.

Only events that the machine acts on belong to an outage. Late ones are put in anywhere.

## Main definitions

* `Event.endsOutage`, `since`: the events since the last one at which the count began anew.
* `Machine.outage`: the outage that a run ends in.
* `schedules`: the reconnect timers that effects start.
* `Machine.IsCounted`: a machine has counted an outage.

## Main results

* `Machine.Outcome.isCounted`: one event that a machine acts on.
* `Machine.IsSteady.isCounted_run`: the attempts of a whole run.
* `Machine.IsSteady.delays_effects`: the delays of an outage, in order.
* `Machine.reconnect_schedule`: all of it for every run from the start.
-/

namespace LiveBoard.Connection

/-! ### The events of an outage -/

/-- The count of attempts begins anew with the event. -/
def Event.endsOutage : Event → Bool
  | .connect | .opened _ | .disconnect | .shutdown => true
  | .closed _ _ | .reconnectDue _ => false

/-- The event says that a socket has closed, and not with a rejection. -/
def Event.isTransientClose : Event → Bool
  | .closed _ code => !(CloseCode.ofCode code).isTerminal
  | .connect | .opened _ | .reconnectDue _ | .disconnect | .shutdown => false

/-- The event says that a reconnect timer has fired. -/
def Event.isReconnectDue : Event → Bool
  | .reconnectDue _ => true
  | .connect | .opened _ | .closed _ _ | .disconnect | .shutdown => false

/-- The events since the last one that `ends`, the latest first. Those of `earlier` come before the
others. -/
def since (ends : Event → Bool) (earlier es : List Event) : List Event :=
  es.foldl (fun earlier e => if ends e then [] else e :: earlier) earlier

@[simp] theorem since_nil (ends : Event → Bool) (earlier : List Event) :
    since ends earlier [] = earlier := rfl

@[simp] theorem since_cons (ends : Event → Bool) (earlier : List Event) (e : Event)
    (es : List Event) :
    since ends earlier (e :: es) = since ends (if ends e then [] else e :: earlier) es := rfl

theorem since_append (ends : Event → Bool) (earlier es fs : List Event) :
    since ends earlier (es ++ fs) = since ends (since ends earlier es) fs :=
  List.foldl_append

/-- What an effect starts a reconnect timer with. -/
def Effect.schedule? : Effect → Option (UInt64 × Nat)
  | .scheduleReconnect epoch delay => some (epoch, delay)
  | .openSocket _ | .closeSocket | .startHeartbeat | .stopHeartbeat | .cancelReconnect
  | .stateChanged _ => none

/-- The reconnect timers that effects start, with their epochs and delays, in order. -/
def schedules (effects : List Effect) : List (UInt64 × Nat) := effects.filterMap Effect.schedule?

theorem schedules_append (effects later : List Effect) :
    schedules (effects ++ later) = schedules effects ++ schedules later :=
  List.filterMap_append

namespace Machine

variable {m m' : Machine} {e : Event} {es seen : List Event} {effects : List Effect}

@[simp] theorem schedules_stops (m : Machine) : schedules m.stops = [] := by
  rw [stops]
  split <;> split <;> rfl

@[simp] theorem schedules_farewell (m : Machine) : schedules m.farewell = [] := by
  rw [farewell, schedules_append, schedules_append, schedules_stops]
  split <;> split <;> rfl

theorem acted_append (m : Machine) (es fs : List Event) :
    m.acted (es ++ fs) = m.acted es ++ (m.run es).acted fs := by
  induction es generalizing m with
  | nil => rfl
  | cons e es ih =>
    rw [List.cons_append, acted, acted, run_cons]
    split
    · rw [ih, List.cons_append]
    · next hself =>
      have hself : m.handle e = (m, []) := by simpa [actsOn] using hself
      rw [ih, hself]

/-- The events that a machine has acted on since the count of attempts began anew. -/
def outage (m : Machine) (es : List Event) : List Event := since Event.endsOutage [] (m.acted es)

theorem outage_append (m : Machine) (es fs : List Event) :
    m.outage (es ++ fs) = since Event.endsOutage (m.outage es) ((m.run es).acted fs) := by
  rw [outage, acted_append, since_append]
  rfl

/-! ### One event -/

/-- A machine has counted the timers of an outage, as far as 32 bits go. One more socket has closed
than timers have fired exactly while it waits for the next timer. -/
structure IsCounted (m : Machine) (seen : List Event) : Prop where
  attempt : m.attempt.toNat = min (seen.countP Event.isReconnectDue) (UInt32.size - 1)
  closes : seen.countP Event.isTransientClose =
    seen.countP Event.isReconnectDue + if m.state = .reconnecting then 1 else 0

theorem isCounted_start (policy : BackoffPolicy) (active : Bool) :
    (start policy active).IsCounted [] :=
  ⟨rfl, rfl⟩

/-- **One event that a machine acts on** goes into the count, or begins it anew. -/
theorem Outcome.isCounted (h : m.Outcome e m' effects) (he : m.Awaits e)
    (hcount : m.IsCounted seen) :
    m'.IsCounted (if e.endsOutage then [] else e :: seen) := by
  obtain ⟨hattempt, hcloses⟩ := hcount
  cases h with
  | connect alive active state => exact ⟨rfl, rfl⟩
  | opened alive state => exact ⟨rfl, rfl⟩
  | rejected code alive socket terminal =>
    have hstate : m.state ≠ .reconnecting := by
      rcases hasSocket_iff.mp socket with hs | hs <;> rw [hs] <;> decide
    constructor
    · simpa [Event.endsOutage, Event.isReconnectDue] using hattempt
    · simpa [Event.endsOutage, Event.isReconnectDue, Event.isTransientClose, terminal, hstate]
        using hcloses
  | lost code alive socket transient =>
    have hstate : m.state ≠ .reconnecting := by
      rcases hasSocket_iff.mp socket with hs | hs <;> rw [hs] <;> decide
    constructor
    · simpa [Event.endsOutage, Event.isReconnectDue] using hattempt
    · simpa [Event.endsOutage, Event.isReconnectDue, Event.isTransientClose, transient, hstate]
        using hcloses
  | retry alive state =>
    have hfired : (.reconnectDue m.epoch :: seen).countP Event.isReconnectDue =
        seen.countP Event.isReconnectDue + 1 := List.countP_cons_of_pos rfl
    rw [if_pos state] at hcloses
    constructor
    · simpa [Event.endsOutage, hfired] using toNat_nextAttempt hattempt
    · simpa [Event.endsOutage, Event.isTransientClose, hfired] using hcloses
  | disconnect alive => exact ⟨rfl, rfl⟩
  | shutdown alive => exact ⟨rfl, rfl⟩
  | ignored hn => exact absurd he hn

theorem Outcome.policy_eq (h : m.Outcome e m' effects) : m'.policy = m.policy := by
  cases h <;> rfl

/-- A reconnect timer is started by nothing but a socket that closes, and by that exactly once. -/
theorem Outcome.schedules_eq (h : m.Outcome e m' effects) (he : m.Awaits e) :
    schedules effects = if e.isTransientClose then [(m.epoch, m.nextDelay)] else [] := by
  cases h with
  | rejected code alive socket terminal =>
    rw [schedules_append, schedules_stops, Event.isTransientClose, terminal]
    rfl
  | lost code alive socket transient =>
    rw [schedules_append, schedules_stops, Event.isTransientClose, transient]
    rfl
  | disconnect alive => exact schedules_farewell m
  | shutdown alive => exact schedules_farewell m
  | ignored hn => exact absurd he hn
  | connect | opened | retry => rfl

/-- The next delay is that of one attempt more than were counted. -/
theorem nextDelay_eq_ofNat (m : Machine) :
    m.nextDelay = m.policy.delay (.ofNat (m.attempt.toNat + 1)) := by
  have hone : (1 : UInt32).toNat = 1 := rfl
  have heq : m.attempt + 1 = .ofNat (m.attempt.toNat + 1) := by
    refine UInt32.toNat_inj.mp ?_
    rw [UInt32.toNat_add, UInt32.toNat_ofNat', hone]
  rw [nextDelay, heq]

/-- A machine that waits for a socket to close delays the next attempt by the number of the close in
its outage. -/
theorem IsCounted.nextDelay_eq (h : m.IsCounted seen) (hstate : m.state ≠ .reconnecting)
    (hroom : seen.countP Event.isTransientClose + 1 < UInt32.size) :
    m.nextDelay = m.policy.delay (.ofNat (seen.countP Event.isTransientClose + 1)) := by
  have hsize : UInt32.size = 4294967296 := rfl
  have hcloses := h.closes
  rw [if_neg hstate, Nat.add_zero] at hcloses
  have hattempt : m.attempt.toNat = seen.countP Event.isTransientClose := by
    rw [h.attempt, hcloses]
    omega
  rw [nextDelay_eq_ofNat, hattempt]

theorem ne_reconnecting_of_awaits (he : m.Awaits e) (hclose : e.isTransientClose = true) :
    m.state ≠ .reconnecting := by
  cases e with
  | closed epoch code =>
    rcases hasSocket_iff.mp he.2.2 with hs | hs <;> rw [hs] <;> decide
  | _ => cases hclose

/-- A reconnect timer is started by a socket that closes, with the next delay. -/
theorem IsSteady.eq_of_mem_schedules (hm : m.IsSteady) {timer : UInt64 × Nat}
    (h : timer ∈ schedules (m.handle e).2) :
    m.Awaits e ∧ e.isTransientClose = true ∧ timer = (m.epoch, m.nextDelay) := by
  by_cases he : m.Awaits e
  · rw [(outcome_handle hm e).schedules_eq he] at h
    split at h
    · next hclose => exact ⟨he, hclose, List.mem_singleton.mp h⟩
    · exact absurd h List.not_mem_nil
  · rw [handle_eq_self he] at h
    exact absurd h List.not_mem_nil

/-- **A socket that closes** starts one reconnect timer, with the delay of its number in the
outage. -/
theorem IsSteady.schedules_handle (hm : m.IsSteady) (hcount : m.IsCounted seen)
    (he : m.Awaits e) (hclose : e.isTransientClose = true)
    (hroom : seen.countP Event.isTransientClose + 1 < UInt32.size) :
    schedules (m.handle e).2 =
      [(m.epoch, m.policy.delay (.ofNat (seen.countP Event.isTransientClose + 1)))] := by
  rw [(outcome_handle hm e).schedules_eq he, if_pos hclose,
    hcount.nextDelay_eq (ne_reconnecting_of_awaits he hclose) hroom]

/-! ### Runs -/

/-- **The attempts of a whole run** are counted. -/
theorem IsSteady.isCounted_run (hm : m.IsSteady) (hcount : m.IsCounted seen)
    (es : List Event) : (m.run es).IsCounted (since Event.endsOutage seen (m.acted es)) := by
  induction es generalizing m seen with
  | nil => exact hcount
  | cons e es ih =>
    by_cases he : m.Awaits e
    · rw [hm.acted_cons_of_awaits he]
      exact ih (hm.handle e) ((outcome_handle hm e).isCounted he hcount)
    · rw [hm.acted_cons_of_not_awaits he, run_cons, handle_eq_self he]
      exact ih hm hcount

theorem IsSteady.policy_run (hm : m.IsSteady) (es : List Event) :
    (m.run es).policy = m.policy := by
  induction es generalizing m with
  | nil => rfl
  | cons e es ih => rw [run_cons, ih (hm.handle e), (outcome_handle hm e).policy_eq]

/-- While an outage lasts, what was acted on is added to it. -/
theorem countP_since (p : Event → Bool) (hes : ∀ e ∈ es, e.endsOutage = false) :
    (since Event.endsOutage seen es).countP p = seen.countP p + es.countP p := by
  induction es generalizing seen with
  | nil => rfl
  | cons e es ih =>
    obtain ⟨he, hes⟩ := List.forall_mem_cons.mp hes
    rw [since_cons, he, if_neg Bool.false_ne_true, ih hes, List.countP_cons, List.countP_cons]
    omega

/-- What one event that a machine acts on adds to the delays of an outage. -/
theorem IsSteady.delays_handle (hm : m.IsSteady) (hcount : m.IsCounted seen) (he : m.Awaits e)
    (hroom : seen.countP Event.isTransientClose + [e].countP Event.isTransientClose <
      UInt32.size) :
    (schedules (m.handle e).2).map (·.2) =
      (List.range' (seen.countP Event.isTransientClose + 1)
        ([e].countP Event.isTransientClose)).map fun k => m.policy.delay (.ofNat k) := by
  cases hclose : e.isTransientClose with
  | true =>
    rw [List.countP_cons_of_pos hclose, List.countP_nil] at hroom ⊢
    rw [hm.schedules_handle hcount he hclose hroom]
    rfl
  | false =>
    have hnone : ¬e.isTransientClose = true := by simp [hclose]
    rw [List.countP_cons_of_neg hnone, (outcome_handle hm e).schedules_eq he, if_neg hnone]
    rfl

/-- **The delays of an outage**, in order, are those of the numbers of its closes. -/
theorem IsSteady.delays_effects (hm : m.IsSteady) (hcount : m.IsCounted seen)
    (hes : ∀ e ∈ m.acted es, e.endsOutage = false)
    (hroom : seen.countP Event.isTransientClose + (m.acted es).countP Event.isTransientClose <
      UInt32.size) :
    (schedules (m.effects es)).map (·.2) =
      (List.range' (seen.countP Event.isTransientClose + 1)
        ((m.acted es).countP Event.isTransientClose)).map fun k => m.policy.delay (.ofNat k) := by
  induction es generalizing m seen with
  | nil => rfl
  | cons e es ih =>
    by_cases he : m.Awaits e
    · rw [hm.acted_cons_of_awaits he] at hes hroom ⊢
      obtain ⟨hend, hes⟩ := List.forall_mem_cons.mp hes
      have hnext := (outcome_handle hm e).isCounted he hcount
      rw [hend, if_neg Bool.false_ne_true] at hnext
      have hfirst := hm.delays_handle (e := e) hcount he
      have hadd : ∀ l : List Event, (e :: l).countP Event.isTransientClose =
          [e].countP Event.isTransientClose + l.countP Event.isTransientClose := by
        intro l
        rw [← List.countP_append, List.singleton_append]
      rw [hadd] at hroom
      have hrest := ih (hm.handle e) hnext hes (by rw [hadd]; omega)
      rw [effects, schedules_append, List.map_append, hfirst (by omega), hrest,
        (outcome_handle hm e).policy_eq, ← List.map_append, hadd seen, hadd (acted _ es),
        Nat.add_comm ([e].countP _) (seen.countP _), Nat.add_right_comm, List.range'_append_1]
    · rw [hm.acted_cons_of_not_awaits he] at hes hroom ⊢
      rw [effects, handle_eq_self he]
      exact ih hm hcount hes hroom

theorem pairwise_delay (p : BackoffPolicy) (n k : Nat) (h : n + k ≤ UInt32.size) :
    ((List.range' n k).map fun i => p.delay (.ofNat i)).Pairwise (· ≤ ·) := by
  rw [List.pairwise_map]
  refine (List.pairwise_lt_range' (s := n) (n := k)).imp_of_mem fun {i j} hi hj hlt => ?_
  rw [List.mem_range'_1] at hi hj
  refine p.delay_mono (UInt32.le_iff_toNat_le.mpr ?_)
  rw [UInt32.toNat_ofNat_of_lt' (by omega), UInt32.toNat_ofNat_of_lt' (by omega)]
  exact Nat.le_of_lt hlt

/-- **Every reconnect timer of a run** waits for the delay of some attempt. -/
theorem IsSteady.exists_delay (hm : m.IsSteady) (es : List Event) :
    ∀ timer ∈ schedules (m.effects es), ∃ attempt, timer.2 = m.policy.delay attempt := by
  induction es generalizing m with
  | nil => simp [effects, schedules]
  | cons e es ih =>
    rw [effects, schedules_append, List.forall_mem_append]
    constructor
    · intro timer htimer
      obtain ⟨-, -, rfl⟩ := hm.eq_of_mem_schedules htimer
      exact ⟨m.attempt + 1, rfl⟩
    · rw [← (outcome_handle hm e).policy_eq]
      exact ih (hm.handle e)

/-- No reconnect timer of a run waits longer than the policy allows. -/
theorem IsSteady.delay_le_maxMs (hm : m.IsSteady) (es : List Event) :
    ∀ timer ∈ schedules (m.effects es), timer.2 ≤ m.policy.maxMs.toNat := by
  intro timer htimer
  obtain ⟨attempt, hdelay⟩ := hm.exists_delay es timer htimer
  rw [hdelay]
  exact m.policy.delay_le_maxMs attempt

/-- Where no socket has closed since some moment, none has closed in the outage. -/
theorem countP_since_le (p : Event → Bool) (ends : Event → Bool) (seen es : List Event) :
    (since ends seen es).countP p ≤ seen.countP p + es.countP p := by
  induction es generalizing seen with
  | nil => exact Nat.le_refl _
  | cons e es ih =>
    rw [since_cons, List.countP_cons]
    split
    · have hrest := ih []
      rw [List.countP_nil] at hrest
      omega
    · have hrest := ih (e :: seen)
      rw [List.countP_cons] at hrest
      omega

/-- **The schedule of attempts.** In every run of a machine with any policy, the `k`-th socket that
closes in an outage, and not with a rejection, starts exactly one reconnect timer, whose delay is
that of the `k`-th attempt. So the first one since a count began anew waits the first delay, the
delays of an outage do not get shorter, none is longer than the policy allows, and the attempts
that the machine counts are the timers of the outage that it has acted on. Counts are those below
`2 ^ 32`. -/
theorem reconnect_schedule (policy : BackoffPolicy) (active : Bool) :
    let m := start policy active
    (∀ before e, (m.run before).actsOn e = true → e.isTransientClose = true →
      let k := (m.outage before).countP Event.isTransientClose + 1
      k < UInt32.size →
      schedules ((m.run before).handle e).2 =
        [((m.run before).epoch, policy.delay (.ofNat k))]) ∧
    (∀ past first between e, (m.run past).actsOn first = true → first.endsOutage = true →
      ((m.run (past ++ [first])).acted between).countP Event.isTransientClose = 0 →
      let before := past ++ [first] ++ between
      (m.run before).actsOn e = true → e.isTransientClose = true →
      schedules ((m.run before).handle e).2 = [((m.run before).epoch, policy.delay 1)]) ∧
    (∀ before during, (∀ e ∈ (m.run before).acted during, e.endsOutage = false) →
      (m.outage (before ++ during)).countP Event.isTransientClose < UInt32.size →
      ((schedules ((m.run before).effects during)).map (·.2)).Pairwise (· ≤ ·)) ∧
    (∀ events, ∀ timer ∈ schedules (m.effects events), timer.2 ≤ policy.maxMs.toNat) ∧
    ∀ events,
      let n := (m.outage events).countP Event.isReconnectDue
      n < UInt32.size → (m.run events).attempt.toNat = n := by
  intro m
  have hm : m.IsSteady := isSteady_start policy active
  have hcounted : ∀ es, (m.run es).IsCounted (m.outage es) :=
    hm.isCounted_run (isCounted_start policy active)
  have hpolicy : ∀ es, (m.run es).policy = policy := hm.policy_run
  have hclose : ∀ before e, (m.run before).actsOn e = true → e.isTransientClose = true →
      (m.outage before).countP Event.isTransientClose + 1 < UInt32.size →
      schedules ((m.run before).handle e).2 = [((m.run before).epoch, policy.delay
        (.ofNat ((m.outage before).countP Event.isTransientClose + 1)))] := by
    intro before e hacts hclose hroom
    have he := (hm.run before).actsOn_iff.mp hacts
    rw [(hm.run before).schedules_handle (hcounted before) he hclose hroom, hpolicy]
  refine ⟨hclose, ?_, ?_, hm.delay_le_maxMs, ?_⟩
  · intro past first between e hfirst hends hnone before hacts htransient
    have hbegin : m.outage (past ++ [first]) = [] := by
      have hacted : (m.run past).acted [first] = [first] := if_pos hfirst
      rw [outage_append, hacted, since_cons, if_pos hends, since_nil]
    have hzero : (m.outage before).countP Event.isTransientClose = 0 := by
      have hle := countP_since_le Event.isTransientClose Event.endsOutage []
        ((m.run (past ++ [first])).acted between)
      rw [List.countP_nil, hnone] at hle
      rw [outage_append, hbegin]
      exact Nat.le_zero.mp hle
    have hdelay := hclose before e hacts htransient (by rw [hzero]; decide)
    rwa [hzero] at hdelay
  · intro before during hduring hroom
    rw [outage_append, countP_since _ hduring] at hroom
    rw [(hm.run before).delays_effects (hcounted before) hduring hroom]
    exact pairwise_delay _ _ _ (by omega)
  · intro events n hn
    rw [(hcounted events).attempt]
    omega

/-- A socket is lost, and its successor too, before a third one opens and is lost as well. What is
heard of the first open and of the second timer comes late. -/
theorem reconnect_schedule_of_outages :
    let m := start .standard true
    let lost : List Event := [.closed 1 1006, .opened 1, .reconnectDue 1]
    let again : List Event := [.closed 2 1006, .reconnectDue 2]
    let before : List Event := [.connect] ++ lost
    let opened : List Event := before ++ again ++ [.opened 3] ++ [.reconnectDue 2]
    let n := (m.outage before).countP Event.isReconnectDue
    (m.run before).actsOn (.closed 2 1006) = true ∧
      schedules ((m.run before).handle (.closed 2 1006)).2 = [(2, 2000)] ∧
      (m.run opened).actsOn (.closed 3 1001) = true ∧
      schedules ((m.run opened).handle (.closed 3 1001)).2 = [(3, 1000)] ∧
      ((schedules ((m.run [.connect]).effects (lost ++ again))).map (·.2)).Pairwise (· ≤ ·) ∧
      n < UInt32.size ∧ (m.run before).attempt.toNat = n := by
  intro m lost again before opened n
  obtain ⟨hclose, hfirst, hgrow, -, hattempt⟩ := reconnect_schedule .standard true
  have hsecond : (m.run before).actsOn (.closed 2 1006) = true := by decide +kernel
  have hthird : (m.run opened).actsOn (.closed 3 1001) = true := by decide +kernel
  have hn : n < UInt32.size := by decide +kernel
  refine ⟨hsecond, hclose before _ hsecond (by decide) (by decide +kernel), hthird, ?_, ?_, hn,
    hattempt before hn⟩
  · exact hfirst (before ++ again) (.opened 3) [.reconnectDue 2] (.closed 3 1001)
      (by decide +kernel) (by decide) (by decide +kernel) hthird (by decide)
  · exact hgrow [.connect] (lost ++ again) (by decide +kernel) (by decide +kernel)

/-- A shutdown begins the count anew, like a disconnection. If it did not, the timer that the
machine has acted on would still be counted as an attempt. -/
theorem attempt_ne_of_shutdown :
    let m := start .standard true
    let events : List Event := [.connect, .closed 1 1006, .reconnectDue 1, .shutdown]
    let n := (since (fun e => e.endsOutage && e != .shutdown) [] (m.acted events)).countP
      Event.isReconnectDue
    n < UInt32.size ∧ (m.run events).attempt.toNat ≠ n := by
  decide +kernel

end Machine

end LiveBoard.Connection
