import LiveBoard.Proofs.Connection.Outage

/-!
# The next wait

At any time a connection machine can say how long it would wait before it tries again. Whether the
next reconnect timer really waits that long depends on what happens until then. The machine counts
the timers that fire, and begins the count anew where a socket opens or a connection is asked for.
As long as there is a socket, or the way to one begins the count anew, nothing else can change it
before the next timer is started.

So what a machine says holds while it is connected, and while nobody has asked for a connection; and
it holds while a socket is opening, until one opens or a connection is asked for anew. Then the
first delay is waited.

## Main definitions

* `Event.countsAnew`: the event leads to a socket, and the count of attempts begins anew.
* `Machine.Keeps`: the number of attempts that a machine has counted whenever it has a socket.
* `Machine.IsSettled`: a machine has counted no attempts, unless it is on its way or was rejected.

## Main results

* `Machine.IsSteady.keeps_run`: no run changes the count before it starts a timer.
* `Machine.IsSteady.isSettled_run`: which machines have counted no attempts.
* `Machine.next_wait_foretold`: the first timer that a run starts.
-/

namespace LiveBoard.Connection

/-- The event leads to a socket, and the count of attempts begins anew. -/
def Event.countsAnew : Event → Bool
  | .connect | .opened _ => true
  | .closed _ _ | .reconnectDue _ | .disconnect | .shutdown => false

/-- The event says that a socket has closed with a rejection. -/
def Event.isRejection : Event → Bool
  | .closed _ code => (CloseCode.ofCode code).isTerminal
  | .connect | .opened _ | .reconnectDue _ | .disconnect | .shutdown => false

namespace Machine

variable {m m' : Machine} {e : Event} {es : List Event} {effects : List Effect}

/-- What a machine acts on, it acts on somewhere in the run. -/
theorem exists_of_mem_acted (h : e ∈ m.acted es) :
    ∃ before after, es = before ++ e :: after ∧ (m.run before).actsOn e = true := by
  induction es generalizing m with
  | nil => cases h
  | cons x es ih =>
    have hlater : e ∈ (m.handle x).1.acted es →
        ∃ before after, x :: es = before ++ e :: after ∧ (m.run before).actsOn e = true := by
      intro hmem
      obtain ⟨before, after, rfl, hacts⟩ := ih hmem
      exact ⟨x :: before, after, rfl, hacts⟩
    rw [acted] at h
    split at h
    · next hx =>
      rcases List.mem_cons.mp h with rfl | hmem
      · exact ⟨[], es, rfl, hx⟩
      · exact hlater hmem
    · next hx =>
      have hself : m.handle x = (m, []) := by simpa [actsOn] using hx
      exact hlater (by rwa [hself])

/-! ### The count until the next timer -/

/-- The machine waits for no timer, and if it has a socket, then it has counted `a` attempts. -/
structure Keeps (m : Machine) (a : UInt32) : Prop where
  state : m.state ≠ .reconnecting
  attempt : m.hasSocket = true → m.attempt = a

variable {a : UInt32}

theorem Keeps.of_disconnected (h : m.state = .disconnected) (a : UInt32) : m.Keeps a :=
  ⟨by simp [h], fun socket => absurd h (ne_disconnected_of_hasSocket socket)⟩

/-- Without a timer, an event keeps the count, or begins it anew. -/
theorem Outcome.keeps (h : m.Outcome e m' effects) (hkeeps : m.Keeps a)
    (hnone : schedules effects = []) (hanew : e.countsAnew = true → a = 0) : m'.Keeps a := by
  cases h with
  | connect alive active state => exact ⟨by simp, fun _ => (hanew rfl).symm⟩
  | opened alive state => exact ⟨by simp, fun _ => (hanew rfl).symm⟩
  | rejected code alive socket terminal => exact .of_disconnected rfl a
  | lost code alive socket transient =>
    rw [schedules_append, schedules_stops] at hnone
    cases hnone
  | retry alive state => exact absurd state hkeeps.state
  | disconnect alive => exact .of_disconnected rfl a
  | shutdown alive => exact .of_disconnected rfl a
  | ignored hn => exact hkeeps

/-- **No run changes the count** before it starts a timer, unless it begins the count anew. -/
theorem IsSteady.keeps_run (hm : m.IsSteady) (hkeeps : m.Keeps a)
    (hnone : schedules (m.effects es) = [])
    (hanew : ∀ x ∈ m.acted es, x.countsAnew = true → a = 0) : (m.run es).Keeps a := by
  induction es generalizing m with
  | nil => exact hkeeps
  | cons e es ih =>
    rw [Machine.effects, schedules_append, List.append_eq_nil_iff] at hnone
    by_cases he : m.Awaits e
    · rw [hm.acted_cons_of_awaits he, List.forall_mem_cons] at hanew
      have hnext := (outcome_handle hm e).keeps hkeeps hnone.1 hanew.1
      exact ih (hm.handle e) hnext hnone.2 hanew.2
    · rw [hm.acted_cons_of_not_awaits he] at hanew
      rw [handle_eq_self he] at hnone
      rw [run_cons, handle_eq_self he]
      exact ih hm hkeeps hnone.2 hanew

/-- The timer that is started for a socket that closes has the delay of the count. -/
theorem Keeps.delay_eq (hkeeps : m.Keeps a) (hm : m.IsSteady) {timer : UInt64 × Nat}
    (h : timer ∈ schedules (m.handle e).2) : timer.2 = m.policy.delay (a + 1) := by
  obtain ⟨he, hclose, rfl⟩ := hm.eq_of_mem_schedules h
  have hsocket : m.hasSocket = true := by
    cases e with
    | closed epoch code => exact he.2.2
    | _ => cases hclose
  rw [nextDelay, hkeeps.attempt hsocket]

/-- The first timer that a run starts has the delay of the count with which the run begins. -/
theorem IsSteady.firstDelay_eq (hm : m.IsSteady) (hkeeps : m.Keeps a)
    (hnone : schedules (m.effects es) = [])
    (hanew : ∀ x ∈ m.acted es, x.countsAnew = true → a = 0) {timer : UInt64 × Nat}
    (h : timer ∈ schedules ((m.run es).handle e).2) : timer.2 = m.policy.delay (a + 1) := by
  rw [(hm.keeps_run hkeeps hnone hanew).delay_eq (hm.run es) h, hm.policy_run]

/-- After a request for a connection the first timer has the first delay. -/
theorem IsSteady.firstDelay_eq_of_connect (hm : m.IsSteady) (hconnect : .connect ∈ m.acted es)
    (hnone : schedules (m.effects es) = []) {timer : UInt64 × Nat}
    (h : timer ∈ schedules ((m.run es).handle e).2) : timer.2 = m.policy.delay 1 := by
  obtain ⟨before, after, rfl, hacts⟩ := exists_of_mem_acted hconnect
  obtain ⟨alive, active, state⟩ := (hm.run before).actsOn_iff.mp hacts
  have hhandle : ((m.run before).handle .connect).1.Keeps 0 := by
    rw [Machine.handle, if_pos alive, (hm.run before).onConnect_eq active state]
    exact ⟨by simp, fun _ => rfl⟩
  rw [effects_append, Machine.effects, schedules_append, schedules_append,
    List.append_eq_nil_iff, List.append_eq_nil_iff] at hnone
  rw [run_append, run_cons] at h
  have hsteady := (hm.run before).handle .connect
  have hdelay := hsteady.firstDelay_eq hhandle hnone.2.2 (fun _ _ _ => rfl) h
  rwa [(outcome_handle (hm.run before) .connect).policy_eq, hm.policy_run] at hdelay

/-! ### Machines that have counted no attempts -/

/-- A connected machine has counted no attempts, and neither has a disconnected one, unless the last
event that it acted on was a rejection that found attempts counted. -/
structure IsSettled (m : Machine) (last : Option Event) : Prop where
  connected : m.state = .connected → m.attempt = 0
  disconnected : m.state = .disconnected →
    (∀ x ∈ last, x.isRejection = true → m.attempt = 0) → m.attempt = 0

theorem isSettled_start (policy : BackoffPolicy) (active : Bool) :
    (start policy active).IsSettled none :=
  ⟨fun _ => rfl, fun _ _ => rfl⟩

theorem Outcome.isSettled (h : m.Outcome e m' effects) (he : m.Awaits e) :
    m'.IsSettled (some e) := by
  cases h with
  | rejected code alive socket terminal => exact ⟨by simp, fun _ hlast => hlast _ rfl terminal⟩
  | lost code alive socket transient => exact ⟨by simp, by simp⟩
  | retry alive state => exact ⟨by simp, by simp⟩
  | ignored hn => exact absurd he hn
  | connect | opened | disconnect | shutdown => exact ⟨fun _ => rfl, fun _ _ => rfl⟩

/-- **Which machines have counted no attempts**, after any run. -/
theorem IsSteady.isSettled_run (hm : m.IsSteady) {last : Option Event} (hsettled : m.IsSettled last)
    (es : List Event) : (m.run es).IsSettled ((m.acted es).getLast?.or last) := by
  induction es generalizing m last with
  | nil => exact hsettled
  | cons e es ih =>
    by_cases he : m.Awaits e
    · have hnext := ih (hm.handle e) ((outcome_handle hm e).isSettled he)
      rw [Option.or_some] at hnext
      rw [hm.acted_cons_of_awaits he, List.getLast?_cons]
      exact hnext
    · rw [hm.acted_cons_of_not_awaits he, run_cons, handle_eq_self he]
      exact ih hm hsettled

/-! ### Runs -/

/-- **The next wait is foretold.** Take a machine with any policy after any run, and the first
reconnect timer that is started afterwards, whatever happens until then. If the machine is
connected, or if it is disconnected and was not rejected with attempts counted, then the timer has
the delay that the machine says now. If a socket is opening, then it has this delay as well,
provided that the machine acts neither on a socket that opens nor on a request for a connection
before. And if the machine acts on a request for a connection before, then the timer has the first
delay, since attempts are counted anew. -/
theorem next_wait_foretold (policy : BackoffPolicy) (active : Bool) (before during : List Event)
    (e : Event) (timer : UInt64 × Nat) :
    let m := (start policy active).run before
    schedules (m.effects during) = [] → timer ∈ schedules ((m.run during).handle e).2 →
    (m.state = .connected → timer.2 = m.nextDelay) ∧
    (m.state = .disconnected →
      (∀ x ∈ ((start policy active).acted before).getLast?,
        x.isRejection = true → m.attempt = 0) →
      timer.2 = m.nextDelay) ∧
    (m.state = .connecting → (∀ x ∈ m.acted during, x.countsAnew = false) →
      timer.2 = m.nextDelay) ∧
    (.connect ∈ m.acted during → timer.2 = policy.delay 1) := by
  intro m hnone htimer
  have hstart := isSteady_start policy active
  have hm : m.IsSteady := hstart.run before
  have hpolicy : m.policy = policy := hstart.policy_run before
  have hsettled := hstart.isSettled_run (isSettled_start policy active) before
  rw [Option.or_none] at hsettled
  have hzero : m.Keeps 0 → m.attempt = 0 → timer.2 = m.nextDelay := by
    intro hkeeps hattempt
    rw [hm.firstDelay_eq hkeeps hnone (fun _ _ _ => rfl) htimer, nextDelay, hattempt]
  refine ⟨fun hstate => ?_, fun hstate hlast => ?_, fun hstate hnew => ?_, fun hconnect => ?_⟩
  · have hattempt := hsettled.connected hstate
    exact hzero ⟨by simp [hstate], fun _ => hattempt⟩ hattempt
  · exact hzero (.of_disconnected hstate 0) (hsettled.disconnected hstate hlast)
  · have hkeeps : m.Keeps m.attempt := ⟨by simp [hstate], fun _ => rfl⟩
    have hanew : ∀ x ∈ m.acted during, x.countsAnew = true → m.attempt = 0 :=
      fun x hx hcounts => absurd hcounts (by simp [hnew x hx])
    rw [hm.firstDelay_eq hkeeps hnone hanew htimer, nextDelay]
  · rw [hm.firstDelay_eq_of_connect hconnect hnone htimer, hpolicy]

/-- The second socket of an outage is opening while what is heard of the first one comes late. It is
lost; or somebody disconnects, asks for a connection and the socket of that one is lost. -/
theorem next_wait_foretold_of_retry :
    let m := (start .standard true).run [.connect, .closed 1 1006, .reconnectDue 1]
    let late : List Event := [.opened 1, .closed 1 1006, .connect]
    let again : List Event := [.disconnect, .closed 2 1006, .connect]
    schedules (m.effects late) = [] ∧
      (2, 2000) ∈ schedules ((m.run late).handle (.closed 2 1011)).2 ∧
      m.state = .connecting ∧ (∀ x ∈ m.acted late, x.countsAnew = false) ∧ 2000 = m.nextDelay ∧
      schedules (m.effects again) = [] ∧
      (4, 1000) ∈ schedules ((m.run again).handle (.closed 4 1006)).2 ∧
      .connect ∈ m.acted again ∧ 1000 = BackoffPolicy.standard.delay 1 := by
  intro m late again
  have hlate : schedules (m.effects late) = [] := by decide +kernel
  have hlost : (2, 2000) ∈ schedules ((m.run late).handle (.closed 2 1011)).2 := by decide +kernel
  have hstate : m.state = .connecting := by decide +kernel
  have hnew : ∀ x ∈ m.acted late, x.countsAnew = false := by decide +kernel
  have hagain : schedules (m.effects again) = [] := by decide +kernel
  have hlostAgain : (4, 1000) ∈ schedules ((m.run again).handle (.closed 4 1006)).2 := by
    decide +kernel
  have hconnect : .connect ∈ m.acted again := by decide +kernel
  obtain ⟨-, -, hsame, -⟩ := next_wait_foretold .standard true
    [.connect, .closed 1 1006, .reconnectDue 1] late (.closed 2 1011) (2, 2000) hlate hlost
  obtain ⟨-, -, -, hanew⟩ := next_wait_foretold .standard true
    [.connect, .closed 1 1006, .reconnectDue 1] again (.closed 4 1006) (4, 1000) hagain hlostAgain
  exact ⟨hlate, hlost, hstate, hnew, hsame hstate hnew, hagain, hlostAgain, hconnect,
    hanew hconnect⟩

/-- What the machine says is not always waited, although no socket opens in between. While the
second socket of an outage is opening, somebody disconnects and asks for a connection again, and the
attempts are counted anew. While the machine waits for the timer of the first socket, it says the
delay of this timer. And after a rejection it goes by the attempts before, which the next request
for a connection forgets. -/
theorem next_wait_differs :
    let m := start .standard true
    let opening := m.run [.connect, .closed 1 1006, .reconnectDue 1]
    let waiting := m.run [.connect, .closed 1 1006]
    let rejected := m.run [.connect, .closed 1 1006, .reconnectDue 1, .closed 2 4001]
    (opening.alive = true ∧ opening.state = .connecting ∧ opening.nextDelay = 2000 ∧
      schedules (opening.effects [.disconnect, .connect]) = [] ∧
      schedules ((opening.run [.disconnect, .connect]).handle (.closed 4 1006)).2 = [(4, 1000)]) ∧
    (waiting.alive = true ∧ waiting.state = .reconnecting ∧ waiting.nextDelay = 1000 ∧
      schedules (waiting.effects [.reconnectDue 1]) = [] ∧
      schedules ((waiting.run [.reconnectDue 1]).handle (.closed 2 1006)).2 = [(2, 2000)]) ∧
    rejected.alive = true ∧ rejected.state = .disconnected ∧ rejected.nextDelay = 2000 ∧
      schedules (rejected.effects [.connect]) = [] ∧
      schedules ((rejected.run [.connect]).handle (.closed 3 1006)).2 = [(3, 1000)] := by
  decide +kernel

end Machine

end LiveBoard.Connection
