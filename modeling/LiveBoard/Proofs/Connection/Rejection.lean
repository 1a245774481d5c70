import LiveBoard.Proofs.Connection.Outage

/-!
# Rejections

A socket that closes with a rejection leaves a machine at rest: it is disconnected, and none of its
timers runs. The epoch stays what it was, so late reports of the same epoch still name the machine's
own. Nothing follows from them all the same, since a disconnected machine waits for no socket and no
timer. Nothing but a request for a connection takes it out of its rest.

On the other hand a socket is opened for a reason: a connection was asked for, or the reconnect
timer has fired that was started last.

## Main results

* `Machine.IsSteady.rest`: a machine at rest, until a connection is asked for.
* `Machine.Outcome.openSocket_cases`: why a socket is opened.
* `Machine.IsSteady.hasTimer_run`: a reconnecting machine waits for the timer started last.
* `Machine.rejection_is_final`: all of it for every run from the start.
-/

namespace LiveBoard.Connection

namespace Machine

variable {m m' : Machine} {e : Event} {effects past : List Effect}

/-! ### Machines at rest -/

/-- Nothing but a request for a connection has an effect on a disconnected machine. -/
theorem Outcome.rest (h : m.Outcome e m' effects) (hstate : m.state = .disconnected)
    (he : e ≠ .connect) : m'.state = .disconnected ∧ effects = [] := by
  have hfarewell : m.farewell = [] := farewell_eq_nil hstate
  cases h with
  | connect alive active state => exact absurd rfl he
  | opened alive state => exact absurd (hstate.symm.trans state) (by decide)
  | rejected code alive socket terminal =>
    exact absurd hstate (ne_disconnected_of_hasSocket socket)
  | lost code alive socket transient => exact absurd hstate (ne_disconnected_of_hasSocket socket)
  | retry alive state => exact absurd (hstate.symm.trans state) (by decide)
  | disconnect alive => exact ⟨rfl, hfarewell⟩
  | shutdown alive => exact ⟨rfl, hfarewell⟩
  | ignored hn => exact ⟨hstate, rfl⟩

/-- **A machine at rest** stays so and has no effect, until a connection is asked for. -/
theorem IsSteady.rest (hm : m.IsSteady) (hstate : m.state = .disconnected) {es : List Event}
    (hes : .connect ∉ es) : (m.run es).state = .disconnected ∧ m.effects es = [] := by
  induction es generalizing m with
  | nil => exact ⟨hstate, rfl⟩
  | cons e es ih =>
    obtain ⟨hne, hes⟩ := not_or.mp (mt List.mem_cons.mpr hes)
    obtain ⟨hnext, hnone⟩ := (outcome_handle hm e).rest hstate (Ne.symm hne)
    rw [run_cons, Machine.effects, hnone]
    exact ih (hm.handle e) hnext hes

/-- A rejection leaves a machine at rest and starts no timer. -/
theorem IsSteady.handle_rejection (hm : m.IsSteady) {epoch : UInt64} {code : UInt16}
    (he : m.Awaits (.closed epoch code)) (hcode : (CloseCode.ofCode code).isTerminal = true) :
    (m.handle (.closed epoch code)).1.state = .disconnected ∧
      schedules (m.handle (.closed epoch code)).2 = [] := by
  obtain ⟨alive, rfl, socket⟩ := he
  rw [Machine.handle, if_pos alive, hm.onClosed_eq_of_isTerminal socket hcode, schedules_append,
    schedules_stops]
  exact ⟨rfl, rfl⟩

theorem isTerminal_of_code {code : UInt16} (h : code = 4001 ∨ code = 4004) :
    (CloseCode.ofCode code).isTerminal = true := by
  rcases h with rfl | rfl <;> rfl

/-! ### Why sockets are opened -/

/-- **A socket is opened** where a connection is asked for, or where the timer of the epoch has
fired. -/
theorem Outcome.openSocket_cases (h : m.Outcome e m' effects) {epoch : UInt64}
    (hopen : .openSocket epoch ∈ effects) :
    (e = .connect ∧ m.alive = true ∧ m.active = true ∧ m.state = .disconnected) ∨
      e = .reconnectDue m.epoch ∧ m.state = .reconnecting := by
  rw [← mem_openedEpochs] at hopen
  cases h with
  | connect alive active state => exact .inl ⟨rfl, alive, active, state⟩
  | retry alive state => exact .inr ⟨rfl, state⟩
  | rejected code alive socket terminal | lost code alive socket transient =>
    rw [openedEpochs_append, openedEpochs_stops] at hopen
    cases hopen
  | disconnect alive | shutdown alive =>
    rw [openedEpochs_farewell] at hopen
    cases hopen
  | opened alive state => cases hopen
  | ignored hn => cases hopen

/-- If a machine is reconnecting, then the reconnect timer started last is one of its epoch. -/
def HasTimer (m : Machine) (past : List Effect) : Prop :=
  m.state = .reconnecting → ∃ delay, (schedules past).getLast? = some (m.epoch, delay)

theorem Outcome.hasTimer (h : m.Outcome e m' effects) (htimer : m.HasTimer past) :
    m'.HasTimer (past ++ effects) := by
  intro hstate
  cases h with
  | lost code alive socket transient =>
    refine ⟨m.nextDelay, ?_⟩
    rw [schedules_append, schedules_append, schedules_stops, List.nil_append]
    exact List.getLast?_concat
  | ignored hn =>
    rw [List.append_nil]
    exact htimer hstate
  | connect | opened | rejected | retry | disconnect | shutdown => cases hstate

/-- **A reconnecting machine** waits for the timer that was started last. -/
theorem IsSteady.hasTimer_run (hm : m.IsSteady) (htimer : m.HasTimer past) (es : List Event) :
    (m.run es).HasTimer (past ++ m.effects es) := by
  induction es generalizing m past with
  | nil => rwa [Machine.effects, List.append_nil]
  | cons e es ih =>
    rw [run_cons, Machine.effects, ← List.append_assoc]
    exact ih (hm.handle e) ((outcome_handle hm e).hasTimer htimer)

/-! ### Runs -/

/-- **A rejection is final** until a connection is asked for. Wherever in a run of a machine its
socket closes with code 4001 or 4004, no timer is started, the machine is disconnected, and whatever
is heard afterwards it stays so and has no effect at all, unless a connection is asked for. On the
other hand, every socket that a run opens answers a request for a connection, on a machine that is
disconnected, may connect and was not shut down, or the reconnect timer that was started last and
that the machine is waiting for. -/
theorem rejection_is_final (policy : BackoffPolicy) (active : Bool) (before : List Event) :
    let m := (start policy active).run before
    (∀ epoch code, m.actsOn (.closed epoch code) = true → code = 4001 ∨ code = 4004 →
      let rejected := m.handle (.closed epoch code)
      schedules rejected.2 = [] ∧ rejected.1.state = .disconnected ∧
      ∀ later, .connect ∉ later →
        (rejected.1.run later).state = .disconnected ∧ rejected.1.effects later = []) ∧
    ∀ e epoch, .openSocket epoch ∈ (m.handle e).2 →
      (e = .connect ∧ m.alive = true ∧ m.active = true ∧ m.state = .disconnected) ∨
      ∃ timer delay, e = .reconnectDue timer ∧ m.state = .reconnecting ∧
        (schedules ((start policy active).effects before)).getLast? = some (timer, delay) := by
  intro m
  have hstart : (start policy active).IsSteady := isSteady_start policy active
  have hm : m.IsSteady := hstart.run before
  constructor
  · intro epoch code hacts hcode rejected
    have he := hm.actsOn_iff.mp hacts
    obtain ⟨hstate, hnone⟩ := hm.handle_rejection he (isTerminal_of_code hcode)
    exact ⟨hnone, hstate, fun later hlater => (hm.handle _).rest hstate hlater⟩
  · intro e epoch hopen
    rcases (outcome_handle hm e).openSocket_cases hopen with hconnect | ⟨rfl, hstate⟩
    · exact .inl hconnect
    · have htimer : m.HasTimer ([] ++ (start policy active).effects before) :=
        hstart.hasTimer_run (fun h => by cases h) before
      obtain ⟨delay, hlast⟩ := htimer hstate
      exact .inr ⟨m.epoch, delay, rfl, hstate, hlast⟩

/-- The second attempt of a lost connection is rejected, and reports of both attempts come late. -/
theorem rejection_is_final_of_retry :
    let m := (start .standard true).run [.connect, .closed 1 1006]
    let retried := (start .standard true).run [.connect, .closed 1 1006, .reconnectDue 1]
    let rejected := retried.handle (.closed 2 4001)
    let later : List Event :=
      [.opened 2, .closed 2 1006, .reconnectDue 2, .reconnectDue 1, .disconnect, .opened 3]
    retried.actsOn (.closed 2 4001) = true ∧ .connect ∉ later ∧
      (rejected.1.run later).state = .disconnected ∧ rejected.1.effects later = [] ∧
      .openSocket 2 ∈ (m.handle (.reconnectDue 1)).2 ∧
      ∃ delay, (schedules ((start .standard true).effects [.connect, .closed 1 1006])).getLast? =
        some (1, delay) := by
  intro m retried rejected later
  have hacts : retried.actsOn (.closed 2 4001) = true := by decide +kernel
  have hlater : .connect ∉ later := by decide
  have hopen : .openSocket 2 ∈ (m.handle (.reconnectDue 1)).2 := by decide +kernel
  obtain ⟨hfinal, -⟩ :=
    rejection_is_final .standard true [.connect, .closed 1 1006, .reconnectDue 1]
  obtain ⟨-, -, hrest⟩ := hfinal 2 4001 hacts (.inl rfl)
  obtain ⟨-, hanswers⟩ := rejection_is_final .standard true [.connect, .closed 1 1006]
  obtain ⟨hconnect, -⟩ | ⟨timer, delay, htimer, -, hlast⟩ := hanswers (.reconnectDue 1) 2 hopen
  · cases hconnect
  · cases htimer
    exact ⟨hacts, hlater, (hrest later hlater).1, (hrest later hlater).2, hopen, delay, hlast⟩

end Machine

end LiveBoard.Connection
