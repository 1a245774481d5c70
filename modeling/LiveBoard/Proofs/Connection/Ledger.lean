import LiveBoard.Proofs.Connection.Step

/-!
# The ledger of sockets and timers

A ledger counts the sockets and timers that a connection machine has asked for and not yet given
back. An effect that opens a socket or starts a timer adds one, and its counterpart takes one
away. A socket that closes and a reconnect timer that fires are gone by themselves: they are taken
off where the machine acts on the event that reports it. Over every run the ledger shows what the
state of the machine stands for, and never more than one of a kind.

## Main definitions

* `Ledger`: the counts, with `Ledger.enter` for an effect.
* `Machine.actsOn`: something follows from an event.
* `Machine.ledger`: the ledger of a run.

## Main results

* `Ledger.IsBalanced.book`: one event keeps the ledger in step with the machine.
* `Machine.ledger_run`: the ledger of every run.
-/

namespace LiveBoard.Connection

/-- How many sockets, heartbeats and reconnect timers are there. -/
structure Ledger where
  sockets : Int
  heartbeats : Int
  timers : Int
  deriving Repr, DecidableEq

namespace Ledger

/-- The ledger of a machine that has not begun. -/
def zero : Ledger := ⟨0, 0, 0⟩

/-- Enters an effect. -/
def enter (l : Ledger) : Effect → Ledger
  | .openSocket _ => { l with sockets := l.sockets + 1 }
  | .closeSocket => { l with sockets := l.sockets - 1 }
  | .startHeartbeat => { l with heartbeats := l.heartbeats + 1 }
  | .stopHeartbeat => { l with heartbeats := l.heartbeats - 1 }
  | .scheduleReconnect _ _ => { l with timers := l.timers + 1 }
  | .cancelReconnect => { l with timers := l.timers - 1 }
  | .stateChanged _ => l

/-- Takes off what an event reports to be gone. -/
def report (l : Ledger) : Event → Ledger
  | .closed _ _ => { l with sockets := l.sockets - 1 }
  | .reconnectDue _ => { l with timers := l.timers - 1 }
  | .connect | .opened _ | .disconnect | .shutdown => l

/-- The ledger shows what the state of a machine stands for: a socket that is opening or open, a
heartbeat on a connection, a timer between two attempts. -/
structure IsBalanced (l : Ledger) (m : Machine) : Prop where
  sockets : l.sockets = if m.state = .connecting ∨ m.state = .connected then 1 else 0
  heartbeats : l.heartbeats = if m.state = .connected then 1 else 0
  timers : l.timers = if m.state = .reconnecting then 1 else 0

end Ledger

namespace Machine

/-- The machine acts on an event: something follows from it. -/
def actsOn (m : Machine) (e : Event) : Bool := decide (m.handle e ≠ (m, []))

/-- The ledger after an event: what the event reports to be gone is taken off, if the machine acts
on it, and the effects are entered. -/
def book (m : Machine) (l : Ledger) (e : Event) : Ledger :=
  (m.handle e).2.foldl Ledger.enter (if m.actsOn e then l.report e else l)

/-- The ledger after a sequence of events. -/
def ledger (m : Machine) (l : Ledger) : List Event → Ledger
  | [] => l
  | e :: es => ledger (m.handle e).1 (m.book l e) es

end Machine

/-! ### One event -/

variable {m : Machine} {l : Ledger} {e : Event}

theorem Machine.IsSteady.actsOn_iff (h : m.IsSteady) : m.actsOn e = true ↔ m.Awaits e := by
  rw [Machine.actsOn, decide_eq_true_iff, ne_eq, h.handle_eq_self_iff, Classical.not_not]

theorem Machine.book_of_not_awaits (he : ¬m.Awaits e) : m.book l e = l := by
  simp [Machine.book, Machine.actsOn, Machine.handle_eq_self he]

/-- The effects of an event that the machine waits for, entered after the report of the event,
leave the ledger in step with the machine. -/
theorem Ledger.IsBalanced.of_outcome (hl : l.IsBalanced m) {m' : Machine} {effects : List Effect}
    (h : m.Outcome e m' effects) (he : m.Awaits e) :
    (effects.foldl enter (l.report e)).IsBalanced m' := by
  obtain ⟨sockets, heartbeats, timers⟩ := hl
  cases h with
  | connect alive active state =>
    constructor <;> simp [enter, report, sockets, heartbeats, timers, state]
  | opened alive state =>
    constructor <;> simp [enter, report, sockets, heartbeats, timers, state]
  | rejected code alive socket terminal =>
    rcases Machine.hasSocket_iff.mp socket with state | state <;> constructor <;>
      simp [enter, report, Machine.stops, sockets, heartbeats, timers, state]
  | lost code alive socket transient =>
    rcases Machine.hasSocket_iff.mp socket with state | state <;> constructor <;>
      simp [enter, report, Machine.stops, sockets, heartbeats, timers, state]
  | retry alive state =>
    constructor <;> simp [enter, report, sockets, heartbeats, timers, state]
  | disconnect alive =>
    cases state : m.state <;> constructor <;>
      simp [enter, report, Machine.farewell, Machine.stops, Machine.hasSocket,
        Machine.disconnected, sockets, heartbeats, timers, state]
  | shutdown alive =>
    cases state : m.state <;> constructor <;>
      simp [enter, report, Machine.farewell, Machine.stops, Machine.hasSocket,
        Machine.disconnected, sockets, heartbeats, timers, state]
  | ignored hn => exact absurd he hn

/-- **One event** keeps the ledger in step with the machine. -/
theorem Ledger.IsBalanced.book (hl : l.IsBalanced m) (hm : m.IsSteady) (e : Event) :
    (m.book l e).IsBalanced (m.handle e).1 := by
  by_cases he : m.Awaits e
  · rw [Machine.book, if_pos (hm.actsOn_iff.mpr he)]
    exact hl.of_outcome (Machine.outcome_handle hm e) he
  · rwa [Machine.book_of_not_awaits he, Machine.handle_eq_self he]

/-- Nothing follows from any event on a machine that may not connect, except that its epoch may
change or its life end. -/
theorem Machine.Outcome.effects_eq_nil {m' : Machine} {effects : List Effect}
    (h : m.Outcome e m' effects) (hm : m.IsSteady) (hi : m.active = false) :
    effects = [] ∧ m'.active = false := by
  have state := hm.inactive hi
  cases h with
  | connect alive active => exact absurd (active.symm.trans hi) (by decide)
  | opened alive hs => exact absurd (hs.symm.trans state) (by decide)
  | rejected code alive socket => exact absurd state (Machine.ne_disconnected_of_hasSocket socket)
  | lost code alive socket => exact absurd state (Machine.ne_disconnected_of_hasSocket socket)
  | retry alive hs => exact absurd (hs.symm.trans state) (by decide)
  | disconnect alive => exact ⟨Machine.farewell_eq_nil state, hi⟩
  | shutdown alive => exact ⟨Machine.farewell_eq_nil state, hi⟩
  | ignored hn => exact ⟨rfl, hi⟩

/-! ### Runs -/

namespace Machine

theorem ledger_append (m : Machine) (l : Ledger) (es fs : List Event) :
    m.ledger l (es ++ fs) = (m.run es).ledger (m.ledger l es) fs := by
  induction es generalizing m l with
  | nil => rfl
  | cons e es ih => exact ih (m.handle e).1 (m.book l e)

theorem isBalanced_ledger (hl : l.IsBalanced m) (hm : m.IsSteady) (es : List Event) :
    (m.ledger l es).IsBalanced (m.run es) := by
  induction es generalizing m l with
  | nil => exact hl
  | cons e es ih => exact ih (hl.book hm e) (hm.handle e)

theorem effects_eq_nil (hm : m.IsSteady) (hi : m.active = false) (es : List Event) :
    m.effects es = [] := by
  induction es generalizing m with
  | nil => rfl
  | cons e es ih =>
    obtain ⟨heffects, hactive⟩ := (outcome_handle hm e).effects_eq_nil hm hi
    rw [effects, heffects, List.nil_append, ih (hm.handle e) hactive]

/-- A machine that was shut down stays as it is. -/
theorem run_of_not_alive (h : m.alive = false) (es : List Event) : m.run es = m := by
  induction es with
  | nil => rfl
  | cons e es ih => rw [run_cons, handle_of_not_alive h, ih]

theorem alive_handle_shutdown (m : Machine) : (m.handle .shutdown).1.alive = false := by
  cases h : m.alive with
  | false => rw [handle_of_not_alive h, h]
  | true => simp [handle, h, andThen, quietly]

theorem effects_of_not_alive (h : m.alive = false) (es : List Event) : m.effects es = [] := by
  induction es with
  | nil => rfl
  | cons e es ih => rw [effects, handle_of_not_alive h, List.nil_append, ih]

theorem state_handle_disconnect (hm : m.IsSteady) :
    (m.handle .disconnect).1.state = .disconnected := by
  cases h : m.alive with
  | false => rw [handle_of_not_alive h, hm.dead h]
  | true => simp [handle, h, hm.onDisconnect_eq, disconnected]

theorem state_handle_shutdown (hm : m.IsSteady) :
    (m.handle .shutdown).1.state = .disconnected :=
  (hm.handle .shutdown).dead (alive_handle_shutdown m)

end Machine

/-- The ledger of a disconnected machine shows nothing. -/
theorem Ledger.IsBalanced.eq_zero (hl : l.IsBalanced m) (hs : m.state = .disconnected) :
    l = .zero := by
  obtain ⟨sockets, heartbeats, timers⟩ := l
  have hsockets := hl.sockets
  have hheartbeats := hl.heartbeats
  have htimers := hl.timers
  simp only [hs, reduceCtorEq, or_self, if_false] at hsockets hheartbeats htimers
  simp [zero, hsockets, hheartbeats, htimers]

namespace Machine

/-- **Sockets and timers are neither leaked nor doubled.** After every run of a machine with any
policy, its ledger shows one socket exactly while it is connecting or connected, one heartbeat
exactly while it is connected, one reconnect timer exactly while it is reconnecting, and none of a
kind otherwise. So it shows nothing after a disconnection and after a shutdown; whatever comes
after a shutdown changes nothing and has no effect; and a machine that may not connect never has
any effect. -/
theorem ledger_run (policy : BackoffPolicy) (active : Bool) (events later : List Event) :
    let m := (start policy active).run events
    let l := (start policy active).ledger .zero events
    l.sockets = (if m.state = .connecting ∨ m.state = .connected then 1 else 0) ∧
    l.heartbeats = (if m.state = .connected then 1 else 0) ∧
    l.timers = (if m.state = .reconnecting then 1 else 0) ∧
    (start policy active).ledger .zero (events ++ [.disconnect]) = .zero ∧
    (start policy active).ledger .zero (events ++ [.shutdown]) = .zero ∧
    m.run (.shutdown :: later) = (m.handle .shutdown).1 ∧
    (m.handle .shutdown).1.effects later = [] ∧
    (start policy false).effects events = [] := by
  intro m l
  have hm : m.IsSteady := (isSteady_start policy active).run events
  have hl : l.IsBalanced m :=
    isBalanced_ledger ⟨rfl, rfl, rfl⟩ (isSteady_start policy active) events
  have hdead := alive_handle_shutdown m
  refine ⟨hl.sockets, hl.heartbeats, hl.timers, ?_, ?_, ?_, ?_, ?_⟩
  · rw [ledger_append]
    exact (hl.book hm .disconnect).eq_zero (state_handle_disconnect hm)
  · rw [ledger_append]
    exact (hl.book hm .shutdown).eq_zero (state_handle_shutdown hm)
  · rw [run_cons, run_of_not_alive hdead]
  · exact effects_of_not_alive hdead later
  · exact effects_eq_nil (isSteady_start policy false) rfl events

end Machine

end LiveBoard.Connection
