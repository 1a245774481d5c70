import LiveBoard.Connection.Machine

/-!
# Steps of the connection machine

What a single event can do to a connection machine. The timer flags of a machine are determined by
its state: the heartbeat runs exactly in a connected machine, and the reconnect timer exactly in a
reconnecting one. On such a machine every event either meets a machine that does not wait for it,
and nothing follows, or has one of seven outcomes, whose guard, result and effects are written out
in full.

## Main definitions

* `Machine.IsSteady`: the timer flags agree with the state.
* `Machine.Awaits`: the machine waits for an event.
* `Machine.Outcome`: what an event does, as a relation.
* `Machine.run`, `Machine.effects`: many events, one after the other.

## Main results

* `Machine.outcome_handle`: what follows from an event on a steady machine is its outcome.
* `Machine.Outcome.isSteady`: an outcome is a steady machine.
* `Machine.handle_eq_self_iff`: nothing follows exactly from the events that the machine does not
  wait for.
-/

namespace LiveBoard.Connection

namespace Machine

/-! ### Runs -/

/-- The machine after a sequence of events. -/
def run (m : Machine) : List Event → Machine
  | [] => m
  | e :: es => run (m.handle e).1 es

/-- The effects of a sequence of events, in order. -/
def effects (m : Machine) : List Event → List Effect
  | [] => []
  | e :: es => (m.handle e).2 ++ effects (m.handle e).1 es

@[simp] theorem run_nil (m : Machine) : m.run [] = m := rfl

@[simp] theorem run_cons (m : Machine) (e : Event) (es : List Event) :
    m.run (e :: es) = (m.handle e).1.run es := rfl

theorem run_append (m : Machine) (es fs : List Event) : m.run (es ++ fs) = (m.run es).run fs := by
  induction es generalizing m with
  | nil => rfl
  | cons e es ih => exact ih (m.handle e).1

theorem effects_append (m : Machine) (es fs : List Event) :
    m.effects (es ++ fs) = m.effects es ++ (m.run es).effects fs := by
  induction es generalizing m with
  | nil => rfl
  | cons e es ih => rw [List.cons_append, effects, effects, ih, run_cons, List.append_assoc]

/-! ### Steady machines -/

/-- The timers of a machine are those that its state asks for, and a machine that may not connect
or was shut down is disconnected. -/
structure IsSteady (m : Machine) : Prop where
  heartbeat : m.heartbeatLive = decide (m.state = .connected)
  reconnect : m.reconnectPending = decide (m.state = .reconnecting)
  inactive : m.active = false → m.state = .disconnected
  dead : m.alive = false → m.state = .disconnected

theorem isSteady_start (policy : BackoffPolicy) (active : Bool) :
    (start policy active).IsSteady :=
  ⟨rfl, rfl, fun _ => rfl, fun _ => rfl⟩

/-- The machine waits for an event: it was not shut down, and the event is about its state and
its epoch. -/
def Awaits (m : Machine) (e : Event) : Prop :=
  m.alive = true ∧
    match e with
    | .connect => m.active = true ∧ m.state = .disconnected
    | .opened epoch => epoch = m.epoch ∧ m.state = .connecting
    | .closed epoch _ => epoch = m.epoch ∧ m.hasSocket = true
    | .reconnectDue epoch => epoch = m.epoch ∧ m.state = .reconnecting
    | .disconnect => True
    | .shutdown => True

/-! ### Outcomes -/

/-- The effects of stopping the timers that the state asks for. -/
def stops (m : Machine) : List Effect :=
  (if m.state = .connected then [.stopHeartbeat] else [])
    ++ if m.state = .reconnecting then [.cancelReconnect] else []

/-- The machine after a disconnection. -/
def disconnected (m : Machine) : Machine :=
  { m with
    state := .disconnected
    attempt := 0
    epoch := m.epoch + 1
    heartbeatLive := false
    reconnectPending := false }

/-- The effects of a disconnection. -/
def farewell (m : Machine) : List Effect :=
  m.stops ++ (if m.hasSocket then [.closeSocket] else [])
    ++ if m.state = .disconnected then [] else [.stateChanged .disconnected]

/-- What an event does to a steady machine. -/
inductive Outcome (m : Machine) : Event → Machine → List Effect → Prop
  /-- A connection is asked for where there is none. -/
  | connect (alive : m.alive = true) (active : m.active = true)
      (state : m.state = .disconnected) :
      Outcome m .connect { m with state := .connecting, attempt := 0, epoch := m.epoch + 1 }
        [.stateChanged .connecting, .openSocket (m.epoch + 1)]
  /-- The socket of the epoch opens. -/
  | opened (alive : m.alive = true) (state : m.state = .connecting) :
      Outcome m (.opened m.epoch)
        { m with state := .connected, attempt := 0, heartbeatLive := true }
        [.stateChanged .connected, .startHeartbeat]
  /-- The socket of the epoch closes with a rejection. -/
  | rejected (code : UInt16) (alive : m.alive = true) (socket : m.hasSocket = true)
      (terminal : (CloseCode.ofCode code).isTerminal = true) :
      Outcome m (.closed m.epoch code)
        { m with state := .disconnected, heartbeatLive := false }
        (m.stops ++ [.stateChanged .disconnected])
  /-- The socket of the epoch closes for another reason. -/
  | lost (code : UInt16) (alive : m.alive = true) (socket : m.hasSocket = true)
      (transient : (CloseCode.ofCode code).isTerminal = false) :
      Outcome m (.closed m.epoch code)
        { m with state := .reconnecting, heartbeatLive := false, reconnectPending := true }
        (m.stops ++ [.stateChanged .reconnecting, .scheduleReconnect m.epoch m.nextDelay])
  /-- The reconnect timer of the epoch fires. -/
  | retry (alive : m.alive = true) (state : m.state = .reconnecting) :
      Outcome m (.reconnectDue m.epoch)
        { m with
          state := .connecting
          attempt := if m.attempt = 0xFFFFFFFF then m.attempt else m.attempt + 1
          epoch := m.epoch + 1
          reconnectPending := false }
        [.stateChanged .connecting, .openSocket (m.epoch + 1)]
  /-- A disconnection is asked for. -/
  | disconnect (alive : m.alive = true) : Outcome m .disconnect m.disconnected m.farewell
  /-- The owner goes away. -/
  | shutdown (alive : m.alive = true) :
      Outcome m .shutdown { m.disconnected with alive := false } m.farewell
  /-- The machine does not wait for the event. -/
  | ignored {e : Event} (h : ¬m.Awaits e) : Outcome m e m []

theorem handle_of_not_alive {m : Machine} (h : m.alive = false) (e : Event) :
    m.handle e = (m, []) := by
  simp [handle, h]

theorem hasSocket_iff {m : Machine} :
    m.hasSocket = true ↔ m.state = .connecting ∨ m.state = .connected := by
  simp [hasSocket]

theorem ne_disconnected_of_hasSocket {m : Machine} (socket : m.hasSocket = true) :
    m.state ≠ .disconnected := by
  rcases hasSocket_iff.mp socket with hs | hs <;> rw [hs] <;> decide

/-- Without a connection there is nothing to end. -/
theorem farewell_eq_nil {m : Machine} (h : m.state = .disconnected) : m.farewell = [] := by
  simp [farewell, stops, hasSocket, h]

/-- A machine that is somewhere on its way may connect. -/
theorem IsSteady.active_of_ne {m : Machine} (h : m.IsSteady) (hs : m.state ≠ .disconnected) :
    m.active = true := by
  cases active : m.active with
  | true => rfl
  | false => exact absurd (h.inactive active) hs

/-- On a steady machine the timers that run are those that the state asks for. -/
theorem IsSteady.stopTimers_eq {m : Machine} (h : m.IsSteady) :
    stopTimers m = ({ m with heartbeatLive := false, reconnectPending := false }, m.stops) := by
  simp only [stopTimers, stops, h.heartbeat, h.reconnect, decide_eq_true_eq]

theorem IsSteady.onDisconnect_eq {m : Machine} (h : m.IsSteady) :
    onDisconnect m = (m.disconnected, m.farewell) := by
  simp only [onDisconnect, andThen, h.stopTimers_eq, quietly, transition, hasSocket, farewell,
    disconnected, List.nil_append, List.append_assoc]
  split <;> simp_all

theorem IsSteady.onConnect_eq {m : Machine} (h : m.IsSteady) (active : m.active = true)
    (state : m.state = .disconnected) :
    onConnect m = ({ m with state := .connecting, attempt := 0, epoch := m.epoch + 1 },
      [.stateChanged .connecting, .openSocket (m.epoch + 1)]) := by
  have hb : m.heartbeatLive = false := by rw [h.heartbeat, state]; rfl
  have hr : m.reconnectPending = false := by rw [h.reconnect, state]; rfl
  simp [onConnect, beginConnect, stopTimers, andThen, quietly, transition, emit, active, state, hb,
    hr]

theorem IsSteady.onOpened_eq {m : Machine} (h : m.IsSteady) (state : m.state = .connecting) :
    onOpened m.epoch m = ({ m with state := .connected, attempt := 0, heartbeatLive := true },
      [.stateChanged .connected, .startHeartbeat]) := by
  have hb : m.heartbeatLive = false := by rw [h.heartbeat, state]; rfl
  have hr : m.reconnectPending = false := by rw [h.reconnect, state]; rfl
  simp [onOpened, stopTimers, andThen, quietly, transition, emit, state, hb, hr]

theorem IsSteady.reconnectPending_of_hasSocket {m : Machine} (h : m.IsSteady)
    (socket : m.hasSocket = true) : m.reconnectPending = false := by
  rw [h.reconnect]
  rcases hasSocket_iff.mp socket with hs | hs <;> rw [hs] <;> rfl

theorem IsSteady.onClosed_eq_of_isTerminal {m : Machine} (h : m.IsSteady) {code : UInt16}
    (socket : m.hasSocket = true) (terminal : (CloseCode.ofCode code).isTerminal = true) :
    onClosed m.epoch code m = ({ m with state := .disconnected, heartbeatLive := false },
      m.stops ++ [.stateChanged .disconnected]) := by
  have hs := ne_disconnected_of_hasSocket socket
  have hr := h.reconnectPending_of_hasSocket socket
  simp [onClosed, andThen, h.stopTimers_eq, transition, socket, terminal, hs, hr]

theorem IsSteady.onClosed_eq_of_not_isTerminal {m : Machine} (h : m.IsSteady) {code : UInt16}
    (socket : m.hasSocket = true) (transient : (CloseCode.ofCode code).isTerminal = false) :
    onClosed m.epoch code m =
      ({ m with state := .reconnecting, heartbeatLive := false, reconnectPending := true },
        m.stops ++ [.stateChanged .reconnecting, .scheduleReconnect m.epoch m.nextDelay]) := by
  have hs : m.state ≠ .reconnecting := by
    rcases hasSocket_iff.mp socket with hs | hs <;> rw [hs] <;> decide
  simp [onClosed, andThen, h.stopTimers_eq, scheduleReconnect, transition, quietly, emit,
    nextDelay, socket, transient, hs]

theorem IsSteady.onReconnectDue_eq {m : Machine} (h : m.IsSteady)
    (state : m.state = .reconnecting) :
    onReconnectDue m.epoch m =
      ({ m with
          state := .connecting
          attempt := if m.attempt = 0xFFFFFFFF then m.attempt else m.attempt + 1
          epoch := m.epoch + 1
          reconnectPending := false },
        [.stateChanged .connecting, .openSocket (m.epoch + 1)]) := by
  have hb : m.heartbeatLive = false := by rw [h.heartbeat, state]; rfl
  have hr : m.reconnectPending = true := by rw [h.reconnect, state]; rfl
  simp [onReconnectDue, beginConnect, stopTimers, andThen, quietly, transition, emit, state, hb,
    hr]

/-- Nothing follows from an event that a machine does not wait for. -/
theorem handle_eq_self {m : Machine} {e : Event} (he : ¬m.Awaits e) : m.handle e = (m, []) := by
  cases alive : m.alive with
  | false => exact handle_of_not_alive alive e
  | true =>
    cases e <;> simp only [Awaits, alive, true_and, not_and, not_true_eq_false] at he
    case connect => simp +contextual [handle, alive, onConnect, ignore, he]
    case opened => simp +contextual [handle, alive, onOpened, ignore, he]
    case closed => simp +contextual [handle, alive, onClosed, ignore, he]
    case reconnectDue => simp +contextual [handle, alive, onReconnectDue, ignore, he]

/-- **What follows from an event** on a steady machine is one of its outcomes. -/
theorem outcome_handle {m : Machine} (h : m.IsSteady) (e : Event) :
    Outcome m e (m.handle e).1 (m.handle e).2 := by
  by_cases he : m.Awaits e
  · obtain ⟨alive, he⟩ := he
    cases e with
    | connect =>
      rw [handle, if_pos alive, h.onConnect_eq he.1 he.2]
      exact .connect alive he.1 he.2
    | opened epoch =>
      obtain ⟨rfl, state⟩ := he
      rw [handle, if_pos alive, h.onOpened_eq state]
      exact .opened alive state
    | closed epoch code =>
      obtain ⟨rfl, socket⟩ := he
      rw [handle, if_pos alive]
      cases hc : (CloseCode.ofCode code).isTerminal with
      | true =>
        rw [h.onClosed_eq_of_isTerminal socket hc]
        exact .rejected code alive socket hc
      | false =>
        rw [h.onClosed_eq_of_not_isTerminal socket hc]
        exact .lost code alive socket hc
    | reconnectDue epoch =>
      obtain ⟨rfl, state⟩ := he
      rw [handle, if_pos alive, h.onReconnectDue_eq state]
      exact .retry alive state
    | disconnect =>
      rw [handle, if_pos alive, h.onDisconnect_eq]
      exact .disconnect alive
    | shutdown =>
      have hs : m.handle .shutdown = ({ m.disconnected with alive := false }, m.farewell) := by
        simp only [handle, alive, if_true, andThen, h.onDisconnect_eq, quietly, List.append_nil]
      rw [hs]
      exact .shutdown alive
  · rw [handle_eq_self he]
    exact .ignored he

/-- An outcome of a steady machine is a steady machine. -/
theorem Outcome.isSteady {m m' : Machine} {e : Event} {effects : List Effect}
    (h : Outcome m e m' effects) (hm : m.IsSteady) : m'.IsSteady := by
  cases h with
  | connect alive active state =>
    exact ⟨by simp [hm.heartbeat, state], by simp [hm.reconnect, state],
      by simp [active], by simp [alive]⟩
  | opened alive state =>
    have active : m.active = true := hm.active_of_ne (by simp [state])
    exact ⟨rfl, by simp [hm.reconnect, state], by simp [active], by simp [alive]⟩
  | rejected code alive socket terminal =>
    exact ⟨rfl, by simp [hm.reconnectPending_of_hasSocket socket], fun _ => rfl, fun _ => rfl⟩
  | lost code alive socket transient =>
    have active : m.active = true := hm.active_of_ne (ne_disconnected_of_hasSocket socket)
    exact ⟨rfl, rfl, by simp [active], by simp [alive]⟩
  | retry alive state =>
    have active : m.active = true := hm.active_of_ne (by simp [state])
    exact ⟨by simp [hm.heartbeat, state], rfl, by simp [active], by simp [alive]⟩
  | disconnect alive => exact ⟨rfl, rfl, fun _ => rfl, fun _ => rfl⟩
  | shutdown alive => exact ⟨rfl, rfl, fun _ => rfl, fun _ => rfl⟩
  | ignored he => exact hm

/-- An event that the machine waits for changes its state, its epoch or its life. -/
theorem Outcome.ne_of_awaits {m m' : Machine} {e : Event} {effects : List Effect}
    (h : Outcome m e m' effects) (he : m.Awaits e) : m' ≠ m := by
  intro heq
  have hstate := congrArg Machine.state heq
  have hepoch := congrArg Machine.epoch heq
  have halive := congrArg Machine.alive heq
  cases h with
  | connect alive active state => simp [state] at hstate
  | opened alive state => simp [state] at hstate
  | rejected code alive socket terminal => exact ne_disconnected_of_hasSocket socket hstate.symm
  | lost code alive socket transient =>
    rcases hasSocket_iff.mp socket with hs | hs <;> simp [hs] at hstate
  | retry alive state => simp [state] at hstate
  | disconnect alive => simp [disconnected] at hepoch
  | shutdown alive => simp [alive] at halive
  | ignored hn => exact hn he

/-- **Nothing follows** from exactly those events that a steady machine does not wait for. -/
theorem IsSteady.handle_eq_self_iff {m : Machine} (h : m.IsSteady) (e : Event) :
    m.handle e = (m, []) ↔ ¬m.Awaits e :=
  ⟨fun hself he => (outcome_handle h e).ne_of_awaits he (by rw [hself]), handle_eq_self⟩

theorem IsSteady.handle {m : Machine} (h : m.IsSteady) (e : Event) : (m.handle e).1.IsSteady :=
  (outcome_handle h e).isSteady h

theorem IsSteady.run {m : Machine} (h : m.IsSteady) (es : List Event) : (m.run es).IsSteady := by
  induction es generalizing m with
  | nil => exact h
  | cons e es ih => exact ih (h.handle e)

end Machine

end LiveBoard.Connection
