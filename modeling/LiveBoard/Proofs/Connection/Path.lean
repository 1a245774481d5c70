import LiveBoard.Proofs.Connection.Step
import Mathlib.Data.List.Chain

/-!
# The path of states

Whoever watches a connection machine sees the states that it announces, and nothing else. What is
announced in a run is a path from the first state of the machine to the last one: no state is
passed over or announced twice in a row, and every step of the path is one that a connection can
take.

An event announces one state at most. Its effects end what the old state needed before they
announce the new state, and begin what the new state needs after that.

## Main definitions

* `ConnectionState.successors`: the states that may follow a state.
* `announced`: the states that effects announce.
* `Effect.IsEnd`, `Effect.IsBeginning`: effects that end something, and that begin something.
* `IsTurn`: effects that end, announce and begin, in this order.

## Main results

* `Machine.Outcome.turn`: an event has no effects, or takes one step of the path.
* `Machine.isChain_announced`, `Machine.getLast?_announced`: the path of a run.
* `Machine.announces_legal_path`: both for every run from the start.
-/

namespace LiveBoard

/-- The states that may follow a state of a connection. -/
def ConnectionState.successors : ConnectionState → List ConnectionState
  | .disconnected => [.connecting]
  | .connecting => [.connected, .reconnecting, .disconnected]
  | .connected => [.reconnecting, .disconnected]
  | .reconnecting => [.connecting, .disconnected]

/-- No state follows itself. -/
theorem ConnectionState.ne_of_mem_successors {s s' : ConnectionState} (h : s' ∈ s.successors) :
    s ≠ s' := by
  rintro rfl
  cases s <;> simp [successors] at h

namespace Connection

/-! ### Effects -/

/-- The state that an effect announces, if it announces one. -/
def Effect.announced? : Effect → Option ConnectionState
  | .stateChanged s => some s
  | _ => none

/-- The states that effects announce, in order. -/
def announced (effects : List Effect) : List ConnectionState :=
  effects.filterMap Effect.announced?

theorem announced_append (effects later : List Effect) :
    announced (effects ++ later) = announced effects ++ announced later :=
  List.filterMap_append

/-- The effect ends a socket or a timer. -/
def Effect.IsEnd : Effect → Prop
  | .closeSocket | .stopHeartbeat | .cancelReconnect => True
  | .openSocket _ | .startHeartbeat | .scheduleReconnect _ _ | .stateChanged _ => False

/-- The effect begins a socket or a timer. -/
def Effect.IsBeginning : Effect → Prop
  | .openSocket _ | .startHeartbeat | .scheduleReconnect _ _ => True
  | .closeSocket | .stopHeartbeat | .cancelReconnect | .stateChanged _ => False

/-- The effects announce one state. Before that they end what there was, and after that they begin
what there will be. -/
def IsTurn (s : ConnectionState) (effects : List Effect) : Prop :=
  ∃ ends begins, effects = ends ++ .stateChanged s :: begins ∧
    (∀ x ∈ ends, x.IsEnd) ∧ ∀ x ∈ begins, x.IsBeginning

theorem announced_eq_nil {effects : List Effect} (h : ∀ x ∈ effects, x.IsEnd ∨ x.IsBeginning) :
    announced effects = [] := by
  rw [announced, List.filterMap_eq_nil_iff]
  intro x hx
  cases x with
  | stateChanged s => exact (h _ hx).elim False.elim False.elim
  | _ => rfl

theorem IsTurn.announced {s : ConnectionState} {effects : List Effect} (h : IsTurn s effects) :
    announced effects = [s] := by
  obtain ⟨ends, begins, rfl, hends, hbegins⟩ := h
  have hcons : Connection.announced (.stateChanged s :: begins) =
      s :: Connection.announced begins := rfl
  rw [announced_append, hcons, announced_eq_nil fun x hx => .inl (hends x hx),
    announced_eq_nil fun x hx => .inr (hbegins x hx), List.nil_append]

namespace Machine

/-! ### One event -/

variable {m m' : Machine} {e : Event} {effects : List Effect}

/-- Where nothing ends, the new state is announced at once. -/
theorem isTurn_cons {s : ConnectionState} {begins : List Effect}
    (h : ∀ x ∈ begins, x.IsBeginning) : IsTurn s (.stateChanged s :: begins) :=
  ⟨[], begins, rfl, List.forall_mem_nil _, h⟩

theorem isEnd_of_mem_stops {x : Effect} (hx : x ∈ m.stops) : x.IsEnd := by
  rw [stops, List.mem_append] at hx
  rcases hx with hx | hx <;> split at hx <;> simp_all [Effect.IsEnd]

/-- What a disconnection ends, it ends before it is announced. -/
theorem isTurn_farewell (h : m.state ≠ .disconnected) : IsTurn .disconnected m.farewell := by
  refine ⟨m.stops ++ if m.hasSocket then [.closeSocket] else [], [], ?_, ?_, by simp⟩
  · rw [farewell, if_neg h]
  · intro x hx
    rcases List.mem_append.mp hx with hx | hx
    · exact isEnd_of_mem_stops hx
    · split at hx <;> simp_all [Effect.IsEnd]

/-- A disconnection takes the step to the state without a connection, if there is one to take. -/
theorem turn_farewell (m : Machine) :
    (.disconnected = m.state ∧ m.farewell = []) ∨
      .disconnected ∈ m.state.successors ∧ IsTurn .disconnected m.farewell := by
  by_cases h : m.state = .disconnected
  · exact .inl ⟨h.symm, farewell_eq_nil h⟩
  · refine .inr ⟨?_, isTurn_farewell h⟩
    cases hs : m.state with
    | disconnected => exact absurd hs h
    | _ => simp [ConnectionState.successors]

/-- **An event** leaves the state as it is and has no effects, or it takes one step of the path. -/
theorem Outcome.turn (h : m.Outcome e m' effects) :
    (m'.state = m.state ∧ effects = []) ∨
      m'.state ∈ m.state.successors ∧ IsTurn m'.state effects := by
  cases h with
  | connect alive active state =>
    exact .inr ⟨by simp [state, ConnectionState.successors],
      isTurn_cons (by simp [Effect.IsBeginning])⟩
  | opened alive state =>
    exact .inr ⟨by simp [state, ConnectionState.successors],
      isTurn_cons (by simp [Effect.IsBeginning])⟩
  | rejected code alive socket terminal =>
    refine .inr ⟨?_, m.stops, [], rfl, fun x => isEnd_of_mem_stops, by simp⟩
    rcases hasSocket_iff.mp socket with hs | hs <;> simp [hs, ConnectionState.successors]
  | lost code alive socket transient =>
    refine .inr ⟨?_, m.stops, _, rfl, fun x => isEnd_of_mem_stops, by simp [Effect.IsBeginning]⟩
    rcases hasSocket_iff.mp socket with hs | hs <;> simp [hs, ConnectionState.successors]
  | retry alive state =>
    exact .inr ⟨by simp [state, ConnectionState.successors],
      isTurn_cons (by simp [Effect.IsBeginning])⟩
  | disconnect alive => exact m.turn_farewell
  | shutdown alive => exact m.turn_farewell
  | ignored hn => exact .inl ⟨rfl, rfl⟩

/-! ### Runs -/

/-- **The states that a run announces** are steps that a connection can take, one after the
other. -/
theorem isChain_announced (hm : m.IsSteady) (es : List Event) :
    (m.state :: announced (m.effects es)).IsChain fun s s' => s' ∈ s.successors := by
  induction es generalizing m with
  | nil => exact List.isChain_singleton m.state
  | cons e es ih =>
    rw [Machine.effects, announced_append]
    rcases (outcome_handle hm e).turn with ⟨hstate, hnone⟩ | ⟨hstep, hturn⟩
    · rw [hnone, ← hstate]
      exact ih (hm.handle e)
    · rw [hturn.announced]
      exact List.isChain_cons_cons.mpr ⟨hstep, ih (hm.handle e)⟩

/-- The path of a run ends in the state of the machine. -/
theorem getLast?_announced (hm : m.IsSteady) (es : List Event) :
    (m.state :: announced (m.effects es)).getLast? = some (m.run es).state := by
  induction es generalizing m with
  | nil => rfl
  | cons e es ih =>
    rw [Machine.effects, announced_append, run_cons, ← ih (hm.handle e)]
    rcases (outcome_handle hm e).turn with ⟨hstate, hnone⟩ | ⟨-, hturn⟩
    · rw [hnone, ← hstate]
      rfl
    · rw [hturn.announced]
      exact List.getLast?_cons_cons

/-- **The states that a machine announces** are a legal path. In every run from the start no state
is announced twice in a row, every step is one that a connection can take, and the last state is
that of the machine. Every event has no effect and leaves the state as it is, or it ends what there
was, announces the new state and begins what there will be, in this order. -/
theorem announces_legal_path (policy : BackoffPolicy) (active : Bool) (events : List Event) :
    let m := (start policy active).run events
    let path := .disconnected :: announced ((start policy active).effects events)
    path.IsChain (· ≠ ·) ∧ path.getLast? = some m.state ∧
    path.IsChain (fun s s' => s' ∈ s.successors) ∧
    ∀ e, ((m.handle e).2 = [] ∧ (m.handle e).1.state = m.state) ∨
      IsTurn (m.handle e).1.state (m.handle e).2 := by
  intro m path
  have hstart : (start policy active).IsSteady := isSteady_start policy active
  have hchain : path.IsChain fun s s' => s' ∈ s.successors := isChain_announced hstart events
  refine ⟨hchain.imp fun _ _ => ConnectionState.ne_of_mem_successors,
    getLast?_announced hstart events, hchain, fun e => ?_⟩
  rcases (outcome_handle (hstart.run events) e).turn with ⟨hstate, hnone⟩ | ⟨-, hturn⟩
  · exact .inl ⟨hnone, hstate⟩
  · exact .inr hturn

end Machine

end Connection

end LiveBoard
