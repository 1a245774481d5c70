import LiveBoard.Connection.Transport
import LiveBoard.Proofs.Connection.Step

/-!
# The slots of a transport

A transport carries out what its connection machine asks for, and nothing else. So at every moment
its slots are filled as the state of the machine asks for: there is a socket exactly in a connected
machine, an attempt exactly in a connecting one, and both the attempt and the timer are of the
epoch that the machine is in. No event that reaches the machine is out of date.

## Main definitions

* `Transport.IsCoherent`: the slots are filled as the state of the machine asks for.
* `Act.IsQuiet`: an act that sends nothing and tells nothing about the board.

## Main results

* `Transport.isCoherent_spawn`, `Transport.IsCoherent.step`: every transport is coherent.
* `Transport.transmits_or_quiet`: a wake-up without a text sends one message or is quiet.
* `Transport.socket_of_socket_step`: a socket comes from nowhere but an attempt to open it.
-/

namespace LiveBoard

open Connection Machine

/-- The act sends nothing, and what it tells is not about the board. -/
def Act.IsQuiet : Act → Prop
  | .tell (.connectionState _) => True
  | .tell _ => False
  | .dial _ => True
  | .transmit _ => False
  | .hangUp => True

namespace Transport

/-- The slots of the transport are filled as the state of its machine asks for. -/
structure IsCoherent (t : Transport) : Prop where
  steady : t.machine.IsSteady
  endpoint : t.machine.active = t.endpoint.isSome
  running : t.running = t.machine.alive
  published : t.published = t.machine.state
  socket : t.socket = decide (t.machine.state = .connected)
  pending : t.pending = if t.machine.state = .connecting then some t.machine.epoch else none
  heartbeat : t.heartbeat = decide (t.machine.state = .connected)
  timer : t.timer.map (·.1) =
    if t.machine.state = .reconnecting then some t.machine.epoch else none

variable {t u : Transport}

theorem isCoherent_spawn {settings : Settings} (h : spawn settings = .ok t) :
    t.IsCoherent ∧ t.socket = false := by
  rw [spawn] at h
  split at h
  · cases haddress : settings.socketAddress with
    | error e =>
      rw [haddress] at h
      cases h
    | ok address =>
      rw [haddress] at h
      cases h
      exact ⟨⟨isSteady_start settings.backoff true, rfl, rfl, rfl, rfl, rfl, rfl, rfl⟩, rfl⟩
  · cases h
    exact ⟨⟨isSteady_start settings.backoff false, rfl, rfl, rfl, rfl, rfl, rfl, rfl⟩, rfl⟩

/-! ### Effects -/

@[simp] theorem executeAll_nil (t : Transport) : executeAll [] t = (t, []) := rfl

@[simp] theorem executeAll_cons (e : Effect) (es : List Effect) (t : Transport) :
    executeAll (e :: es) t =
      ((executeAll es (execute e t).1).1, (execute e t).2 ++ (executeAll es (execute e t).1).2) :=
  rfl

theorem executeAll_append (es fs : List Effect) (t : Transport) :
    executeAll (es ++ fs) t =
      ((executeAll fs (executeAll es t).1).1,
        (executeAll es t).2 ++ (executeAll fs (executeAll es t).1).2) := by
  induction es generalizing t with
  | nil => rfl
  | cons e es ih => rw [List.cons_append, executeAll_cons, ih, executeAll_cons, List.append_assoc]

theorem isQuiet_execute (e : Effect) (t : Transport) : ∀ a ∈ (execute e t).2, a.IsQuiet := by
  cases e with
  | openSocket epoch =>
    rw [execute]
    split <;> simp [Act.IsQuiet]
  | closeSocket =>
    rw [execute]
    split <;> simp [Act.IsQuiet]
  | _ => simp [execute, Act.IsQuiet]

theorem isQuiet_executeAll (es : List Effect) (t : Transport) :
    ∀ a ∈ (executeAll es t).2, a.IsQuiet := by
  induction es generalizing t with
  | nil => simp
  | cons e es ih =>
    rw [executeAll_cons, List.forall_mem_append]
    exact ⟨isQuiet_execute e t, ih (execute e t).1⟩

theorem socket_of_socket_execute {e : Effect} (h : (execute e t).1.socket = true) :
    t.socket = true := by
  cases e with
  | openSocket epoch =>
    rw [execute] at h
    split at h <;> cases h
  | closeSocket => cases h
  | _ => exact h

theorem socket_of_socket_executeAll {es : List Effect} (h : (executeAll es t).1.socket = true) :
    t.socket = true := by
  induction es generalizing t with
  | nil => exact h
  | cons e es ih => exact socket_of_socket_execute (ih h)

/-! ### Events -/

/-- What follows from an event is an outcome of it, and the transport carries out its effects. -/
theorem exists_outcome {m : Machine} (hm : m.IsSteady) (e : Event) :
    ∃ m' effects, Outcome m e m' effects ∧ m'.IsSteady ∧
      ∀ u : Transport, u.machine = m → apply e u = executeAll effects { u with machine := m' } := by
  have hout := outcome_handle hm e
  refine ⟨_, _, hout, hout.isSteady hm, ?_⟩
  rintro u rfl
  rfl

/-- After the timers that the state asks for are stopped, none is left. -/
theorem IsCoherent.executeAll_stops (h : t.IsCoherent) (hheartbeat : u.heartbeat = t.heartbeat)
    (htimer : u.timer = t.timer) :
    executeAll t.machine.stops u = ({ u with heartbeat := false, timer := none }, []) := by
  have hb : u.heartbeat = decide (t.machine.state = .connected) := hheartbeat.trans h.heartbeat
  have ht := htimer ▸ h.timer
  cases hs : t.machine.state <;> simp_all [stops, execute] <;> cases u <;> simp_all

/-- The transport without a socket and without an attempt to open one. -/
def unplugged (t : Transport) : Transport := { t with socket := false, pending := none }

/-- Closing the socket of the epoch leaves a coherent transport. -/
theorem IsCoherent.apply_closed (h : t.IsCoherent) (halive : t.machine.alive = true)
    (hsocket : t.machine.hasSocket = true) (code : UInt16) :
    (apply (.closed t.machine.epoch code) t.unplugged).1.IsCoherent := by
  have hstops : ∀ m, executeAll t.machine.stops { t.unplugged with machine := m } =
      ({ t.unplugged with machine := m, heartbeat := false, timer := none }, []) :=
    fun m => h.executeAll_stops rfl rfl
  obtain ⟨m, effects, hout, hsteady, happly⟩ :=
    exists_outcome h.steady (.closed t.machine.epoch code)
  rw [happly t.unplugged rfl]
  cases hout with
  | rejected code alive socket terminal =>
    rw [executeAll_append, hstops]
    exact ⟨hsteady, h.endpoint, h.running, rfl, rfl, rfl, rfl, rfl⟩
  | lost code alive socket transient =>
    rw [executeAll_append, hstops]
    exact ⟨hsteady, h.endpoint, h.running, rfl, rfl, rfl, rfl, rfl⟩
  | ignored hn => exact absurd ⟨halive, rfl, hsocket⟩ hn

/-- A machine that begins to connect asks for an attempt of its epoch. -/
theorem isCoherent_begin {m : Machine} (hm : m.IsSteady) (hstate : m.state = .connecting)
    (hendpoint : m.active = t.endpoint.isSome) (hrunning : t.running = m.alive)
    (hheartbeat : t.heartbeat = false) (htimer : t.timer = none) :
    (executeAll [.stateChanged .connecting, .openSocket m.epoch]
      { t with machine := m }).1.IsCoherent := by
  have hactive : m.active = true := hm.active_of_ne (by simp [hstate])
  obtain ⟨address, haddress⟩ := Option.isSome_iff_exists.mp (hendpoint.symm.trans hactive)
  simp only [executeAll_cons, executeAll_nil, execute, haddress]
  exact ⟨hm, by simp [hactive], hrunning, hstate.symm, by simp [hstate], by simp [hstate],
    by simp [hstate, hheartbeat], by simp [hstate, htimer]⟩

/-- Asking for a connection leaves a coherent transport. -/
theorem IsCoherent.apply_connect (h : t.IsCoherent) : (apply .connect t).1.IsCoherent := by
  obtain ⟨m, effects, hout, hsteady, happly⟩ := exists_outcome h.steady .connect
  rw [happly t rfl]
  cases hout with
  | connect alive active state =>
    have hheartbeat : t.heartbeat = false := by rw [h.heartbeat, state]; rfl
    have htimer : t.timer = none := by simpa [state] using h.timer
    exact isCoherent_begin hsteady rfl h.endpoint h.running hheartbeat htimer
  | ignored hn => exact h

/-- The socket of the epoch has opened. -/
theorem IsCoherent.apply_opened (h : t.IsCoherent) (halive : t.machine.alive = true)
    (hstate : t.machine.state = .connecting) :
    (apply (.opened t.machine.epoch) { t with socket := true, pending := none }).1.IsCoherent ∧
      (apply (.opened t.machine.epoch) { t with socket := true, pending := none }).1.socket =
        true := by
  obtain ⟨m, effects, hout, hsteady, happly⟩ := exists_outcome h.steady (.opened t.machine.epoch)
  rw [happly { t with socket := true, pending := none } rfl]
  cases hout with
  | opened alive state =>
    have htimer : t.timer = none := by simpa [state] using h.timer
    exact ⟨⟨hsteady, h.endpoint, h.running, rfl, rfl, rfl, rfl, by simp [execute, htimer]⟩, rfl⟩
  | ignored hn => exact absurd ⟨halive, rfl, hstate⟩ hn

/-- The timer of the epoch has fired. -/
theorem IsCoherent.apply_reconnectDue (h : t.IsCoherent) (halive : t.machine.alive = true)
    (hstate : t.machine.state = .reconnecting) :
    (apply (.reconnectDue t.machine.epoch) { t with timer := none }).1.IsCoherent := by
  obtain ⟨m, effects, hout, hsteady, happly⟩ :=
    exists_outcome h.steady (.reconnectDue t.machine.epoch)
  rw [happly { t with timer := none } rfl]
  cases hout with
  | retry alive state =>
    have hheartbeat : t.heartbeat = false := by rw [h.heartbeat, state]; rfl
    exact isCoherent_begin (t := { t with timer := none }) hsteady rfl h.endpoint h.running
      hheartbeat rfl
  | ignored hn => exact absurd ⟨halive, rfl, hstate⟩ hn

/-- What is left of a transport after a disconnection. -/
def disconnected (m : Machine) (t : Transport) : Transport :=
  { t.unplugged with machine := m, published := .disconnected, heartbeat := false, timer := none }

/-- A disconnection empties every slot. -/
theorem IsCoherent.executeAll_farewell (h : t.IsCoherent) (m : Machine) :
    (executeAll t.machine.farewell { t with machine := m }).1 = t.disconnected m := by
  have hstops := h.executeAll_stops (u := { t with machine := m }) rfl rfl
  have hsocket := h.socket
  have hpending := h.pending
  have hpublished := h.published
  rw [farewell, List.append_assoc, executeAll_append, hstops]
  cases hs : t.machine.state <;>
    simp_all [hasSocket, execute, disconnected, unplugged]

theorem IsCoherent.apply_disconnect (h : t.IsCoherent) :
    (apply .disconnect t).1.IsCoherent := by
  obtain ⟨m, effects, hout, hsteady, happly⟩ := exists_outcome h.steady .disconnect
  rw [happly t rfl]
  cases hout with
  | disconnect alive =>
    rw [h.executeAll_farewell]
    exact ⟨hsteady, h.endpoint, h.running, rfl, rfl, rfl, rfl, rfl⟩
  | ignored hn => exact h

theorem IsCoherent.apply_shutdown (h : t.IsCoherent) (halive : t.machine.alive = true) :
    { (apply .shutdown t).1 with running := false }.IsCoherent := by
  obtain ⟨m, effects, hout, hsteady, happly⟩ := exists_outcome h.steady .shutdown
  rw [happly t rfl]
  cases hout with
  | shutdown alive =>
    rw [h.executeAll_farewell]
    exact ⟨hsteady, h.endpoint, rfl, rfl, rfl, rfl, rfl, rfl⟩
  | ignored hn => exact absurd ⟨halive, trivial⟩ hn

/-! ### Wake-ups -/

theorem IsCoherent.alive_of_ne (h : t.IsCoherent) (hs : t.machine.state ≠ .disconnected) :
    t.machine.alive = true := by
  cases halive : t.machine.alive with
  | true => rfl
  | false => exact absurd (h.steady.dead halive) hs

theorem IsCoherent.socket_iff (h : t.IsCoherent) :
    t.socket = true ↔ t.machine.state = .connected := by
  rw [h.socket, decide_eq_true_iff]

/-- The owner of a transport is told exactly that there is a socket. -/
theorem IsCoherent.published_eq_connected_iff (h : t.IsCoherent) :
    t.published = .connected ↔ t.socket = true := by
  rw [h.published, h.socket_iff]

theorem IsCoherent.pending_iff (h : t.IsCoherent) {epoch : UInt64} :
    t.pending = some epoch ↔ t.machine.state = .connecting ∧ t.machine.epoch = epoch := by
  rw [h.pending]
  split <;> simp_all

/-- To lose the socket is to close the epoch without it. -/
theorem IsCoherent.lose_eq (h : t.IsCoherent) (hsocket : t.socket = true) (code : UInt16) :
    Transport.lose code t = apply (.closed t.machine.epoch code) t.unplugged := by
  have hpending : t.pending = none := by rw [h.pending, h.socket_iff.mp hsocket]; rfl
  have hunplugged : { t with socket := false } = t.unplugged := by rw [unplugged, hpending]
  rw [Transport.lose, hunplugged]

theorem IsCoherent.lose (h : t.IsCoherent) (hsocket : t.socket = true) (code : UInt16) :
    (lose code t).1.IsCoherent := by
  have hstate : t.machine.state = .connected := h.socket_iff.mp hsocket
  rw [h.lose_eq hsocket]
  exact h.apply_closed (h.alive_of_ne (by simp [hstate])) (hasSocket_iff.mpr (.inr hstate)) code

theorem IsCoherent.send (h : t.IsCoherent) (m : ClientMessage) (taken : Bool) :
    (send m taken t).1.IsCoherent := by
  rw [Transport.send]
  split
  · next hsocket =>
    split
    · exact h
    · exact h.lose (Bool.and_eq_true_iff.mp hsocket).2 CloseCode.abnormal
  · exact h

theorem IsCoherent.onFrame (h : t.IsCoherent) (hsocket : t.socket = true) (f : Frame) :
    (onFrame f t).1.IsCoherent := by
  cases f with
  | text s =>
    rw [Transport.onFrame]
    split <;> exact h
  | other => exact h
  | close code => exact h.lose hsocket _
  | failed => exact h.lose hsocket _
  | ended => exact h.lose hsocket _

/-- An attempt without a socket closes the epoch. -/
theorem IsCoherent.onHandshake_eq (h : t.IsCoherent) (hstate : t.machine.state = .connecting) :
    Transport.onHandshake .failed t =
      apply (.closed t.machine.epoch CloseCode.abnormal) t.unplugged ∧
    ∀ status, Transport.onHandshake (.refused status) t =
      apply (.closed t.machine.epoch (CloseCode.ofHandshakeStatus status).code) t.unplugged := by
  have hpending : t.pending = some t.machine.epoch := h.pending_iff.mpr ⟨hstate, rfl⟩
  have hsocket : t.socket = false := by rw [h.socket, hstate]; rfl
  have hunplugged : { t with pending := none } = t.unplugged := by rw [unplugged, ← hsocket]
  rw [← hunplugged]
  constructor
  · simp only [Transport.onHandshake, hpending]
  · intro status
    simp only [Transport.onHandshake, hpending]

theorem IsCoherent.onHandshake (h : t.IsCoherent) (k : Handshake) :
    (onHandshake k t).1.IsCoherent := by
  by_cases hstate : t.machine.state = .connecting
  · have halive : t.machine.alive = true := h.alive_of_ne (by simp [hstate])
    have hclosed := h.apply_closed halive (hasSocket_iff.mpr (.inl hstate))
    cases k with
    | opened =>
      have hpending : t.pending = some t.machine.epoch := h.pending_iff.mpr ⟨hstate, rfl⟩
      simp only [Transport.onHandshake, hpending, if_true]
      exact (h.apply_opened halive hstate).1
    | refused status =>
      rw [(h.onHandshake_eq hstate).2 status]
      exact hclosed _
    | failed =>
      rw [(h.onHandshake_eq hstate).1]
      exact hclosed _
  · have hpending : t.pending = none := by rw [h.pending, if_neg hstate]
    simpa only [Transport.onHandshake, hpending] using h

theorem IsCoherent.onCommand (h : t.IsCoherent) (halive : t.machine.alive = true) (c : Command)
    (taken : Bool) : (onCommand c taken t).1.IsCoherent := by
  cases c with
  | connect => exact h.apply_connect
  | disconnect => exact h.apply_disconnect
  | send m => exact h.send m taken
  | shutdown => exact h.apply_shutdown halive

/-- **Every wake-up leaves a coherent transport.** -/
theorem IsCoherent.step (h : t.IsCoherent) (w : Wake) : (t.step w).1.IsCoherent := by
  rw [Transport.step.eq_def]
  split
  · next hpossible =>
    obtain ⟨hrunning, hslot⟩ := Bool.and_eq_true_iff.mp hpossible
    cases w with
    | command c taken => exact h.onCommand (h.running ▸ hrunning) c taken
    | frame f => exact h.onFrame hslot f
    | handshake k => exact h.onHandshake k
    | heartbeat id taken => exact h.send _ taken
    | reconnectDue =>
      dsimp only
      split
      · exact h
      · next epoch delay htimer =>
        have hepoch := h.timer
        rw [htimer, Option.map_some] at hepoch
        split at hepoch
        · next hstate =>
          obtain rfl := Option.some.inj hepoch
          exact h.apply_reconnectDue (h.alive_of_ne (by simp [hstate])) hstate
        · cases hepoch
  · exact h

/-! ### Sockets and messages -/

theorem socket_of_socket_apply {e : Event} (h : (apply e t).1.socket = true) :
    t.socket = true :=
  socket_of_socket_executeAll (t := { t with machine := (t.machine.handle e).1 }) h

theorem socket_lose (code : UInt16) (t : Transport) : (Transport.lose code t).1.socket = false := by
  rw [← Bool.not_eq_true]
  intro h
  cases socket_of_socket_apply h

theorem IsCoherent.send_of_socket (h : t.IsCoherent) (hsocket : t.socket = true)
    (m : ClientMessage) (taken : Bool) :
    Transport.send m taken t =
      if taken then (t, [.transmit m.encode]) else Transport.lose CloseCode.abnormal t := by
  rw [Transport.send, h.socket_iff.mp hsocket, hsocket]
  rfl

/-- What the owner wants sent goes out, or the socket is lost. -/
theorem IsCoherent.offer_of_socket (h : t.IsCoherent) (hsocket : t.socket = true)
    (m : ClientMessage) (taken : Bool) :
    t.offer m taken =
      if taken then (t, [.transmit m.encode]) else Transport.lose CloseCode.abnormal t := by
  have halive : t.machine.alive = true := h.alive_of_ne (by simp [h.socket_iff.mp hsocket])
  have hpossible : t.isPossible (.command (.send m) taken) = true := by
    rw [isPossible, h.running, halive]
    rfl
  rw [offer, if_pos (h.published_eq_connected_iff.mpr hsocket), Transport.step, if_pos hpossible]
  exact h.send_of_socket hsocket m taken

theorem IsCoherent.offer_of_not_socket (h : t.IsCoherent) (hsocket : ¬t.socket = true)
    (m : ClientMessage) (taken : Bool) : t.offer m taken = (t, []) :=
  if_neg (mt h.published_eq_connected_iff.mp hsocket)

theorem IsCoherent.offer (h : t.IsCoherent) (m : ClientMessage) (taken : Bool) :
    (t.offer m taken).1.IsCoherent := by
  rw [Transport.offer]
  split
  · exact h.step _
  · exact h

/-- The attempt that is under way leads to a socket. -/
theorem IsCoherent.socket_step_opened (h : t.IsCoherent)
    (hpossible : t.isPossible (.handshake .opened) = true) :
    (t.step (.handshake .opened)).1.socket = true := by
  obtain ⟨-, hslot⟩ := Bool.and_eq_true_iff.mp hpossible
  obtain ⟨epoch, hpending⟩ := Option.isSome_iff_exists.mp hslot
  obtain ⟨hstate, rfl⟩ := h.pending_iff.mp hpending
  rw [Transport.step, if_pos hpossible, Transport.onHandshake, hpending]
  dsimp only
  rw [if_pos rfl]
  exact (h.apply_opened (h.alive_of_ne (by simp [hstate])) hstate).2

/-- **A socket comes from nowhere** but an attempt to open it. -/
theorem socket_of_socket_step {w : Wake} (hw : w ≠ .handshake .opened)
    (h : (t.step w).1.socket = true) : t.socket = true := by
  have hlose : ∀ code, (Transport.lose code t).1.socket ≠ true := fun code => by
    rw [socket_lose]
    exact Bool.false_ne_true
  have hsend : ∀ m taken, (Transport.send m taken t).1.socket = true → t.socket = true := by
    intro m taken h
    rw [Transport.send] at h
    split at h
    · next hsocket => exact (Bool.and_eq_true_iff.mp hsocket).2
    · exact h
  rw [Transport.step.eq_def] at h
  split at h
  · cases w with
    | command c taken =>
      cases c with
      | send m => exact hsend m taken h
      | shutdown => exact socket_of_socket_apply (e := .shutdown) h
      | _ => exact socket_of_socket_apply h
    | frame f =>
      cases f with
      | text s =>
        dsimp only [Transport.onFrame] at h
        split at h <;> exact h
      | other => exact h
      | _ => exact absurd h (hlose _)
    | handshake k =>
      dsimp only [Transport.onHandshake] at h
      split at h
      · exact h
      · cases k with
        | opened => exact absurd rfl hw
        | _ => exact socket_of_socket_apply (t := { t with pending := none }) h
    | heartbeat id taken => exact hsend _ taken h
    | reconnectDue =>
      dsimp only at h
      split at h
      · exact h
      · exact socket_of_socket_apply (t := { t with timer := none }) h
  · exact h

theorem isQuiet_apply (e : Event) (t : Transport) : ∀ a ∈ (apply e t).2, a.IsQuiet :=
  isQuiet_executeAll _ _

theorem isQuiet_lose (code : UInt16) (t : Transport) :
    ∀ a ∈ (Transport.lose code t).2, a.IsQuiet :=
  isQuiet_apply _ _

theorem send_transmits_or_quiet (m : ClientMessage) (taken : Bool) (t : Transport) :
    Transport.send m taken t = (t, [.transmit m.encode]) ∨
      ∀ a ∈ (Transport.send m taken t).2, a.IsQuiet := by
  rw [Transport.send]
  split
  · cases taken with
    | true => exact .inl rfl
    | false => exact .inr (isQuiet_lose CloseCode.abnormal t)
  · exact .inr (by simp)

theorem isQuiet_onHandshake (k : Handshake) (t : Transport) :
    ∀ a ∈ (Transport.onHandshake k t).2, a.IsQuiet := by
  rw [Transport.onHandshake]
  split
  · simp
  · cases k with
    | opened =>
      dsimp only
      split
      · exact isQuiet_apply _ _
      · simp
    | _ => exact isQuiet_apply _ _

theorem isQuiet_step_handshake (k : Handshake) (t : Transport) :
    ∀ a ∈ (t.step (.handshake k)).2, a.IsQuiet := by
  rw [Transport.step]
  split
  · exact isQuiet_onHandshake k t
  · simp

/-- **A wake-up that is no text** sends one message, or nothing. Nobody is told anything about the
board. -/
theorem transmits_or_quiet {w : Wake} (hw : ∀ s, w ≠ .frame (.text s)) (t : Transport) :
    (∃ m : ClientMessage, t.step w = (t, [.transmit m.encode])) ∨
      ∀ a ∈ (t.step w).2, a.IsQuiet := by
  rw [Transport.step.eq_def]
  split
  · cases w with
    | command c taken =>
      cases c with
      | send m => exact (send_transmits_or_quiet m taken t).imp_left fun h => ⟨m, h⟩
      | shutdown => exact .inr (isQuiet_apply .shutdown t)
      | _ => exact .inr (isQuiet_apply _ t)
    | frame f =>
      cases f with
      | text s => exact absurd rfl (hw s)
      | other => exact .inr (by simp [Transport.onFrame])
      | _ => exact .inr (isQuiet_apply _ _)
    | handshake k => exact .inr (isQuiet_onHandshake k t)
    | heartbeat id taken => exact (send_transmits_or_quiet _ taken t).imp_left fun h => ⟨_, h⟩
    | reconnectDue =>
      dsimp only
      split
      · exact .inr (by simp)
      · exact .inr (isQuiet_apply _ _)
  · exact .inr (by simp)

end Transport

end LiveBoard
