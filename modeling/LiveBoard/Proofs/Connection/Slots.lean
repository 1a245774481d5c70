import LiveBoard.Proofs.Connection.Coherent
import LiveBoard.Proofs.Json.Tree

/-!
# Transports over time

A transport that is woken again and again stays coherent, so its slots say at every moment what its
machine says. What comes out of a slot is therefore news to the machine: an attempt that ends, a
timer that fires and a socket that is lost are always of the epoch that the machine is in. The
listener is told about the board in a connected machine only, and a transport that was shut down has
nothing left in its slots.

## Main definitions

* `Transport.run`: many wake-ups, one after the other.
* `Notice.IsOfBoard`: a notice that comes from the relay.

## Main results

* `Transport.IsCoherent.run`: a transport that is coherent stays so.
* `Transport.IsCoherent.connected_of_tell`: who is told about the board is connected.
* `Transport.slots_follow_machine`: the slots of every transport at every moment.
-/

namespace LiveBoard

open Connection Machine

/-- The notice comes from the relay. All others are about the connection itself. -/
def Notice.IsOfBoard (n : Notice) : Prop := ∀ state, n ≠ .connectionState state

namespace Transport

/-- A transport after several wake-ups, the first one first. -/
def run (ws : List Wake) (t : Transport) : Transport := ws.foldl (fun t w => (t.step w).1) t

variable {t : Transport}

theorem IsCoherent.run (h : t.IsCoherent) (ws : List Wake) : (t.run ws).IsCoherent := by
  induction ws generalizing t with
  | nil => exact h
  | cons w ws ih => exact ih (h.step w)

/-! ### What the machine waits for -/

/-- The machine waits for the attempt that is under way, however it ends. -/
theorem IsCoherent.awaits_of_pending (h : t.IsCoherent) {epoch : UInt64}
    (hpending : t.pending = some epoch) :
    t.machine.Awaits (.opened epoch) ∧ ∀ code, t.machine.Awaits (.closed epoch code) := by
  obtain ⟨hstate, rfl⟩ := h.pending_iff.mp hpending
  have halive : t.machine.alive = true := h.alive_of_ne (by simp [hstate])
  exact ⟨⟨halive, rfl, hstate⟩, fun _ => ⟨halive, rfl, hasSocket_iff.mpr (.inl hstate)⟩⟩

/-- The machine waits for the end of the socket, with the epoch that it has at that moment. -/
theorem IsCoherent.awaits_of_socket (h : t.IsCoherent) (hsocket : t.socket = true)
    (code : UInt16) : t.machine.Awaits (.closed t.machine.epoch code) := by
  have hstate := h.socket_iff.mp hsocket
  exact ⟨h.alive_of_ne (by simp [hstate]), rfl, hasSocket_iff.mpr (.inr hstate)⟩

theorem IsCoherent.timer_iff (h : t.IsCoherent) {epoch : UInt64} :
    t.timer.map (·.1) = some epoch ↔
      t.machine.state = .reconnecting ∧ t.machine.epoch = epoch := by
  rw [h.timer]
  split <;> simp_all

/-- The machine waits for the timer. -/
theorem IsCoherent.awaits_of_timer (h : t.IsCoherent) {epoch : UInt64}
    (htimer : t.timer.map (·.1) = some epoch) : t.machine.Awaits (.reconnectDue epoch) := by
  obtain ⟨hstate, rfl⟩ := h.timer_iff.mp htimer
  exact ⟨h.alive_of_ne (by simp [hstate]), rfl, hstate⟩

/-! ### What the listener is told -/

/-- **Who is told about the board** is connected, and stays so. -/
theorem IsCoherent.connected_of_tell (h : t.IsCoherent) {w : Wake} {n : Notice}
    (hn : n.IsOfBoard) (htell : .tell n ∈ (t.step w).2) :
    t.machine.state = .connected ∧ (t.step w).1 = t := by
  by_cases hw : ∃ s, w = .frame (.text s)
  · obtain ⟨s, rfl⟩ := hw
    rw [Transport.step] at htell ⊢
    split at htell
    · next hpossible =>
      have hsocket : t.socket = true := (Bool.and_eq_true_iff.mp hpossible).2
      refine ⟨h.socket_iff.mp hsocket, ?_⟩
      rw [if_pos hpossible, Transport.onFrame]
      split <;> rfl
    · cases htell
  · rcases transmits_or_quiet (fun s hs => hw ⟨s, hs⟩) t with ⟨m, hstep⟩ | hquiet
    · simp [hstep] at htell
    · have htold := hquiet _ htell
      cases n with
      | connectionState state => exact absurd rfl (hn state)
      | _ => exact htold.elim

/-! ### After a shutdown -/

theorem running_step_shutdown (taken : Bool) (t : Transport) :
    (t.step (.command .shutdown taken)).1.running = false := by
  rw [Transport.step]
  split
  · rfl
  · next himpossible => simpa [isPossible] using himpossible

/-- A transport that was shut down is disconnected. -/
theorem IsCoherent.disconnected_of_not_running (h : t.IsCoherent) (hrunning : t.running = false) :
    t.machine.state = .disconnected :=
  h.steady.dead (h.running ▸ hrunning)

theorem step_of_not_running (h : t.running = false) (w : Wake) : t.step w = (t, []) := by
  rw [Transport.step.eq_def, if_neg (by simp [isPossible, h])]

/-- The slots of a disconnected transport are empty. -/
theorem IsCoherent.slots_of_disconnected (h : t.IsCoherent)
    (hstate : t.machine.state = .disconnected) :
    t.socket = false ∧ t.pending = none ∧ t.heartbeat = false ∧ t.timer = none := by
  refine ⟨?_, ?_, ?_, ?_⟩
  · rw [h.socket, hstate]
    rfl
  · rw [h.pending, hstate]
    rfl
  · rw [h.heartbeat, hstate]
    rfl
  · have htimer := h.timer
    rw [hstate] at htimer
    exact Option.map_eq_none_iff.mp htimer

/-! ### Every moment -/

/-- **The slots follow the machine.** However a transport is woken, its owner sees the state of its
machine. An attempt is under way exactly while the machine is connecting, there are a socket and
heartbeats exactly while it is connected, and there is a timer exactly while it waits to reconnect;
the attempt and the timer are of the epoch of the machine. So the machine waits for whatever comes
of them, and for the end of the socket. The listener is told about the board only by a connected
transport that stays so. A shutdown stops the transport, and once it is stopped its slots are empty
and nothing wakes it. -/
theorem slots_follow_machine {settings : Settings} (h : spawn settings = .ok t) (ws : List Wake)
    {u : Transport} (hu : t.run ws = u) :
    u.published = u.machine.state ∧
    (∀ epoch, u.pending = some epoch ↔
      u.machine.state = .connecting ∧ u.machine.epoch = epoch) ∧
    (u.socket = true ↔ u.machine.state = .connected) ∧
    (u.heartbeat = true ↔ u.machine.state = .connected) ∧
    (∀ epoch, u.timer.map (·.1) = some epoch ↔
      u.machine.state = .reconnecting ∧ u.machine.epoch = epoch) ∧
    (∀ epoch, u.pending = some epoch →
      u.machine.Awaits (.opened epoch) ∧ ∀ code, u.machine.Awaits (.closed epoch code)) ∧
    (∀ epoch delay, u.timer = some (epoch, delay) → u.machine.Awaits (.reconnectDue epoch)) ∧
    (u.socket = true → ∀ code, u.machine.Awaits (.closed u.machine.epoch code)) ∧
    (∀ w n, n.IsOfBoard → .tell n ∈ (u.step w).2 →
      u.machine.state = .connected ∧ (u.step w).1 = u) ∧
    (∀ taken, (u.step (.command .shutdown taken)).1.running = false) ∧
    (u.running = false → u.socket = false ∧ u.pending = none ∧ u.heartbeat = false ∧
      u.timer = none ∧ ∀ w, u.step w = (u, [])) := by
  have hcoherent : u.IsCoherent := hu ▸ (isCoherent_spawn h).1.run ws
  refine ⟨hcoherent.published, fun _ => hcoherent.pending_iff, hcoherent.socket_iff, ?_,
    fun _ => hcoherent.timer_iff, fun _ => hcoherent.awaits_of_pending, ?_,
    hcoherent.awaits_of_socket, fun _ _ => hcoherent.connected_of_tell,
    fun taken => running_step_shutdown taken u, fun hrunning => ?_⟩
  · rw [hcoherent.heartbeat, decide_eq_true_iff]
  · intro epoch delay htimer
    exact hcoherent.awaits_of_timer (by rw [htimer]; rfl)
  · obtain ⟨hsocket, hpending, hheartbeat, htimer⟩ :=
      hcoherent.slots_of_disconnected (hcoherent.disconnected_of_not_running hrunning)
    exact ⟨hsocket, hpending, hheartbeat, htimer, step_of_not_running hrunning⟩

/-- A socket does not take what is sent on it, so the transport waits to connect again. The end of
that socket is heard no more, and a shutdown empties the slot of the timer. -/
theorem slots_follow_machine_of_lost :
    let settings : Settings :=
      { Settings.standard with apiUrl := "http://[::1]", boardId := "b", token := some "k" }
    let address : Url.Address :=
      { scheme := "ws", userinfo := none, host := .ipv6 [0, 0, 0, 0, 0, 0, 0, 1], port := none
        path := ["ws".toList, "board".toList, "b".toList, "sync".toList]
        query := some "token=k".toList, fragment := none }
    let t : Transport :=
      { machine := .start .standard true, endpoint := some address, published := .disconnected
        heartbeatInterval := 30000, socket := false, pending := none, heartbeat := false
        timer := none, running := true }
    let lost : List Wake :=
      [.command .connect true, .handshake .opened, .heartbeat "t0" true,
        .command (.send (.taskMove "1" .done)) false, .frame (.close none)]
    spawn settings = .ok t ∧ (t.run lost).published = (t.run lost).machine.state ∧
      (t.run lost).machine.state = .reconnecting ∧
      (∃ delay, (t.run lost).timer = some (1, delay)) ∧
      (t.run lost).machine.Awaits (.reconnectDue 1) ∧
      (t.run (lost ++ [.command .shutdown true])).timer = none := by
  intro settings address t lost
  have hspawn : spawn settings = .ok t := by decide +kernel
  have htimer : (t.run lost).timer.map (·.1) = some 1 := by decide +kernel
  have hstopped : (t.run (lost ++ [.command .shutdown true])).running = false := by decide +kernel
  obtain ⟨hpublished, -, -, -, hwaits, -, hdue, -⟩ := slots_follow_machine hspawn lost rfl
  obtain ⟨-, -, -, -, -, -, -, -, -, -, hempty⟩ :=
    slots_follow_machine hspawn (lost ++ [.command .shutdown true]) rfl
  obtain ⟨⟨epoch, delay⟩, hslot, rfl⟩ := Option.map_eq_some_iff.mp htimer
  exact ⟨hspawn, hpublished, ((hwaits _).mp htimer).1, ⟨delay, hslot⟩, hdue _ _ hslot,
    (hempty hstopped).2.2.2.1⟩

end Transport

end LiveBoard
