import LiveBoard.Proofs.Connection.Rejection
import LiveBoard.Proofs.Connection.Slots

/-!
# How connections end

A connection can end in many ways: the other side closes the socket, with a code or without, the
stream ends, the socket fails or does not take what is sent on it, or the attempt to open it is
refused with a status or gets no answer. A transport tells its machine one close code for each, and
the machine knows from the code whether to try again.

Two codes and three statuses are rejections, and after these the transport is at rest. After all
else it waits, with one timer, whose delay follows from the attempts so far.

## Main definitions

* `Wake.Ends`: the ways in which a connection ends.
* `Wake.closeCode`: what the machine is told about it.
* `Wake.IsRejection`: the other side does not want the session.

## Main results

* `Wake.isTerminal_closeCode_iff`: the machine takes exactly the rejections as final.
* `Transport.IsCoherent.step_of_ends`: every end of a connection closes the epoch of the machine.
* `Transport.rests_iff_rejected`: which ends are final, and what comes after all others.
-/

namespace LiveBoard

open Connection Machine

namespace CloseCode

theorem isTerminal_ofCode_iff {code : UInt16} :
    (ofCode code).isTerminal = true ↔ code = 4001 ∨ code = 4004 := by
  rw [ofCode]
  split
  · simp_all [isTerminal]
  · split <;> simp_all [isTerminal]

theorem isTerminal_code_ofHandshakeStatus_iff {status : UInt16} :
    (ofCode (ofHandshakeStatus status).code).isTerminal = true ↔
      status = 401 ∨ status = 403 ∨ status = 404 := by
  rw [isTerminal_ofCode_iff, ofHandshakeStatus]
  split
  · next h => rcases h with rfl | rfl <;> decide
  · split <;> simp_all [code, abnormal]

end CloseCode

namespace Wake

/-- The wake-up ends the connection, or the attempt to get one, of a transport in a state. -/
inductive Ends : ConnectionState → Wake → Prop
  /-- The other side closes the socket, perhaps with a code. -/
  | closed (code : Option UInt16) : Ends .connected (.frame (.close code))
  /-- The stream ends. -/
  | ended : Ends .connected (.frame .ended)
  /-- The socket fails. -/
  | failed : Ends .connected (.frame .failed)
  /-- The socket does not take what the owner sends. -/
  | unsent (m : ClientMessage) : Ends .connected (.command (.send m) false)
  /-- The socket does not take a heartbeat. -/
  | silent (id : String) : Ends .connected (.heartbeat id false)
  /-- The other side refuses to open a socket. -/
  | refused (status : UInt16) : Ends .connecting (.handshake (.refused status))
  /-- There is no answer to the attempt. -/
  | unanswered : Ends .connecting (.handshake .failed)

theorem Ends.hasSocket {m : Machine} {w : Wake} (h : w.Ends m.state) : m.hasSocket = true := by
  rw [hasSocket_iff]
  generalize m.state = state at h
  cases h with
  | closed | ended | failed | unsent | silent => exact .inr rfl
  | refused | unanswered => exact .inl rfl

/-- The close code that stands for the end of a connection. -/
def closeCode : Wake → UInt16
  | .frame (.close code) => code.getD CloseCode.abnormal
  | .handshake (.refused status) => (CloseCode.ofHandshakeStatus status).code
  | _ => CloseCode.abnormal

/-- The other side has closed the socket, or refused to open it, because it does not want the
session. -/
def IsRejection : Wake → Prop
  | .frame (.close code) => code = some 4001 ∨ code = some 4004
  | .handshake (.refused status) => status = 401 ∨ status = 403 ∨ status = 404
  | _ => False

/-- **The machine takes exactly the rejections as final.** -/
theorem isTerminal_closeCode_iff (w : Wake) :
    (CloseCode.ofCode w.closeCode).isTerminal = true ↔ w.IsRejection := by
  have habnormal : (CloseCode.ofCode CloseCode.abnormal).isTerminal = true ↔ False := by
    rw [CloseCode.isTerminal_ofCode_iff]
    decide
  cases w with
  | frame f =>
    cases f with
    | close code =>
      cases code with
      | none => simpa [closeCode, IsRejection] using habnormal
      | some code => simp [closeCode, IsRejection, CloseCode.isTerminal_ofCode_iff]
    | text s | other | failed | ended => exact habnormal
  | handshake k =>
    cases k with
    | refused status => exact CloseCode.isTerminal_code_ofHandshakeStatus_iff
    | opened | failed => exact habnormal
  | command c taken | heartbeat id taken | reconnectDue => exact habnormal

instance : DecidablePred IsRejection := fun w => decidable_of_iff _ w.isTerminal_closeCode_iff

end Wake

namespace Transport

variable {t u : Transport} {w : Wake}

/-! ### The end of a connection is told to the machine -/

theorem IsCoherent.awaits_of_ends (h : t.IsCoherent) (hw : w.Ends t.machine.state) :
    t.machine.Awaits (.closed t.machine.epoch w.closeCode) :=
  ⟨h.alive_of_ne (ne_disconnected_of_hasSocket hw.hasSocket), rfl, hw.hasSocket⟩

/-- The transport hears how its connection ends. -/
theorem IsCoherent.isPossible_of_ends (h : t.IsCoherent) (hw : w.Ends t.machine.state) :
    t.isPossible w = true := by
  have hrunning : t.running = true := h.running.trans (h.awaits_of_ends hw).1
  have hsocket := h.socket
  have hpending := h.pending
  have hheartbeat := h.heartbeat
  rw [isPossible.eq_def, hrunning]
  generalize t.machine.state = state at hw hsocket hpending hheartbeat
  cases hw with
  | closed | ended | failed => exact hsocket
  | unsent m => rfl
  | silent id => exact hheartbeat
  | refused | unanswered => rw [hpending]; rfl

/-- **Every end of a connection** closes the epoch that the machine is in, and nothing else. -/
theorem IsCoherent.step_of_ends (h : t.IsCoherent) (hw : w.Ends t.machine.state) :
    t.step w = apply (.closed t.machine.epoch w.closeCode) t.unplugged := by
  rw [Transport.step.eq_def, if_pos (h.isPossible_of_ends hw)]
  generalize hstate : t.machine.state = state at hw
  cases hw with
  | closed | ended | failed => exact h.lose_eq (h.socket_iff.mpr hstate) _
  | unsent | silent =>
    have hsocket : t.socket = true := h.socket_iff.mpr hstate
    exact (h.send_of_socket hsocket _ false).trans (h.lose_eq hsocket _)
  | refused status => exact (h.onHandshake_eq hstate).2 status
  | unanswered => exact (h.onHandshake_eq hstate).1

/-! ### What comes after -/

/-- What is left of a transport that was rejected. It is at rest. -/
def resting (t : Transport) : Transport :=
  t.disconnected { t.machine with state := .disconnected, heartbeatLive := false }

/-- What is left of a transport whose connection was lost. It waits for the next attempt. -/
def waiting (t : Transport) : Transport :=
  { t.unplugged with
    machine := { t.machine with
      state := .reconnecting, heartbeatLive := false, reconnectPending := true }
    published := .reconnecting
    heartbeat := false
    timer := some (t.machine.epoch, t.machine.nextDelay) }

/-- **A transport is at rest** after a rejection, and waits after all else. -/
theorem IsCoherent.apply_closed_eq (h : t.IsCoherent) {code : UInt16}
    (he : t.machine.Awaits (.closed t.machine.epoch code)) :
    apply (.closed t.machine.epoch code) t.unplugged =
      if (CloseCode.ofCode code).isTerminal then
        (t.resting, [.tell (.connectionState .disconnected)])
      else (t.waiting, [.tell (.connectionState .reconnecting)]) := by
  have hstops : ∀ m, executeAll t.machine.stops { t.unplugged with machine := m } =
      ({ t.unplugged with machine := m, heartbeat := false, timer := none }, []) :=
    fun m => h.executeAll_stops rfl rfl
  obtain ⟨m, effects, hout, -, happly⟩ := exists_outcome h.steady (.closed t.machine.epoch code)
  rw [happly t.unplugged rfl]
  cases hout with
  | rejected code alive socket terminal =>
    rw [if_pos terminal, executeAll_append, hstops]
    rfl
  | lost code alive socket transient =>
    rw [if_neg (by simp [transient]), executeAll_append, hstops]
    rfl
  | ignored hn => exact absurd he hn

/-! ### The policy of a transport -/

theorem machine_execute (e : Effect) (t : Transport) : (execute e t).1.machine = t.machine := by
  cases e with
  | openSocket epoch =>
    rw [execute]
    split <;> rfl
  | _ => rfl

theorem machine_executeAll (es : List Effect) (t : Transport) :
    (executeAll es t).1.machine = t.machine := by
  induction es generalizing t with
  | nil => rfl
  | cons e es ih => rw [executeAll_cons, ih, machine_execute]

/-- The machine of the transport has stayed as it was, or has handled one event. -/
def Steps (m : Machine) (t : Transport) : Prop :=
  t.machine = m ∨ ∃ e, t.machine = (m.handle e).1

theorem steps_apply (e : Event) (t : Transport) : (apply e t).1.Steps t.machine :=
  .inr ⟨e, machine_executeAll _ _⟩

theorem steps_send (m : ClientMessage) (taken : Bool) (t : Transport) :
    (send m taken t).1.Steps t.machine := by
  rw [send]
  split
  · split
    · exact .inl rfl
    · exact steps_apply _ { t with socket := false }
  · exact .inl rfl

theorem steps_onHandshake (k : Handshake) (t : Transport) :
    (onHandshake k t).1.Steps t.machine := by
  rw [onHandshake.eq_def]
  split
  · exact .inl rfl
  · cases k with
    | opened =>
      dsimp only
      split
      · exact steps_apply _ { t with socket := true, pending := none }
      · exact .inl rfl
    | refused | failed => exact steps_apply _ { t with pending := none }

/-- A wake-up passes at most one event to the machine. -/
theorem steps_step (w : Wake) (t : Transport) : (t.step w).1.Steps t.machine := by
  rw [Transport.step.eq_def]
  split
  · cases w with
    | command c taken =>
      cases c with
      | connect => exact steps_apply .connect t
      | disconnect => exact steps_apply .disconnect t
      | send m => exact steps_send m taken t
      | shutdown => exact steps_apply .shutdown t
    | frame f =>
      cases f with
      | text s =>
        dsimp only [onFrame]
        split <;> exact .inl rfl
      | other => exact .inl rfl
      | close | failed | ended => exact steps_apply _ { t with socket := false }
    | handshake k => exact steps_onHandshake k t
    | heartbeat id taken => exact steps_send _ taken t
    | reconnectDue =>
      dsimp only
      split
      · exact .inl rfl
      · exact steps_apply _ { t with timer := none }
  · exact .inl rfl

theorem IsCoherent.policy_step (h : t.IsCoherent) (w : Wake) :
    (t.step w).1.machine.policy = t.machine.policy := by
  obtain hsame | ⟨e, hhandled⟩ := steps_step w t
  · rw [hsame]
  · rw [hhandled, (outcome_handle h.steady e).policy_eq]

theorem IsCoherent.policy_run (h : t.IsCoherent) (ws : List Wake) :
    (t.run ws).machine.policy = t.machine.policy := by
  induction ws generalizing t with
  | nil => rfl
  | cons w ws ih => exact (ih (h.step w)).trans (h.policy_step w)

theorem policy_spawn {settings : Settings} (h : spawn settings = .ok t) :
    t.machine.policy = settings.backoff := by
  rw [spawn] at h
  split at h
  · cases haddress : settings.socketAddress with
    | error e =>
      rw [haddress] at h
      cases h
    | ok address =>
      rw [haddress] at h
      cases h
      rfl
  · cases h
    rfl

/-! ### Every moment -/

/-- **Which ends are final.** However a transport is woken, while it is connecting or connected the
end of its connection leads to one of two things. It is at rest, disconnected and without a timer,
exactly if the socket was closed with code 4001 or 4004, or the attempt was refused with status 401,
403 or 404. After all else, whatever the code or the status, it is reconnecting, and it has started
exactly one timer, of its epoch, with the delay that its settings give for the number of attempts
so far and one more. -/
theorem rests_iff_rejected {settings : Settings} (h : spawn settings = .ok t) (ws : List Wake)
    (hu : t.run ws = u) (hw : w.Ends u.machine.state) :
    let v := (u.step w).1
    let started := schedules (u.machine.handle (.closed u.machine.epoch w.closeCode)).2
    let delay := settings.backoff.delay (u.machine.attempt + 1)
    u.step w = apply (.closed u.machine.epoch w.closeCode) u.unplugged ∧
    v.published = v.machine.state ∧
    (v.machine.state = .disconnected ∧ v.timer = none ∧ started = [] ↔ w.IsRejection) ∧
    (v.machine.state = .reconnecting ∧ v.timer = some (u.machine.epoch, delay) ∧
      started = [(u.machine.epoch, delay)] ↔ ¬w.IsRejection) := by
  intro v started delay
  have hcoherent : u.IsCoherent := hu ▸ (isCoherent_spawn h).1.run ws
  have hpolicy : u.machine.policy = settings.backoff := by
    rw [← hu, (isCoherent_spawn h).1.policy_run, policy_spawn h]
  have hdelay : u.machine.nextDelay = delay := by rw [nextDelay, hpolicy]
  have hawaits := hcoherent.awaits_of_ends hw
  have hstep := hcoherent.step_of_ends hw
  have hstarted : started =
      if (CloseCode.ofCode w.closeCode).isTerminal then [] else [(u.machine.epoch, delay)] := by
    have hschedules := (outcome_handle hcoherent.steady _).schedules_eq hawaits
    rw [hdelay, Event.isTransientClose] at hschedules
    cases hcode : (CloseCode.ofCode w.closeCode).isTerminal <;> simpa [hcode] using hschedules
  have hv : v = if (CloseCode.ofCode w.closeCode).isTerminal then u.resting else u.waiting := by
    rw [show v = (u.step w).1 from rfl, hstep, hcoherent.apply_closed_eq hawaits]
    split <;> rfl
  refine ⟨hstep, (hcoherent.step w).published, ?_⟩
  rw [← w.isTerminal_closeCode_iff, hv, hstarted, ← hdelay]
  cases (CloseCode.ofCode w.closeCode).isTerminal <;>
    simp [resting, waiting, Transport.disconnected]

/-- The second attempt of a transport whose socket was closed without a code is refused with
status 500. -/
theorem rests_iff_rejected_of_unavailable :
    let settings : Settings :=
      { Settings.standard with apiUrl := "http://[::1]", boardId := "b", token := some "k" }
    let address : Url.Address :=
      { scheme := "ws", userinfo := none, host := .ipv6 [0, 0, 0, 0, 0, 0, 0, 1], port := none
        path := ["ws".toList, "board".toList, "b".toList, "sync".toList]
        query := some "token=k".toList, fragment := none }
    let t : Transport :=
      { machine := .start .standard true, endpoint := some address, published := .disconnected
        heartbeatInterval := 30000, socket := false, pending := none, heartbeat := false
        timer := none, running := true }
    let ws : List Wake :=
      [.command .connect true, .handshake .opened, .frame (.close none), .reconnectDue]
    let u := t.run ws
    let w : Wake := .handshake (.refused 500)
    spawn settings = .ok t ∧ w.Ends u.machine.state ∧ ¬w.IsRejection ∧
      (u.step w).1.machine.state = .reconnecting ∧ (u.step w).1.timer = some (2, 2000) := by
  intro settings address t ws u w
  have hspawn : spawn settings = .ok t := by decide +kernel
  have hstate : u.machine.state = .connecting := by decide +kernel
  have hepoch : u.machine.epoch = 2 := by decide +kernel
  have hdelay : settings.backoff.delay (u.machine.attempt + 1) = 2000 := by decide +kernel
  have hw : w.Ends u.machine.state := by
    rw [hstate]
    exact .refused 500
  have hrejection : ¬w.IsRejection := by decide
  obtain ⟨-, -, -, hwaits⟩ := rests_iff_rejected (u := u) hspawn ws rfl hw
  obtain ⟨hreconnecting, htimer, -⟩ := hwaits.mpr hrejection
  rw [hepoch, hdelay] at htimer
  exact ⟨hspawn, hw, hrejection, hreconnecting, htimer⟩

/-- Status 403 is a rejection, although it is neither of those that stand for the two codes. -/
theorem rests_of_forbidden :
    let settings : Settings :=
      { Settings.standard with apiUrl := "http://[::1]", boardId := "b", token := some "k" }
    let address : Url.Address :=
      { scheme := "ws", userinfo := none, host := .ipv6 [0, 0, 0, 0, 0, 0, 0, 1], port := none
        path := ["ws".toList, "board".toList, "b".toList, "sync".toList]
        query := some "token=k".toList, fragment := none }
    let t : Transport :=
      { machine := .start .standard true, endpoint := some address, published := .disconnected
        heartbeatInterval := 30000, socket := false, pending := none, heartbeat := false
        timer := none, running := true }
    let u := t.run [.command .connect true]
    let v := (u.step (.handshake (.refused 403))).1
    spawn settings = .ok t ∧ u.machine.state = .connecting ∧ (403 : UInt16) ≠ 401 ∧
      (403 : UInt16) ≠ 404 ∧ v.machine.state = .disconnected ∧ v.timer = none := by
  decide +kernel

end Transport

end LiveBoard
