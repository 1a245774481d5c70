import LiveBoard.Proofs.Session.Request
import LiveBoard.Session.Network

/-!
# What a session does on a network

A session that is told something by the other side only tells it on. So of all that it does on a
network, one act at most is about the network, and what follows from that act leads to no other one.
A session whose socket has something for it reads all of it and answers nothing; a move that it
makes reaches its relay and is read back; and when it is shut down its relay is left. A session that
tries to connect either joins a board or leaves the network as it is, and its own board too.

## Main definitions

* `Act.IsTell`, `Wake.isOuter`: acts and wake-ups that lead to nothing on the network.
* `Link.IsOpen`: the session is connected over a socket.

## Main results

* `Link.runIn_cons`: an act that is about the network.
* `Link.deliver_of_flush`: a session reads what its socket has for it.
* `Link.moveTask_of_isOpen`: a session that is connected moves a task.
* `Link.command_shutdown_of_isOpen`: a session that is connected is shut down.
* `Link.start_eq`: a session begins.
-/

namespace LiveBoard

open Connection Machine

/-- The act only tells the listener something. -/
def Act.IsTell : Act → Prop
  | .tell _ => True
  | _ => False

/-- A wake-up by the other side. -/
def Wake.isOuter : Wake → Bool
  | .frame _ => true
  | .handshake _ => true
  | _ => false

/-- The effect is about the socket. -/
def Connection.Effect.isOfSocket : Effect → Bool
  | .openSocket _ => true
  | .closeSocket => true
  | .startHeartbeat => false
  | .stopHeartbeat => false
  | .scheduleReconnect _ _ => false
  | .cancelReconnect => false
  | .stateChanged _ => false

/-! ### Transports -/

namespace Transport

variable {t : Transport}

theorem isTell_executeAll {es : List Effect} (h : ∀ e ∈ es, e.isOfSocket = false) (t : Transport) :
    ∀ a ∈ (executeAll es t).2, a.IsTell := by
  induction es generalizing t with
  | nil => simp
  | cons e es ih =>
    obtain ⟨he, hes⟩ := List.forall_mem_cons.mp h
    rw [executeAll_cons, List.forall_mem_append]
    refine ⟨?_, ih hes _⟩
    cases e with
    | openSocket epoch => cases he
    | closeSocket => cases he
    | _ => simp [execute, Act.IsTell]

theorem isOfSocket_stops (m : Machine) : ∀ e ∈ m.stops, e.isOfSocket = false := by
  rw [stops, List.forall_mem_append]
  constructor <;> split <;> simp [Effect.isOfSocket]

theorem isTell_apply_opened (h : t.machine.IsSteady) (epoch : UInt64) :
    ∀ a ∈ (apply (.opened epoch) t).2, a.IsTell := by
  obtain ⟨m, effects, hout, -, happly⟩ := exists_outcome h (.opened epoch)
  rw [happly t rfl]
  cases hout with
  | opened alive state => exact isTell_executeAll (by simp [Effect.isOfSocket]) _
  | ignored hn => simp

theorem isTell_apply_closed (h : t.machine.IsSteady) (epoch : UInt64) (code : UInt16) :
    ∀ a ∈ (apply (.closed epoch code) t).2, a.IsTell := by
  obtain ⟨m, effects, hout, -, happly⟩ := exists_outcome h (.closed epoch code)
  rw [happly t rfl]
  have hstops := isOfSocket_stops t.machine
  cases hout with
  | rejected code alive socket terminal =>
    refine isTell_executeAll (List.forall_mem_append.mpr ⟨hstops, ?_⟩) _
    simp [Effect.isOfSocket]
  | lost code alive socket transient =>
    refine isTell_executeAll (List.forall_mem_append.mpr ⟨hstops, ?_⟩) _
    simp [Effect.isOfSocket]
  | ignored hn => simp

/-- **What the other side does** is only told on. -/
theorem IsCoherent.isTell_step (h : t.IsCoherent) {w : Wake} (hw : w.isOuter = true) :
    ∀ a ∈ (t.step w).2, a.IsTell := by
  have hlose : ∀ code, ∀ a ∈ (Transport.lose code t).2, a.IsTell := fun code =>
    isTell_apply_closed (t := { t with socket := false }) h.steady t.machine.epoch code
  rw [Transport.step.eq_def]
  split
  · cases w with
    | frame f =>
      cases f with
      | text s =>
        dsimp only [Transport.onFrame]
        split <;> simp [Act.IsTell]
      | other => simp [Transport.onFrame]
      | _ => exact hlose _
    | handshake k =>
      dsimp only [Transport.onHandshake]
      split
      · simp
      · next epoch _ =>
        cases k with
        | opened =>
          dsimp only
          split
          · exact isTell_apply_opened
              (t := { t with pending := none, socket := true }) h.steady epoch
          · simp
        | _ => exact isTell_apply_closed (t := { t with pending := none }) h.steady epoch _
    | _ => cases hw
  · simp

/-- A transport at rest that may connect to an address. -/
def atRest (settings : Settings) (address : Url.Address) : Transport where
  machine := .start settings.backoff true
  endpoint := some address
  published := .disconnected
  heartbeatInterval := settings.heartbeatInterval
  socket := false
  pending := none
  heartbeat := false
  timer := none
  running := true

theorem spawn_eq {settings : Settings} {address : Url.Address} (hactive : settings.isActive = true)
    (haddress : settings.socketAddress = .ok address) :
    spawn settings = .ok (atRest settings address) := by
  rw [spawn, if_pos hactive, haddress]
  rfl

/-- A transport that is shut down hangs up, if it has a socket. -/
theorem IsCoherent.acts_shutdown (h : t.IsCoherent) (taken : Bool) :
    ∃ tells, (∀ a ∈ tells, a.IsTell) ∧
      (t.step (.command .shutdown taken)).2 =
        (if t.socket then [.hangUp] else []) ++ tells := by
  cases halive : t.machine.alive with
  | false =>
    have hpossible : ¬t.isPossible (.command .shutdown taken) = true := by
      simp [isPossible, h.running, halive]
    have hsocket : t.socket = false := by rw [h.socket, h.steady.dead halive]; rfl
    exact ⟨[], by simp, by rw [Transport.step, if_neg hpossible, hsocket]; rfl⟩
  | true =>
    have hpossible : t.isPossible (.command .shutdown taken) = true := by
      simp [isPossible, h.running, halive]
    rw [Transport.step, if_pos hpossible]
    show ∃ tells, _ ∧ (apply .shutdown t).2 = _
    obtain ⟨m, effects, hout, -, happly⟩ := exists_outcome h.steady .shutdown
    rw [happly t rfl]
    cases hout with
    | shutdown alive =>
      have hstops := h.executeAll_stops (u := { t with machine := { t.machine.disconnected with
        alive := false } }) rfl rfl
      have hsocket := h.socket
      rw [farewell, List.append_assoc, executeAll_append, hstops]
      cases hs : t.machine.state <;> simp_all [hasSocket, execute, Act.IsTell]
    | ignored hn => exact absurd ⟨halive, trivial⟩ hn

end Transport

/-! ### Sessions -/

namespace Session

variable {s : Session}

/-- A session that is woken several times, the first time first. -/
def wakeAll (ws : List Wake) (s : Session) : Session := ws.foldl (fun s w => (s.wake w).1) s

theorem isCoherent_wakeAll (h : s.transport.IsCoherent) (ws : List Wake) :
    (s.wakeAll ws).transport.IsCoherent := by
  induction ws generalizing s with
  | nil => exact h
  | cons w ws ih => exact ih (h.step w)

/-- A board hears of nothing but texts. -/
theorem board_wake {w : Wake} (hw : ∀ text, w ≠ .frame (.text text)) (s : Session) :
    (s.wake w).1.board = s.board := by
  rcases Transport.transmits_or_quiet hw s.transport with ⟨m, hstep⟩ | hquiet
  · rw [wake, after, hstep]
    rfl
  · exact hearAll_of_isQuiet hquiet s.board

theorem board_wakeAll {ws : List Wake} (hws : ∀ w ∈ ws, ∀ text, w ≠ .frame (.text text))
    (s : Session) : (s.wakeAll ws).board = s.board := by
  induction ws generalizing s with
  | nil => rfl
  | cons w ws ih =>
    obtain ⟨hw, hws⟩ := List.forall_mem_cons.mp hws
    exact (ih hws (s.wake w).1).trans (board_wake hw s)

/-- A session reads texts, one after the other. -/
theorem wakeAll_texts (h : s.transport.IsCoherent) (hsocket : s.transport.socket = true)
    (texts : List String) :
    ∃ board, s.wakeAll (texts.map fun text => .frame (.text text)) = { s with board } ∧
      board.store = s.board.store.readAll texts := by
  induction texts generalizing s with
  | nil => exact ⟨s.board, rfl, rfl⟩
  | cons text texts ih =>
    obtain ⟨board, acts, hwake, -, hread⟩ := wake_text h hsocket text
    obtain ⟨last, hlast, hstore⟩ := ih (s := { s with board }) h hsocket
    refine ⟨last, ?_, hstore.trans (by rw [hread]; rfl)⟩
    rw [← hlast, List.map_cons, wakeAll, List.foldl_cons, hwake]
    rfl

/-- A session that is connected moves a task on its board, and says so. -/
theorem moveTask_eq (h : s.transport.IsCoherent) (hsocket : s.transport.socket = true)
    (id : String) (status : Status) :
    ∃ board, board.store = (s.board.store.moveLocally id status).2 ∧
      (s.moveTask id status true).2 =
        ({ s with board }, [.transmit (ClientMessage.taskMove id status).encode]) := by
  refine ⟨(s.board.update (BoardStore.moveLocally id status)).2, rfl, ?_⟩
  rw [moveTask]
  dsimp only [update]
  rw [after, h.offer_of_socket hsocket]
  rfl

/-- Settings with which a client may connect lead to a session that tries to. -/
theorem start_eq {settings : Settings} {address : Url.Address} (hactive : settings.isActive = true)
    (haddress : settings.socketAddress = .ok address) :
    ∃ s, start settings none =
        .ok (s, [.tell (.connectionState .connecting), .dial address]) ∧
      s.transport.isPossible (.handshake .opened) = true ∧ s.board = .ofStore .empty := by
  refine ⟨(wake (.command .connect true)
    ⟨settings.boardId, .ofStore .empty, .atRest settings address⟩).1, ?_, rfl, rfl⟩
  rw [start, Transport.spawn_eq hactive haddress]
  rfl

end Session

/-! ### Links -/

namespace Link

variable {m : Moment} {l l' : Link} {k k' : SyncSocket} {ws : List Wake}

/-- What the other side wakes a session for is told on, and no more. -/
theorem wakeAll_eq (h : l.session.transport.IsCoherent) (hws : ∀ w ∈ ws, w.isOuter = true) :
    ∃ tells, (∀ a ∈ tells, a.IsTell) ∧
      l.wakeAll ws = ({ l with session := l.session.wakeAll ws }, tells) := by
  induction ws generalizing l with
  | nil => exact ⟨[], by simp, rfl⟩
  | cons w ws ih =>
    obtain ⟨hw, hws⟩ := List.forall_mem_cons.mp hws
    obtain ⟨tells, htells, heq⟩ :=
      ih (l := { l with session := (l.session.wake w).1 }) (h.step w) hws
    refine ⟨(l.session.wake w).2 ++ tells, ?_, ?_⟩
    · exact List.forall_mem_append.mpr ⟨h.isTell_step hw, htells⟩
    · rw [wakeAll]
      dsimp only
      rw [heq]
      rfl

/-- Nothing follows from what is only told. -/
theorem runIn_of_tells {acts : List Act} (h : ∀ a ∈ acts, a.IsTell) (fuel : Nat) (l : Link) :
    l.runIn m fuel acts = l := by
  induction fuel generalizing acts with
  | zero => rfl
  | succ fuel ih =>
    cases acts with
    | nil => rfl
    | cons a acts =>
      obtain ⟨ha, hacts⟩ := List.forall_mem_cons.mp h
      cases a with
      | tell n =>
        have hstep : l.runIn m (fuel + 1) (.tell n :: acts) = l.runIn m fuel (acts ++ []) := rfl
        rw [hstep, List.append_nil, ih hacts]
      | _ => exact ha.elim

/-- **An act that is about the network**, with nothing else but what is told: the session is woken
for what comes of the act, and that is all. -/
theorem runIn_cons {a : Act} {tells : List Act} (htells : ∀ a ∈ tells, a.IsTell)
    (hact : l.act m a = (l', ws)) (h : l'.session.transport.IsCoherent)
    (hws : ∀ w ∈ ws, w.isOuter = true) (fuel : Nat) :
    l.runIn m (fuel + 1) (a :: tells) = { l' with session := l'.session.wakeAll ws } := by
  obtain ⟨more, hmore, heq⟩ := wakeAll_eq h hws
  have hstep : l.runIn m (fuel + 1) (a :: tells) =
      ((l.act m a).1.wakeAll (l.act m a).2).1.runIn m fuel
        (tells ++ ((l.act m a).1.wakeAll (l.act m a).2).2) := rfl
  rw [hstep, hact, heq]
  exact runIn_of_tells (List.forall_mem_append.mpr ⟨htells, hmore⟩) fuel _

theorem run_cons {a : Act} {tells : List Act} (htells : ∀ a ∈ tells, a.IsTell)
    (hact : l.act m a = (l', ws)) (h : l'.session.transport.IsCoherent)
    (hws : ∀ w ∈ ws, w.isOuter = true) :
    l.run m (a :: tells) = { l' with session := l'.session.wakeAll ws } :=
  runIn_cons htells hact h hws (16 * tells.length + 15)

theorem deliver_of_none (h : l.socket = none) : l.deliver m = l := by
  rw [deliver, h]

/-- The session is connected over a socket. -/
structure IsOpen (k : SyncSocket) (l : Link) : Prop where
  coherent : l.session.transport.IsCoherent
  connected : l.session.transport.socket = true
  socket : l.socket = some k

/-- **A session reads** all that its socket has for it. -/
theorem deliver_of_flush (h : l.IsOpen k) {ms : List ServerMessage} {r : Relay}
    (hflush : k.flush m.now l.network.relay = (ms, k', r)) :
    ∃ board, board.store = l.session.board.store.readAll (ms.map ServerMessage.encode) ∧
      l.deliver m =
        { l.withRelay r with session := { l.session with board }, socket := some k' } := by
  obtain ⟨board, hboard, hstore⟩ :=
    Session.wakeAll_texts h.coherent h.connected (ms.map ServerMessage.encode)
  have hwakes : ms.map (fun message : ServerMessage => Wake.frame (.text message.encode)) =
      (ms.map ServerMessage.encode).map fun text => .frame (.text text) := by
    rw [List.map_map]
    rfl
  have houter : ∀ w ∈ (ms.map ServerMessage.encode).map fun text => Wake.frame (.text text),
      w.isOuter = true := by
    simp [Wake.isOuter]
  obtain ⟨tells, htells, hwake⟩ :=
    wakeAll_eq (l := { l.withRelay r with socket := some k' }) h.coherent houter
  refine ⟨board, hstore, ?_⟩
  rw [deliver, h.socket]
  dsimp only
  rw [hflush]
  dsimp only
  rw [hwakes, hwake]
  dsimp only
  rw [run, runIn_of_tells htells]
  exact congrArg (fun session => { l.withRelay r with session, socket := some k' }) hboard

/-- **A session that is connected moves a task**: on its board, and on the board that it has joined;
then it reads what has come of it. -/
theorem moveTask_of_isOpen (h : l.IsOpen k) (id : String) (status : Status) :
    ∃ board, board.store = (l.session.board.store.moveLocally id status).2 ∧
      (l.moveTask m id status).2 =
        ({ l.withRelay (l.network.relay.perform (.move id status (some k.client)) k.receiver.board
            m.now) with session := { l.session with board } }).deliver m := by
  obtain ⟨board, hstore, hmove⟩ := Session.moveTask_eq h.coherent h.connected id status
  refine ⟨board, hstore, ?_⟩
  have hact : Link.act m (.transmit (ClientMessage.taskMove id status).encode)
      { l with session := { l.session with board } } =
        ({ l.withRelay (l.network.relay.perform (.move id status (some k.client)) k.receiver.board
          m.now) with session := { l.session with board } }, []) := by
    simp only [act, h.socket, SyncSocket.hear_encode,
      SyncSocket.heed_of_operation? (m := .taskMove id status) rfl]
    rw [← h.socket]
    rfl
  have hstep : (l.moveTask m id status).2 =
      (Link.run m (l.session.moveTask id status true).2.2
        { l with session := (l.session.moveTask id status true).2.1 }).deliver m := rfl
  rw [hstep, hmove, run_cons (by simp) hact h.coherent (by simp)]
  rfl

/-- A session without a socket is shut down without a trace on the network. -/
theorem command_shutdown_of_none (h : l.session.transport.IsCoherent) (hsocket : l.socket = none) :
    (l.command m .shutdown).network = l.network := by
  obtain ⟨tells, htells, hacts⟩ := h.acts_shutdown true
  have hwake : (l.session.wake (.command .shutdown true)).2 =
      (if l.session.transport.socket then [.hangUp] else []) ++ tells := hacts
  have hstay : ∀ d : Link, d.socket = none → d.session.transport.IsCoherent →
      ((d.run m ((if l.session.transport.socket then [.hangUp] else []) ++ tells)).deliver
        m).network = d.network := by
    intro d hd hcoherent
    have hrun : d.run m ((if l.session.transport.socket then [.hangUp] else []) ++ tells) = d := by
      split
      · have hact : d.act m .hangUp = (d, []) := by simp [act, hd]
        exact run_cons htells hact hcoherent (by simp)
      · exact runIn_of_tells htells _ d
    rw [hrun, deliver_of_none hd]
  rw [command]
  dsimp only
  rw [hwake]
  exact hstay { l with session := (l.session.wake (.command .shutdown true)).1 } hsocket (h.step _)

/-- **A session that is shut down** leaves its relay. -/
theorem command_shutdown_of_isOpen (h : l.IsOpen k) :
    (l.command m .shutdown).network =
      { l.network with relay := l.network.relay.leave k.receiver } := by
  obtain ⟨tells, htells, hacts⟩ := h.coherent.acts_shutdown true
  have hwake : (l.session.wake (.command .shutdown true)).2 = .hangUp :: tells := by
    rw [if_pos h.connected] at hacts
    exact hacts
  have hact : Link.act m .hangUp
      { l with session := (l.session.wake (.command .shutdown true)).1 } =
        ({ l.withRelay (l.network.relay.leave k.receiver) with
          session := (l.session.wake (.command .shutdown true)).1, socket := none }, []) := by
    simp only [act, h.socket]
    rfl
  rw [command]
  dsimp only
  rw [hwake, run_cons htells hact (h.coherent.step _) (by simp), deliver_of_none rfl]
  rfl

/-! ### Beginnings -/

section Start

variable {address : Url.Address} {r : Relay}

theorem session_dial (m : Moment) (address : Url.Address) (l : Link) :
    (l.dial m address).1.session = l.session := by
  rw [dial]
  split
  · split <;> rfl
  · rfl

/-- How an attempt to connect ends is told by the other side. -/
theorem isOuter_dial (m : Moment) (address : Url.Address) (l : Link) :
    ∀ w ∈ (l.dial m address).2, w.isOuter = true := by
  rw [dial]
  split
  · split <;> simp [Wake.isOuter]
  · simp [Wake.isOuter]

theorem dial_of_joined (hreached : l.network.isReachedAt address = true)
    (haccept : l.network.relay.accept (String.ofList address.target) m.client m.now =
      .joined k r) :
    l.dial m address = ({ l.withRelay r with socket := some k }, [.handshake .opened]) := by
  simp [dial, hreached, haccept]

/-- An attempt that does not lead to a board leaves the network as it is, and the session is told
no text. -/
theorem dial_of_not_joined
    (h : l.network.isReachedAt address = true → ∀ k r,
      l.network.relay.accept (String.ofList address.target) m.client m.now ≠ .joined k r) :
    ∃ ws, l.dial m address = (l, ws) ∧ ∀ w ∈ ws, ∀ text, w ≠ .frame (.text text) := by
  rw [dial]
  split
  · next hreached =>
    split
    · exact ⟨_, rfl, by simp⟩
    · exact ⟨_, rfl, by simp⟩
    · next k r haccept => exact absurd haccept (h hreached k r)
  · exact ⟨_, rfl, by simp⟩

variable {settings : Settings} {n : Network}

/-- **A session begins**: it tries to connect, and reads what it is sent. -/
theorem start_eq (m : Moment) (n : Network) (hactive : settings.isActive = true)
    (haddress : settings.socketAddress = .ok address) :
    ∃ s : Session, s.transport.IsCoherent ∧
      s.transport.isPossible (.handshake .opened) = true ∧ s.board = .ofStore .empty ∧
      let dialed := Link.dial m address ⟨n, s, none⟩
      start m settings none n =
        .ok (Link.deliver m { dialed.1 with session := s.wakeAll dialed.2 }) := by
  obtain ⟨s, hstart, hpossible, hboard⟩ := Session.start_eq hactive haddress
  obtain ⟨hcoherent, -, -⟩ := Session.isCoherent_start hstart
  refine ⟨s, hcoherent, hpossible, hboard, ?_⟩
  have hrun : Link.run m [.tell (.connectionState .connecting), .dial address] ⟨n, s, none⟩ =
      Link.runIn m 31 [.dial address] ⟨n, s, none⟩ := rfl
  have hsession := session_dial m address ⟨n, s, none⟩
  have houter := isOuter_dial m address ⟨n, s, none⟩
  obtain ⟨d, ws, hdial⟩ : ∃ d ws, Link.dial m address ⟨n, s, none⟩ = (d, ws) := ⟨_, _, rfl⟩
  rw [hdial] at hsession houter
  have hact : Link.act m (.dial address) ⟨n, s, none⟩ = (d, ws) := hdial
  rw [start, hstart]
  show Except.ok _ = _
  rw [hrun, runIn_cons (by simp) hact (hsession ▸ hcoherent) houter, hdial]
  dsimp only at hsession ⊢
  rw [hsession]

/-- A session that joins a board reads it. -/
theorem start_of_joined {who : Receiver} {client : String} {message : ServerMessage}
    (hactive : settings.isActive = true) (haddress : settings.socketAddress = .ok address)
    (hreached : n.isReachedAt address = true)
    (haccept : n.relay.accept (String.ofList address.target) m.client m.now =
      .joined ⟨who, client, [message]⟩ r) (hbox : r.mailbox? who = some .empty) :
    ∃ l, start m settings none n = .ok l ∧ l.IsOpen ⟨who, client, []⟩ ∧
      l.network = { n with relay := r } ∧
      l.session.board.store = BoardStore.empty.read message.encode := by
  obtain ⟨s, hcoherent, hpossible, hboard, hstart⟩ := start_eq m n hactive haddress
  rw [dial_of_joined (l := ⟨n, s, none⟩) hreached haccept] at hstart
  have hopen : IsOpen ⟨who, client, [message]⟩
      ⟨{ n with relay := r }, (s.wake (.handshake .opened)).1,
        some ⟨who, client, [message]⟩⟩ :=
    ⟨hcoherent.step _, hcoherent.socket_step_opened hpossible, rfl⟩
  obtain ⟨board, hstore, hdeliver⟩ :=
    deliver_of_flush hopen (SyncSocket.flush_of_joined client m.now hbox)
  refine ⟨_, hstart.trans (congrArg Except.ok hdeliver),
    ⟨hopen.coherent, hopen.connected, rfl⟩, rfl, ?_⟩
  rw [hstore, s.wake_opened.2, hboard]
  rfl

/-- A session that joins no board leaves the network as it is, and its own board empty. -/
theorem start_of_not_joined (hactive : settings.isActive = true)
    (haddress : settings.socketAddress = .ok address)
    (h : n.isReachedAt address = true → ∀ k r,
      n.relay.accept (String.ofList address.target) m.client m.now ≠ .joined k r) :
    ∃ l, start m settings none n = .ok l ∧ l.network = n ∧ l.socket = none ∧
      l.session.transport.IsCoherent ∧ l.session.board.store = .empty := by
  obtain ⟨s, hcoherent, -, hboard, hstart⟩ := start_eq m n hactive haddress
  obtain ⟨ws, hdial, hws⟩ := dial_of_not_joined (l := ⟨n, s, none⟩) h
  rw [hdial] at hstart
  refine ⟨_, hstart.trans (congrArg Except.ok (deliver_of_none rfl)), rfl, rfl,
    Session.isCoherent_wakeAll hcoherent ws, ?_⟩
  rw [Session.board_wakeAll hws, hboard]
  rfl

end Start

end Link

end LiveBoard
