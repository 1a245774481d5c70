import LiveBoard.Proofs.Session.Agreement
import LiveBoard.Proofs.Session.World

/-!
# Convergence of sessions

Sessions around a relay seed, move and create tasks, lose their connections and join again, while
the relay hears them one by one and changes boards of its own accord. Texts arrive in order, but
nothing is said about when.

As long as nobody falls behind, every client that has a channel agrees with its board: once it has
read what was posted to it, it has the tasks of the board, but for the status of those whose moves
the relay has still to hear. So a client to whom and from whom nothing is on its way has the tasks
of the board, whatever has happened before and in whatever order.

## Main definitions

* `Channel.InStep`: a client agrees with the board that its channel leads to.
* `Client.InStep`, `World.InStep`: so do all clients that have a channel.

## Main results

* `World.InStep.step`, `World.InStep.run`: whatever happens, all clients stay in step.
* `World.InStep.run_reads`: a client can read all that is on its way to it.
* `World.converges`: a connected client whose channel is idle has the tasks of its board.
-/

namespace LiveBoard

open Relay ServerMessage ClientMessage

/-! ### Channels -/

namespace Channel

/-- A client agrees with the board that its channel leads to: there it has lost nothing, and the
texts on their way are of the messages `said` and `told`. Unless it has been sent the whole board
before, it is going to read it. -/
structure InStep (r : Relay) (board : String) (store : BoardStore) (ch : Channel) (ts : List Task)
    (said : List ClientMessage) (told unread : List ServerMessage) : Prop where
  receiver : ch.socket.receiver.board = board
  tasks : r.tasks? board = some ts
  mailbox : r.mailbox? ch.socket.receiver = some ⟨unread, 0⟩
  up : ch.up = said.map ClientMessage.encode
  down : ch.down = told.map ServerMessage.encode
  agrees : Agrees (movedBy said) (told ++ ch.socket.replies ++ unread) store.tasks ts
  whole : store.authoritative = true ∨ ∃ m ∈ told ++ ch.socket.replies ++ unread, m.IsWhole

/-- A client agrees with the board that its channel leads to. -/
def IsInStep (r : Relay) (board : String) (store : BoardStore) (ch : Channel) : Prop :=
  ∃ ts said told unread, ch.InStep r board store ts said told unread

variable {r r' : Relay} {board : String} {store store' : BoardStore} {ch : Channel} {ts : List Task}
  {said : List ClientMessage} {told unread : List ServerMessage}

/-- Where neither the tasks nor the mailbox change, a client stays in step. -/
theorem InStep.of_relay (h : ch.InStep r board store ts said told unread)
    (htasks : r'.tasks? board = r.tasks? board)
    (hbox : r'.mailbox? ch.socket.receiver = r.mailbox? ch.socket.receiver) :
    ch.InStep r' board store ts said told unread :=
  { h with tasks := htasks.trans h.tasks, mailbox := hbox.trans h.mailbox }

/-- An operation on the board. What it posts is added to the mailbox. -/
theorem InStep.operate (h : ch.InStep r board store ts said told unread) {op : Operation}
    {now : String} {up : List String} {said' : List ClientMessage}
    (hlag : ∀ box, (r.perform op board now).mailbox? ch.socket.receiver = some box → box.lost = 0)
    (hup : up = said'.map ClientMessage.encode)
    (hagrees : Agrees (movedBy said')
      (told ++ ch.socket.replies ++ unread ++ ((op.news board now ts).map (·.1)).toList) store.tasks
      (((op.news board now ts).map (·.2)).getD ts)) :
    InStep (r.perform op board now) board store { ch with up }
      (((op.news board now ts).map (·.2)).getD ts) said' told
      (unread ++ ((op.news board now ts).map (·.1)).toList) := by
  obtain rfl := h.receiver
  have hposts : op.posts ch.socket.receiver.board now r =
      ((op.news ch.socket.receiver.board now ts).map (·.1)).toList := by
    rw [Operation.posts, h.tasks, Option.bind_some]
  have hbox := mailbox?_perform ch.socket.receiver op now r
  rw [h.mailbox, hposts, Option.map_some] at hbox
  rw [Mailbox.postAll_eq (hlag _ hbox)] at hbox
  refine ⟨rfl, tasks?_perform h.tasks op now, hbox, hup, h.down, ?_, ?_⟩
  · rw [← List.append_assoc]
    exact hagrees
  · rcases h.whole with hstore | ⟨m, hm, hwhole⟩
    · exact .inl hstore
    · rw [← List.append_assoc]
      exact .inr ⟨m, List.mem_append_left _ hm, hwhole⟩

/-- **Whatever happens at the relay**, a client that does not fall behind stays in step. -/
theorem InStep.act (h : ch.InStep r board store ts said told unread) {a : Action}
    (hfresh : a.IsFresh r) (hleave : a ≠ .leave ch.socket.receiver)
    (hdrain : a ≠ .drain ch.socket.receiver)
    (hlag : ∀ box, (r.act a).mailbox? ch.socket.receiver = some box → box.lost = 0) :
    ch.IsInStep (r.act a) board store := by
  rcases tasks?_act h.tasks a with ⟨htasks, hposts⟩ | ⟨op, now, rfl, -, -⟩
  · have hbox : (r.act a).mailbox? ch.socket.receiver = some ⟨unread, 0⟩ := by
      rcases mailbox?_act h.mailbox hleave with ⟨rfl, -⟩ | ⟨-, hbox⟩
      · exact absurd rfl hdrain
      · rw [hbox, h.receiver, hposts]
        rfl
    exact ⟨ts, said, told, unread, h.of_relay (htasks.trans h.tasks.symm)
      (hbox.trans h.mailbox.symm)⟩
  · have hids : r.idsOf board = ids ts := by rw [idsOf, h.tasks, Option.getD_some]
    have hfresh' : op.IsFresh (ids ts) := hids ▸ hfresh
    exact ⟨_, said, told, _, h.operate hlag h.up (h.agrees.concat hfresh' board now)⟩

/-! ### What a channel carries -/

theorem receiver_send (now : String) (r : Relay) (ch : Channel) :
    (ch.send now r).1.socket.receiver = ch.socket.receiver := by
  rw [send]
  split
  · rfl
  · next hnext => exact SyncSocket.receiver_of_next? hnext

theorem receiver_hear (id now : String) (r : Relay) (ch : Channel) :
    (ch.hear id now r).1.socket.receiver = ch.socket.receiver := by
  rw [hear]
  split
  · rfl
  · exact SyncSocket.receiver_hear _

/-- What is heard on a channel is an operation on its board, if it is anything. -/
theorem snd_hear {id : String} (now : String) (hid : id ∉ r.idsOf ch.socket.receiver.board) :
    (ch.hear id now r).2 = r ∨
      ∃ a : Action, a.IsFresh r ∧ (∀ who, a ≠ .leave who ∧ a ≠ .drain who) ∧
        (ch.hear id now r).2 = r.act a := by
  rw [hear]
  split
  · exact .inl rfl
  · next text up _ =>
    rcases ch.socket.snd_hear text id now r with hr | ⟨m, op, hop, hr⟩
    · exact .inl hr
    · exact .inr ⟨.operate ch.socket.receiver.board op now, isFresh_of_operation? hop hid,
        fun who => ⟨by simp, by simp⟩, hr⟩

/-- **The relay hears** what a client has said. -/
theorem InStep.hear (h : ch.InStep r board store ts said told unread)
    (hnodup : (ids store.tasks).Nodup) {id now : String} (hid : id ∉ r.idsOf board)
    (hlag : ∀ box, (ch.hear id now r).2.mailbox? ch.socket.receiver = some box → box.lost = 0) :
    (ch.hear id now r).1.IsInStep (ch.hear id now r).2 board store := by
  have hids : r.idsOf board = ids ts := by rw [idsOf, h.tasks, Option.getD_some]
  cases said with
  | nil =>
    have hself : ch.hear id now r = (ch, r) := by rw [Channel.hear, h.up]; rfl
    rw [hself]
    exact ⟨ts, [], told, unread, h⟩
  | cons m said =>
    have hhear : ch.hear id now r =
        ({ ch with
          socket := (ch.socket.heed m id now r).1
          up := said.map ClientMessage.encode }, (ch.socket.heed m id now r).2) := by
      rw [Channel.hear, h.up, List.map_cons]
      dsimp only
      rw [SyncSocket.hear_encode]
    rw [hhear] at hlag ⊢
    cases hop : m.operation? ch.socket.client id with
    | some op =>
      rw [SyncSocket.heed_of_operation? hop, h.receiver] at hlag ⊢
      exact ⟨_, said, told, _, h.operate hlag rfl
        (h.agrees.heed hnodup hop (hids ▸ hid) board now)⟩
    | none =>
      obtain ⟨i, rfl, hheed⟩ := SyncSocket.heed_of_none hop now r
      rw [hheed]
      have hpending : told ++ (ch.socket.replies ++ [.heartbeatAck i]) ++ unread =
          told ++ ch.socket.replies ++ .heartbeatAck i :: unread := by simp
      refine ⟨ts, said, told, unread, h.receiver, h.tasks, h.mailbox, rfl, h.down, ?_, ?_⟩
      · rw [hpending]
        exact h.agrees.insert_heartbeatAck
      · rw [hpending]
        rcases h.whole with hstore | ⟨m, hm, hwhole⟩
        · exact .inl hstore
        · refine .inr ⟨m, ?_, hwhole⟩
          rcases List.mem_append.mp hm with hm | hm
          · exact List.mem_append_left _ hm
          · exact List.mem_append_right _ (List.mem_cons_of_mem _ hm)

/-- **The relay sends** the next message, if there is one. -/
theorem InStep.send (h : ch.InStep r board store ts said told unread) (now : String) :
    (ch.send now r).1.IsInStep (ch.send now r).2 board store ∧
      ((ch.send now r).2 = r ∨ ∃ box, (ch.send now r).2 = r.setMailbox ch.socket.receiver box) := by
  cases hreplies : ch.socket.replies with
  | cons m ms =>
    have hagrees := h.agrees
    have hwhole := h.whole
    rw [hreplies] at hagrees hwhole
    have hpending : told ++ [m] ++ ms ++ unread = told ++ m :: ms ++ unread := by simp
    rw [Channel.send, SyncSocket.next?_of_replies hreplies]
    refine ⟨⟨ts, said, told ++ [m], unread, h.receiver, h.tasks, h.mailbox, h.up, ?_, ?_, ?_⟩,
      .inl rfl⟩
    · simp [h.down]
    · rwa [hpending]
    · rwa [hpending]
  | nil =>
    cases unread with
    | nil =>
      rw [Channel.send, SyncSocket.next?_of_empty hreplies h.mailbox]
      exact ⟨⟨ts, said, told, [], h⟩, .inl rfl⟩
    | cons m ms =>
      have hagrees := h.agrees
      have hwhole := h.whole
      have hpending : told ++ [m] ++ ch.socket.replies ++ ms =
          told ++ ch.socket.replies ++ m :: ms := by simp [hreplies]
      rw [← hpending] at hagrees hwhole
      rw [Channel.send, SyncSocket.next?_of_unread hreplies h.mailbox]
      exact ⟨⟨ts, said, told ++ [m], ms, h.receiver, (tasks?_setMailbox _ _ _ _).trans h.tasks,
        SyncSocket.mailbox?_setMailbox h.mailbox, h.up, by simp [h.down], hagrees, hwhole⟩,
        .inr ⟨_, rfl⟩⟩

/-- **A client reads** the next text. -/
theorem InStep.read (h : ch.InStep r board store ts said told unread) {text : String}
    {down : List String} (hdown : ch.down = text :: down) :
    IsInStep r board (store.read text) { ch with down } ∧ ∃ m : ServerMessage, text = m.encode := by
  have htold := h.down.symm.trans hdown
  cases told with
  | nil => cases htold
  | cons m told =>
    obtain ⟨rfl, rfl⟩ := List.cons.inj htold
    refine ⟨⟨ts, said, told, unread, h.receiver, h.tasks, h.mailbox, h.up, rfl, ?_, ?_⟩, m, rfl⟩
    · rw [BoardStore.tasks_read_encode]
      exact h.agrees
    · rcases h.whole with hstore | ⟨n, hn, hwhole⟩
      · exact .inl (BoardStore.authoritative_read _ hstore)
      · rcases List.mem_cons.mp hn with rfl | hn
        · exact .inl (BoardStore.authoritative_read_encode hwhole store)
        · exact .inr ⟨n, hn, hwhole⟩

/-- **A client says something**, perhaps that it has moved tasks. -/
theorem InStep.say (h : ch.InStep r board store ts said told unread) {new : List ClientMessage}
    (hblur : ∀ hidden, movedBy new ⊆ hidden → blur hidden store'.tasks = blur hidden store.tasks)
    (hwhole : store'.authoritative = store.authoritative) :
    IsInStep r board store' { ch with up := ch.up ++ new.map ClientMessage.encode } := by
  have hleft : movedBy said ⊆ movedBy (said ++ new) := by
    rw [movedBy_append]
    exact List.subset_append_left _ _
  have hright : movedBy new ⊆ movedBy (said ++ new) := by
    rw [movedBy_append]
    exact List.subset_append_right _ _
  exact ⟨ts, said ++ new, told, unread, h.receiver, h.tasks, h.mailbox, by simp [h.up], h.down,
    (h.agrees.mono hleft).congr (hblur _ hright), hwhole ▸ h.whole⟩

/-- A client that is seeded has not been sent the board yet, or is not changed. -/
theorem InStep.seed (h : ch.InStep r board store ts said told unread) (tasks : List Task) :
    ch.InStep r board (store.seed tasks).2 ts said told unread := by
  rw [BoardStore.seed]
  split
  · exact h
  · next hstore =>
    have hwhole := h.whole.resolve_left hstore
    exact { h with agrees := h.agrees.of_isWhole hwhole _, whole := .inr hwhole }

/-- A client that has just joined its board is sent it first. -/
theorem isInStep_welcome {token : Option String} {client now : String} {socket : SyncSocket}
    (hr : r.IsNumbered) (hjoin : r.welcome board token client now = .joined socket r')
    (store : BoardStore) : IsInStep r' board store ⟨socket, [], []⟩ := by
  obtain ⟨snapshot, hjoin, hsocket⟩ := welcome_eq_joined hjoin
  obtain ⟨hwho, htasks, -⟩ := join_eq_ok hjoin
  refine ⟨snapshot.tasks, [], [], [], by rw [hwho], (tasks?_join hjoin board).trans htasks,
    mailbox?_join hr hjoin, rfl, rfl, ?_, ?_⟩
  · rw [hsocket]
    exact agrees_snapshot [] store.tasks snapshot.tasks snapshot.timestamp
  · rw [hsocket]
    exact .inr ⟨.boardState snapshot, List.mem_singleton_self _, trivial⟩

end Channel

/-! ### Clients -/

namespace Client

/-- A client has a channel exactly while its transport has a socket, and agrees with the board that
the channel leads to. -/
structure InStep (r : Relay) (board : String) (c : Client) : Prop where
  boardId : c.session.boardId = board
  coherent : c.session.transport.IsCoherent
  plugged : c.channel.isSome = c.session.transport.socket
  nodup : (ids c.session.board.store.tasks).Nodup
  channel : ∀ ch, c.channel = some ch → ch.IsInStep r board c.session.board.store

variable {r : Relay} {board : String} {c : Client} {done : Session × List Act}

theorem InStep.socket (h : c.InStep r board) {ch : Channel} (hch : c.channel = some ch) :
    c.session.transport.socket = true := by
  rw [← h.plugged, hch]
  rfl

theorem after_of_socket (h : done.1.transport.socket = true) :
    c.after done = { c with
      session := done.1
      channel := c.channel.map fun ch => { ch with up := ch.up ++ Session.sent done.2 } } :=
  if_pos h

theorem after_of_silent (h : done.1.transport.socket = true) (hsent : Session.sent done.2 = []) :
    c.after done = { c with session := done.1 } := by
  have hid : (fun ch : Channel => { ch with up := ch.up ++ Session.sent done.2 }) = id := by
    funext ch
    simp [hsent]
  rw [after_of_socket h, hid, Option.map_id]
  rfl

theorem channel_after_of_not_socket (h : ¬done.1.transport.socket = true) :
    (c.after done).channel = none := by
  rw [after, if_neg h]

theorem session_after (done : Session × List Act) (c : Client) :
    (c.after done).session = done.1 := by
  rw [after]
  split <;> rfl

/-- A session that has something to send stays at its socket. -/
theorem receiver_after {ch : Channel} (h : (c.after done).channel = some ch) :
    ∃ k, c.channel = some k ∧ ch.socket.receiver = k.socket.receiver := by
  by_cases hsocket : done.1.transport.socket = true
  · rw [after_of_socket hsocket] at h
    obtain ⟨k, hk, rfl⟩ := Option.map_eq_some_iff.mp h
    exact ⟨k, hk, rfl⟩
  · rw [channel_after_of_not_socket hsocket] at h
    cases h

/-- **A client that has said something** stays in step, if its board has changed in the status of
tasks that it has moved and in nothing else. -/
theorem InStep.after (h : c.InStep r board) {new : List ClientMessage}
    (hsaid : c.session.Says new done)
    (hblur : ∀ hidden, movedBy new ⊆ hidden →
      blur hidden done.1.board.store.tasks = blur hidden c.session.board.store.tasks)
    (hwhole : done.1.board.store.authoritative = c.session.board.store.authoritative) :
    (c.after done).InStep r board := by
  have hids := ids_eq_of_blur_eq (hblur (movedBy new) (List.Subset.refl _))
  refine ⟨?_, ?_, ?_, ?_, ?_⟩
  · rw [session_after, hsaid.boardId, h.boardId]
  · rw [session_after]
    exact hsaid.coherent
  · by_cases hsocket : done.1.transport.socket = true
    · rw [after_of_socket hsocket, Option.isSome_map, h.plugged, (hsaid.sent hsocket).1, hsocket]
    · rw [channel_after_of_not_socket hsocket, session_after, Bool.eq_false_iff.mpr hsocket]
      rfl
  · rw [session_after, hids]
    exact h.nodup
  · intro ch hch
    rw [session_after]
    by_cases hsocket : done.1.transport.socket = true
    · rw [after_of_socket hsocket] at hch
      obtain ⟨k, hk, rfl⟩ := Option.map_eq_some_iff.mp hch
      obtain ⟨ts, said, told, unread, hchannel⟩ := h.channel k hk
      rw [(hsaid.sent hsocket).2]
      exact hchannel.say hblur hwhole
    · rw [channel_after_of_not_socket hsocket] at hch
      cases hch

/-- A client that is seeded stays in step. -/
theorem InStep.seed (h : c.InStep r board) (tasks : List Task) :
    { c with session := (c.session.seed tasks).2 }.InStep r board := by
  refine ⟨h.boardId, h.coherent, h.plugged, ?_, fun ch hch => ?_⟩
  · show (ids (c.session.board.store.seed tasks).2.tasks).Nodup
    rw [BoardStore.seed]
    split
    · exact h.nodup
    · exact nodup_ids_dedupById tasks
  · obtain ⟨ts, said, told, unread, hchannel⟩ := h.channel ch hch
    exact ⟨ts, said, told, unread, hchannel.seed tasks⟩

/-- A client that reads a text stays in step. -/
theorem InStep.read (h : c.InStep r board) {ch : Channel} (hch : c.channel = some ch)
    {text : String} {down : List String} (hdown : ch.down = text :: down) :
    ({ c with channel := some { ch with down } }.after
      (c.session.wake (.frame (.text text)))).InStep r board := by
  obtain ⟨ts, said, told, unread, hchannel⟩ := h.channel ch hch
  obtain ⟨hread, m, rfl⟩ := hchannel.read hdown
  have hsocket := h.socket hch
  obtain ⟨b, acts, hwake, hsent, hstore⟩ := Session.wake_text h.coherent hsocket m.encode
  rw [hwake, after_of_silent hsocket hsent]
  refine ⟨h.boardId, h.coherent, hsocket.symm, ?_, ?_⟩
  · show (ids b.store.tasks).Nodup
    rw [hstore, BoardStore.tasks_read_encode]
    exact m.nodup_ids_amend h.nodup
  · intro k hk
    obtain rfl := Option.some.inj hk
    show Channel.IsInStep r board b.store _
    rw [hstore]
    exact hread

/-- A client that joins its board is in step. -/
theorem InStep.join (h : c.InStep r board) {r' : Relay} {socket : SyncSocket}
    (hpossible : c.session.transport.isPossible (.handshake .opened) = true)
    (hchannel : ∀ store, Channel.IsInStep r' board store ⟨socket, [], []⟩) :
    ({ c with channel := some ⟨socket, [], []⟩ }.after
      (c.session.wake (.handshake .opened))).InStep r' board := by
  have hsocket : (c.session.wake (.handshake .opened)).1.transport.socket = true :=
    h.coherent.socket_step_opened hpossible
  obtain ⟨hsent, hboard⟩ := c.session.wake_opened
  rw [after_of_silent hsocket hsent]
  refine ⟨h.boardId, h.coherent.step _, hsocket.symm, ?_, ?_⟩
  · show (ids (c.session.wake (.handshake .opened)).1.board.store.tasks).Nodup
    rw [hboard]
    exact h.nodup
  · intro k hk
    obtain rfl := Option.some.inj hk
    exact hchannel _

end Client

/-! ### Worlds -/

namespace World

variable {ι : Type} {w : World ι} {boards : ι → String}

/-- Every client that has a channel agrees with the board that the channel leads to, and no two
channels share a mailbox. -/
structure InStep (boards : ι → String) (w : World ι) : Prop where
  numbered : w.relay.IsNumbered
  distinct : ∀ i j ch k, i ≠ j → (w.clients i).channel = some ch → (w.clients j).channel = some k →
    ch.socket.receiver ≠ k.socket.receiver
  clients : ∀ i, (w.clients i).InStep w.relay (boards i)

theorem inStep_start {tokens : List String} {sessions : ι → Session}
    (h : ∀ i, ∃ settings initial acts, Session.start settings initial = .ok (sessions i, acts)) :
    (start tokens sessions).InStep fun i => (sessions i).boardId := by
  refine ⟨isNumbered_ofTokens tokens, fun i j ch k _ hch _ => absurd hch (by simp [start]),
    fun i => ?_⟩
  obtain ⟨settings, initial, acts, hstart⟩ := h i
  obtain ⟨hcoherent, hsocket, hnodup⟩ := Session.isCoherent_start hstart
  exact ⟨rfl, hcoherent, hsocket.symm, hnodup, fun ch hch => by cases hch⟩

/-- A client that keeps its receiver shares it with nobody. -/
theorem InStep.receiver_ne (h : w.InStep boards) {i : ι} {ch : Channel}
    (hch : ∃ k, (w.clients i).channel = some k ∧ ch.socket.receiver = k.socket.receiver) {j : ι}
    {k : Channel} (hne : j ≠ i) (hk : (w.clients j).channel = some k) :
    ch.socket.receiver ≠ k.socket.receiver := by
  obtain ⟨k', hk', hreceiver⟩ := hch
  rw [hreceiver]
  exact h.distinct i j k' k (Ne.symm hne) hk' hk

/-- Something happens at the relay, and a client does not fall behind. -/
theorem InStep.channel_act (h : w.InStep boards) {a : Action} (hfresh : a.IsFresh w.relay) {i : ι}
    {ch : Channel} (hch : (w.clients i).channel = some ch)
    (hstay : a ≠ .leave ch.socket.receiver ∧ a ≠ .drain ch.socket.receiver)
    (hlag : ∀ box, (w.relay.act a).mailbox? ch.socket.receiver = some box → box.lost = 0) :
    ch.IsInStep (w.relay.act a) (boards i) (w.clients i).session.board.store := by
  obtain ⟨ts, said, told, unread, hchannel⟩ := (h.clients i).channel ch hch
  exact hchannel.act hfresh hstay.1 hstay.2 hlag

/-- Something happens at the relay, and nobody falls behind. -/
theorem InStep.act (h : w.InStep boards) {a : Action} (hfresh : a.IsFresh w.relay)
    (hstay : ∀ i, ∀ ch ∈ (w.clients i).channel,
      a ≠ .leave ch.socket.receiver ∧ a ≠ .drain ch.socket.receiver)
    (hlag : World.NoLag { w with relay := w.relay.act a }) :
    World.InStep boards { w with relay := w.relay.act a } where
  numbered := h.numbered.act a
  distinct := h.distinct
  clients i := { h.clients i with
    channel := fun ch hch => h.channel_act hfresh hch (hstay i ch hch) (hlag i ch hch) }

section Put

variable [DecidableEq ι]

/-- One client and the relay have changed. -/
theorem InStep.put (h : w.InStep boards) {i : ι} {c : Client} {relay : Relay}
    (hnumbered : relay.IsNumbered) (hc : c.InStep relay (boards i))
    (hreceiver : ∀ ch, c.channel = some ch → ∀ j k, j ≠ i → (w.clients j).channel = some k →
      ch.socket.receiver ≠ k.socket.receiver)
    (hothers : ∀ j, j ≠ i → ∀ ch, (w.clients j).channel = some ch →
      ch.IsInStep relay (boards j) (w.clients j).session.board.store) :
    (World.put i c { w with relay }).InStep boards := by
  refine ⟨hnumbered, fun j j' ch k hne hch hk => ?_, fun j => ?_⟩
  · by_cases hj : j = i
    · subst hj
      rw [clients_put_self] at hch
      rw [clients_put_of_ne (Ne.symm hne)] at hk
      exact hreceiver ch hch j' k (Ne.symm hne) hk
    · rw [clients_put_of_ne hj] at hch
      by_cases hj' : j' = i
      · subst hj'
        rw [clients_put_self] at hk
        exact (hreceiver k hk j ch hne hch).symm
      · rw [clients_put_of_ne hj'] at hk
        exact h.distinct j j' ch k hne hch hk
  · by_cases hj : j = i
    · subst hj
      rw [clients_put_self]
      exact hc
    · rw [clients_put_of_ne hj]
      exact { h.clients j with channel := hothers j hj }

/-- Only one client has changed. -/
theorem InStep.put_self (h : w.InStep boards) {i : ι} {c : Client}
    (hc : c.InStep w.relay (boards i))
    (hreceiver : ∀ ch, c.channel = some ch →
      ∃ k, (w.clients i).channel = some k ∧ ch.socket.receiver = k.socket.receiver) :
    (w.put i c).InStep boards :=
  h.put h.numbered hc (fun ch hch _ _ hne hk => h.receiver_ne (hreceiver ch hch) hne hk)
    fun j _ => (h.clients j).channel

theorem InStep.join (h : w.InStep boards) {i : ι} {token : Option String} {client now : String}
    {socket : SyncSocket} {relay : Relay}
    (hpossible : (w.clients i).session.transport.isPossible (.handshake .opened) = true)
    (hwelcome : w.relay.welcome (w.clients i).session.boardId token client now =
      .joined socket relay) :
    (World.put i ({ w.clients i with channel := some ⟨socket, [], []⟩ }.after
      ((w.clients i).session.wake (.handshake .opened))) { w with relay }).InStep boards := by
  obtain ⟨snapshot, hjoin, -⟩ := welcome_eq_joined hwelcome
  rw [(h.clients i).boardId] at hwelcome
  refine h.put (h.numbered.join hjoin)
    ((h.clients i).join hpossible (Channel.isInStep_welcome h.numbered hwelcome)) ?_ ?_
  · intro ch hch j k hne hk
    obtain ⟨k', hk', hreceiver⟩ := Client.receiver_after hch
    obtain rfl := Option.some.inj hk'
    obtain ⟨ts, said, told, unread, hchannel⟩ := (h.clients j).channel k hk
    have hlt := h.numbered.number_lt hchannel.mailbox
    rw [hreceiver]
    intro heq
    rw [← heq, (join_eq_ok hjoin).1] at hlt
    exact Nat.lt_irrefl _ hlt
  · intro j hne ch hch
    obtain ⟨ts, said, told, unread, hchannel⟩ := (h.clients j).channel ch hch
    exact ⟨ts, said, told, unread, hchannel.of_relay (tasks?_join hjoin (boards j))
      ((mailbox?_join_of_some hjoin hchannel.mailbox).trans hchannel.mailbox.symm)⟩

theorem InStep.send (h : w.InStep boards) {i : ι} {ch : Channel}
    (hch : (w.clients i).channel = some ch) (now : String) :
    (World.put i { w.clients i with channel := some (ch.send now w.relay).1 }
      { w with relay := (ch.send now w.relay).2 }).InStep boards := by
  obtain ⟨ts, said, told, unread, hchannel⟩ := (h.clients i).channel ch hch
  obtain ⟨hsent, hrelay⟩ := hchannel.send now
  have hkept : ∀ k, some (ch.send now w.relay).1 = some k →
      ∃ k', (w.clients i).channel = some k' ∧ k.socket.receiver = k'.socket.receiver := by
    intro k hk
    obtain rfl := Option.some.inj hk
    exact ⟨ch, hch, ch.receiver_send now w.relay⟩
  refine h.put ?_ ?_ (fun k hk _ _ hne hj => h.receiver_ne (hkept k hk) hne hj) ?_
  · rcases hrelay with hrelay | ⟨box, hrelay⟩ <;> rw [hrelay]
    · exact h.numbered
    · exact h.numbered.setMailbox _ _
  · refine ⟨(h.clients i).boardId, (h.clients i).coherent, ?_, (h.clients i).nodup, ?_⟩
    · exact ((h.clients i).socket hch).symm
    · intro k hk
      obtain rfl := Option.some.inj hk
      exact hsent
  · intro j hne k hk
    obtain ⟨ts, said, told, unread, hother⟩ := (h.clients j).channel k hk
    refine ⟨ts, said, told, unread, hother.of_relay ?_ ?_⟩
    · rcases hrelay with hrelay | ⟨box, hrelay⟩ <;> rw [hrelay]
      exact tasks?_setMailbox _ _ _ _
    · rcases hrelay with hrelay | ⟨box, hrelay⟩ <;> rw [hrelay]
      exact mailbox?_setMailbox_of_ne (h.distinct i j ch k (Ne.symm hne) hch hk) box w.relay

theorem InStep.hear (h : w.InStep boards) {i : ι} {ch : Channel}
    (hch : (w.clients i).channel = some ch) {id now : String}
    (hid : id ∉ w.relay.idsOf ch.socket.receiver.board)
    (hlag : (World.put i { w.clients i with channel := some (ch.hear id now w.relay).1 }
      { w with relay := (ch.hear id now w.relay).2 }).NoLag) :
    (World.put i { w.clients i with channel := some (ch.hear id now w.relay).1 }
      { w with relay := (ch.hear id now w.relay).2 }).InStep boards := by
  obtain ⟨ts, said, told, unread, hchannel⟩ := (h.clients i).channel ch hch
  have hself : ∀ box, (ch.hear id now w.relay).2.mailbox? ch.socket.receiver = some box →
      box.lost = 0 := by
    rw [← ch.receiver_hear id now w.relay]
    refine hlag i (ch.hear id now w.relay).1 ?_
    rw [clients_put_self]
    rfl
  have hother : ∀ j, j ≠ i → ∀ k, (w.clients j).channel = some k → ∀ box,
      (ch.hear id now w.relay).2.mailbox? k.socket.receiver = some box → box.lost = 0 :=
    fun j hne k hk => hlag j k (by rw [clients_put_of_ne hne]; exact hk)
  have hkept : ∀ k, some (ch.hear id now w.relay).1 = some k →
      ∃ k', (w.clients i).channel = some k' ∧ k.socket.receiver = k'.socket.receiver := by
    intro k hk
    obtain rfl := Option.some.inj hk
    exact ⟨ch, hch, ch.receiver_hear id now w.relay⟩
  have hheard := hchannel.hear (h.clients i).nodup (hchannel.receiver ▸ hid) hself
  refine h.put ?_ ⟨(h.clients i).boardId, (h.clients i).coherent, ?_, (h.clients i).nodup, ?_⟩
    (fun k hk _ _ hne hj => h.receiver_ne (hkept k hk) hne hj) fun j hne k hk => ?_
  · rcases Channel.snd_hear now hid with hrelay | ⟨a, -, -, hrelay⟩ <;> rw [hrelay]
    · exact h.numbered
    · exact h.numbered.act a
  · exact ((h.clients i).socket hch).symm
  · intro k hk
    obtain rfl := Option.some.inj hk
    exact hheard
  · have hlost := hother j hne k hk
    rcases Channel.snd_hear now hid with hrelay | ⟨a, hfresh, hstay, hrelay⟩ <;>
      rw [hrelay] at hlost ⊢
    · exact (h.clients j).channel k hk
    · exact h.channel_act hfresh hk (hstay _) hlost

/-- What the relay hears on a channel that a client has left is no different from what else happens
there. -/
theorem InStep.hearLeft (h : w.InStep boards) {i : ι} {ch : Channel} {id now : String}
    (hid : id ∉ w.relay.idsOf ch.socket.receiver.board) {left : List Channel}
    (hlag : (World.put i { w.clients i with left } { w with
      relay := (ch.hear id now w.relay).2 }).NoLag) :
    (World.put i { w.clients i with left } { w with
      relay := (ch.hear id now w.relay).2 }).InStep boards := by
  have hchannel : ∀ j, ((World.put i { w.clients i with left } { w with
      relay := (ch.hear id now w.relay).2 }).clients j).channel = (w.clients j).channel := by
    intro j
    by_cases hj : j = i
    · subst hj
      rw [clients_put_self]
    · rw [clients_put_of_ne hj]
  have hlag' : World.NoLag { w with relay := (ch.hear id now w.relay).2 } :=
    fun j k hk => hlag j k ((hchannel j).trans hk)
  have hworld : World.InStep boards { w with relay := (ch.hear id now w.relay).2 } := by
    rcases Channel.snd_hear now hid with hrelay | ⟨a, hfresh, hstay, hrelay⟩ <;>
      rw [hrelay] at hlag' ⊢
    · exact h
    · exact h.act hfresh (fun _ _ _ => hstay _) hlag'
  exact hworld.put_self (i := i) { hworld.clients i with } fun k hk => ⟨k, hk, rfl⟩

/-- **Whatever happens, all clients stay in step.** -/
theorem InStep.step (h : w.InStep boards) {e : Event ι} (he : w.AdmitsOne e)
    (hlag : (w.step e).NoLag) : (w.step e).InStep boards := by
  cases e with
  | seed i tasks => exact h.put_self ((h.clients i).seed tasks) fun ch hch => ⟨ch, hch, rfl⟩
  | move i id status taken =>
    obtain ⟨hsaid, hstore⟩ := Session.says_moveTask (h.clients i).coherent id status taken
    refine h.put_self ((h.clients i).after hsaid (fun hidden hsub => ?_) ?_)
      fun ch hch => Client.receiver_after hch
    · rw [hstore]
      exact blur_moveLocally (hsub List.mem_cons_self) status _
    · rw [hstore, authoritative_moveLocally]
  | create i title status assignee taken =>
    obtain ⟨hsaid, hboard⟩ :=
      Session.says_createTask (h.clients i).coherent title status assignee taken
    exact h.put_self ((h.clients i).after hsaid (fun _ _ => by rw [hboard]) (by rw [hboard]))
      fun ch hch => Client.receiver_after hch
  | wake i wake =>
    obtain ⟨said, hsaid, hboard⟩ := Session.exists_says_wake (h.clients i).coherent he
    exact h.put_self ((h.clients i).after hsaid (fun _ _ => by rw [hboard]) (by rw [hboard]))
      fun ch hch => Client.receiver_after hch
  | join i token client now =>
    simp only [World.step]
    split
    · next hpossible =>
      split
      · next socket relay hwelcome => exact h.join hpossible hwelcome
      · exact h
    · exact h
  | send i now =>
    simp only [World.step]
    split
    · exact h
    · next ch hch => exact h.send hch now
  | read i =>
    simp only [World.step]
    split
    · exact h
    · next ch hch =>
      split
      · exact h
      · next text down hdown =>
        refine h.put_self ((h.clients i).read hch hdown) fun k hk => ?_
        obtain ⟨k', hk', hreceiver⟩ := Client.receiver_after hk
        obtain rfl := Option.some.inj hk'
        exact ⟨ch, hch, hreceiver⟩
  | hear i id now =>
    cases hch : (w.clients i).channel with
    | none =>
      simp only [World.step, hch]
      exact h
    | some ch =>
      simp only [World.step, hch] at hlag ⊢
      exact h.hear hch (he ch hch) hlag
  | hearLeft i n id now =>
    cases hch : (w.clients i).left[n]? with
    | none =>
      simp only [World.step, hch]
      exact h
    | some ch =>
      simp only [World.step, hch] at hlag ⊢
      exact h.hearLeft (he ch hch) hlag
  | act a =>
    cases a with
    | operate board op now => exact h.act he (fun _ _ _ => by simp) hlag
    | join board token now => exact h.act trivial (fun _ _ _ => by simp) hlag
    | leave who =>
      exact h.act trivial (fun j ch hch => ⟨by simpa using he j ch hch, by simp⟩) hlag
    | drain who =>
      exact h.act trivial (fun j ch hch => ⟨by simp, by simpa using he j ch hch⟩) hlag

theorem InStep.run (h : w.InStep boards) {events : List (Event ι)} (hevents : w.Admits events) :
    (w.run events).InStep boards := by
  induction events generalizing w with
  | nil => exact h
  | cons e events ih =>
    obtain ⟨he, hlag, hevents⟩ := hevents
    exact ih (h.step he hlag) hevents

/-! ### Reading -/

section Reads

variable {i : ι} {ch : Channel}

/-- A client reads a text. What becomes of its board is all that depends on the text. -/
theorem InStep.step_read (h : w.InStep boards) (hch : (w.clients i).channel = some ch)
    {text : String} {down : List String} (hdown : ch.down = text :: down) :
    ∃ board, w.step (.read i) = w.put i { w.clients i with
      session := { (w.clients i).session with board }
      channel := some { ch with down } } := by
  have hsocket := (h.clients i).socket hch
  obtain ⟨board, acts, hwake, hsent, -⟩ := Session.wake_text (h.clients i).coherent hsocket text
  refine ⟨board, ?_⟩
  simp only [World.step, hch, hdown]
  rw [hwake, Client.after_of_silent hsocket hsent]

/-- **A client can read** all that is on its way to it. Nothing changes but its board. -/
theorem InStep.run_reads (h : w.InStep boards) (hlag : w.NoLag)
    (hch : (w.clients i).channel = some ch) {n : Nat} (hn : ch.down.length = n) :
    let w' := w.run (List.replicate n (.read i))
    w.Admits (List.replicate n (.read i)) ∧ w'.relay = w.relay ∧
      (∀ j, j ≠ i → w'.clients j = w.clients j) ∧
      (w'.clients i).channel = some { ch with down := [] } ∧
      (w'.clients i).session.state = (w.clients i).session.state := by
  induction n generalizing w ch with
  | zero =>
    have hdown : ch.down = [] := List.eq_nil_of_length_eq_zero hn
    exact ⟨trivial, rfl, fun _ _ => rfl, hdown ▸ hch, rfl⟩
  | succ n ih =>
    obtain ⟨text, down, hdown⟩ := List.exists_cons_of_length_eq_add_one hn
    obtain ⟨board, hstep⟩ := h.step_read hch hdown
    have hlag' : (w.step (.read i)).NoLag := by
      rw [hstep]
      exact hlag.put fun k hk => ⟨ch, hch, by rw [← Option.some.inj hk]⟩
    have hself : (w.step (.read i)).clients i = { w.clients i with
        session := { (w.clients i).session with board }, channel := some { ch with down } } := by
      rw [hstep, clients_put_self]
    have hlength : down.length = n := by simpa [hdown] using hn
    obtain ⟨hreads, hrelay, hothers, hchannel, hstate⟩ :=
      ih (h.step (e := .read i) trivial hlag') hlag'
        (show _ = some { ch with down } by rw [hself]) hlength
    refine ⟨⟨trivial, hlag', hreads⟩, ?_, fun j hj => ?_, hchannel, ?_⟩
    · exact hrelay.trans (by rw [hstep]; rfl)
    · exact (hothers j hj).trans (by rw [hstep, clients_put_of_ne hj])
    · exact hstate.trans (by rw [hself]; rfl)

end Reads

/-! ### Convergence -/

/-- **Convergence of sessions.** Any number of sessions seed, move and create tasks, lose their
connections and join again, while their relay hears them, changes boards and sends what it has
posted, in any order and as late as it likes. If new tasks get fresh ids and nobody falls behind,
every session that is connected has a channel to its board, and as soon as nothing is on its way
there in either direction, the session has the first task of every id that the board has, with all
its fields and in the same order. Where no two tasks of the board have the same id, these are the
tasks of the board. -/
theorem converges {tokens : List String} {sessions : ι → Session}
    (hsessions : ∀ i, ∃ settings initial acts,
      Session.start settings initial = .ok (sessions i, acts))
    {events : List (Event ι)} (hevents : (start tokens sessions).Admits events)
    (hw : (start tokens sessions).run events = w) {i : ι}
    (hconnected : (w.clients i).session.state = .connected) :
    ∃ ch ts, (w.clients i).channel = some ch ∧ w.relay.tasks? (sessions i).boardId = some ts ∧
      (ch.IsIdle w.relay → (w.clients i).session.board.store.tasks = dedupById ts ∧
        ((ids ts).Nodup → (w.clients i).session.board.store.tasks = ts)) := by
  have h := (inStep_start hsessions).run hevents
  rw [hw] at h
  have hsocket : (w.clients i).session.transport.socket = true :=
    (h.clients i).coherent.published_eq_connected_iff.mp hconnected
  obtain ⟨ch, hch⟩ := Option.isSome_iff_exists.mp ((h.clients i).plugged.trans hsocket)
  obtain ⟨ts, said, told, unread, hchannel⟩ := (h.clients i).channel ch hch
  refine ⟨ch, ts, hch, hchannel.tasks, fun hidle => ?_⟩
  obtain ⟨hup, hdown, hreplies, hbox⟩ := hidle
  obtain rfl : said = [] := List.map_eq_nil_iff.mp (hchannel.up.symm.trans hup)
  obtain rfl : told = [] := List.map_eq_nil_iff.mp (hchannel.down.symm.trans hdown)
  obtain rfl : unread = [] := hbox _ hchannel.mailbox
  have hagrees := hchannel.agrees
  rw [hreplies] at hagrees
  exact ⟨hagrees.eq, fun hnodup => hagrees.eq.trans (dedupById_eq_self hnodup)⟩

end Put

/-- Two clients join a board. One of them moves a task and the other one makes one, and while this is
on its way to them, the second loses its connection. What it has sent is heard after it has joined
again. When both have read everything they have the board. -/
theorem converges_of_rejoin :
    let settings : Settings :=
      { Settings.standard with apiUrl := "http://[::1]", boardId := "b", token := some "k" }
    let address : Url.Address :=
      { scheme := "ws", userinfo := none, host := .ipv6 [0, 0, 0, 0, 0, 0, 0, 1], port := none
        path := ["ws".toList, "board".toList, "b".toList, "sync".toList]
        query := some "token=k".toList, fragment := none }
    let transport : Transport :=
      { machine := { Connection.Machine.start .standard true with state := .connecting, epoch := 1 }
        endpoint := some address, published := .connecting, heartbeatInterval := 30000
        socket := false, pending := some 1, heartbeat := false, timer := none, running := true }
    let session : Session := ⟨"b", .ofStore .empty, transport⟩
    let plan := newTask "b" "Plan" .inbox none none "1" "t0"
    let build := newTask "b" "Build" .inbox none none "2" "t0"
    let happens : List (Event (Fin 2)) :=
      [.act (.operate "b" (.put [plan, build]) "t1"), .seed 0 [plan],
        .join 0 (some "k") "ann" "t2", .join 1 (some "k") "bob" "t2",
        .move 0 "1" .done true, .hear 0 "3" "t3", .create 1 "Ship" .inbox none true,
        .hear 1 "3" "t4", .send 1 "t5", .send 1 "t5", .move 1 "2" .inProgress true,
        .wake 1 (.frame .failed), .wake 1 .reconnectDue, .join 1 (some "k") "bob" "t6",
        .hearLeft 1 0 "4" "t7", .move 1 "1" .review true, .hear 1 "4" "t8",
        .send 0 "t9", .send 0 "t9", .send 0 "t9", .send 0 "t9", .send 0 "t9",
        .send 1 "t9", .send 1 "t9", .send 1 "t9"]
    let events := happens ++ (List.replicate 5 (.read 0) ++ List.replicate 3 (.read 1))
    let w := (start [] fun _ => session).run events
    let board : List Task :=
      [newTask "b" "Ship" .inbox none (some "bob") "3" "t4",
        { plan with status := .review, updatedAt := "t8" },
        { build with status := .inProgress, updatedAt := "t7" }]
    (∃ acts, Session.start settings none = .ok (session, acts)) ∧
      (start [] fun _ => session).Admits events ∧ w.relay.tasks? "b" = some board ∧
      ∀ i, (w.clients i).session.state = .connected ∧
        (∃ ch, (w.clients i).channel = some ch ∧ ch.IsIdle w.relay) ∧
        (w.clients i).session.board.store.tasks = board := by
  intro settings address transport session plan build happens events w board
  have hstart : ∃ acts, Session.start settings none = .ok (session, acts) := by
    have hsession : (Session.start settings none).toOption =
        some (session, [.tell (.connectionState .connecting), .dial address]) := by decide +kernel
    cases hdone : Session.start settings none with
    | error e =>
      rw [hdone] at hsession
      cases hsession
    | ok done =>
      rw [hdone] at hsession
      exact ⟨_, congrArg Except.ok (Option.some.inj hsession)⟩
  -- the run is computed up to the reads, and what is read is not looked into
  obtain ⟨before, hbefore⟩ : ∃ before, (start [] fun _ : Fin 2 => session).run happens = before :=
    ⟨_, rfl⟩
  obtain ⟨hhappens, hlag, hconnected, htasks, hopen, hlength₀, hlength₁, hidle⟩ :
      (start [] fun _ => session).Admits happens ∧ before.NoLag ∧
      (∀ i, (before.clients i).session.state = .connected) ∧
      before.relay.tasks? "b" = some board ∧ (∀ i, (before.clients i).channel.isSome = true) ∧
      (∀ ch ∈ (before.clients 0).channel, ch.down.length = 5) ∧
      (∀ ch ∈ (before.clients 1).channel, ch.down.length = 3) ∧
      ∀ i, ∀ ch ∈ (before.clients i).channel, Channel.IsIdle before.relay { ch with down := [] } := by
    rw [← hbefore]
    decide +kernel
  have hstep : before.InStep fun _ => "b" :=
    hbefore ▸ (inStep_start fun _ => ⟨settings, none, hstart⟩).run hhappens
  obtain ⟨ch₀, hch₀⟩ := Option.isSome_iff_exists.mp (hopen 0)
  obtain ⟨ch₁, hch₁⟩ := Option.isSome_iff_exists.mp (hopen 1)
  obtain ⟨hreads₀, hrelay₀, hothers₀, hchannel₀, hstate₀⟩ :=
    hstep.run_reads hlag hch₀ (hlength₀ ch₀ hch₀)
  obtain ⟨hreads₁, hrelay₁, hothers₁, hchannel₁, hstate₁⟩ :=
    (hstep.run hreads₀).run_reads (hlag.run hreads₀) ((hothers₀ 1 (by decide)).symm ▸ hch₁)
      (hlength₁ ch₁ hch₁)
  have hevents : (start [] fun _ => session).Admits events :=
    admits_append.mpr ⟨hhappens, hbefore ▸ admits_append.mpr ⟨hreads₀, hreads₁⟩⟩
  have hrun : (start [] fun _ => session).run events = w := rfl
  have hw : w = (before.run (List.replicate 5 (.read 0))).run (List.replicate 3 (.read 1)) := by
    rw [← hrun, run_append, hbefore, run_append]
  clear_value w
  rw [← hw] at hrelay₁ hothers₁ hchannel₁ hstate₁
  have hrelay : w.relay = before.relay := hrelay₁.trans hrelay₀
  have hread : ∀ i, (w.clients i).session.state = .connected ∧
      ∃ ch, (w.clients i).channel = some ch ∧ ch.IsIdle w.relay := by
    rw [Fin.forall_fin_two, hothers₁ 0 (by decide), hrelay]
    refine ⟨⟨hstate₀.trans (hconnected 0), _, hchannel₀, hidle 0 ch₀ hch₀⟩, ?_, _, hchannel₁,
      hidle 1 ch₁ hch₁⟩
    rw [hstate₁, hothers₀ 1 (by decide)]
    exact hconnected 1
  refine ⟨hstart, hevents, hrelay ▸ htasks, fun i => ?_⟩
  obtain ⟨hstate, ch, hch, hempty⟩ := hread i
  obtain ⟨ch', ts, hch', hts, hall⟩ :=
    converges (fun _ => ⟨settings, none, hstart⟩) hevents hrun hstate
  obtain rfl : ch = ch' := Option.some.inj (hch.symm.trans hch')
  rw [hrelay, htasks] at hts
  rw [← Option.some.inj hts] at hall
  exact ⟨hstate, ⟨ch, hch, hempty⟩, (hall hempty).2 (by decide +kernel)⟩

end World

end LiveBoard
