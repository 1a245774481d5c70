import LiveBoard.Connection.Transport
import LiveBoard.Proofs.Relay.History
import LiveBoard.Proofs.Relay.Socket

/-!
# What a client is sent

A visit is the connection of one client from the moment that its socket is accepted. Three things go
on at once: the client says something, the relay sends the next message, and others do what they
like to the relay. The replies of the socket and its mailbox are two queues that are sent from, and
what the client says fills one of them or, by way of the board, the other.

Whatever the order of all this is, the client is sent the board as it was when it joined, and then
an interleaving of the replies with what was posted on the board since, both complete and in order.

## Main definitions

* `Interleaves`: a list that is made of two others, each in its order.
* `Relay.Occurrence`: what can happen to a relay besides what one of its sockets does.
* `Visit`: the connection of a client, with `Visit.turn` and `Visit.run`.
* `Visit.Admits`: the mailbox of the visit is its own, and nothing is lost from it.
* `Visit.InOrder`: what was sent, and what is left to send.

## Main results

* `Visit.InOrder.turn`, `Visit.InOrder.run`: a visit stays in order.
* `Visit.sends_in_order`: what the client is sent.
-/

namespace LiveBoard

/-! ### Interleavings -/

/-- The third list is made of the first two, each of them in its order. -/
inductive Interleaves {α : Type} : List α → List α → List α → Prop
  | nil : Interleaves [] [] []
  | left {x : α} {xs ys zs : List α} : Interleaves xs ys zs → Interleaves (x :: xs) ys (x :: zs)
  | right {y : α} {xs ys zs : List α} : Interleaves xs ys zs → Interleaves xs (y :: ys) (y :: zs)

namespace Interleaves

variable {α : Type} {xs ys zs : List α}

theorem concat_left (h : Interleaves xs ys zs) (x : α) :
    Interleaves (xs ++ [x]) ys (zs ++ [x]) := by
  induction h with
  | nil => exact .left .nil
  | left _ ih => exact .left ih
  | right _ ih => exact .right ih

theorem concat_right (h : Interleaves xs ys zs) (y : α) :
    Interleaves xs (ys ++ [y]) (zs ++ [y]) := by
  induction h with
  | nil => exact .right .nil
  | left _ ih => exact .left ih
  | right _ ih => exact .right ih

end Interleaves

/-! ### What others do -/

namespace Relay

/-- What can happen to a relay besides what one of its sockets does. -/
inductive Occurrence
  | act (a : Action)
  /-- Any message is passed on to those who have joined a board. -/
  | pass (board : String) (m : ServerMessage)
  /-- Another socket sends its next message. -/
  | send (s : SyncSocket) (now : String)

/-- A relay after an occurrence. -/
def occur (o : Occurrence) (r : Relay) : Relay :=
  match o with
  | .act a => r.act a
  | .pass board m => (r.broadcast board m).2
  | .send s now =>
    match s.next? now r with
    | some (_, _, r) => r
    | none => r

/-- A relay after several occurrences, the first one first. -/
def occurAll (os : List Occurrence) (r : Relay) : Relay := os.foldl (fun r o => r.occur o) r

/-- The message that an occurrence posts to the receivers of a board, if it posts any. -/
def postsBy (board : String) (o : Occurrence) (r : Relay) : List ServerMessage :=
  match o with
  | .act a => r.postsOf board a
  | .pass b m => if b = board ∧ (r.room? b).isSome then [m] else []
  | .send _ _ => []

/-- The occurrence leaves the mailbox of a receiver to its socket. -/
def Occurrence.Spares (who : Receiver) : Occurrence → Prop
  | .act (.leave w) => w ≠ who
  | .act (.drain w) => w ≠ who
  | .send s _ => s.receiver ≠ who
  | _ => True

instance (who : Receiver) (o : Occurrence) : Decidable (o.Spares who) :=
  match o with
  | .act (.leave w) => inferInstanceAs (Decidable (w ≠ who))
  | .act (.drain w) => inferInstanceAs (Decidable (w ≠ who))
  | .send s _ => inferInstanceAs (Decidable (s.receiver ≠ who))
  | .act (.operate _ _ _) => .isTrue trivial
  | .act (.join _ _ _) => .isTrue trivial
  | .pass _ _ => .isTrue trivial

variable {r : Relay}

/-- A socket that sends takes nothing but messages from its own mailbox. -/
theorem next?_relay {s s' : SyncSocket} {now : String} {m : ServerMessage} {r' : Relay}
    (h : s.next? now r = some (m, s', r')) :
    r' = r ∨ ∃ box, r' = r.setMailbox s.receiver box := by
  rw [SyncSocket.next?] at h
  split at h
  · cases h
    exact .inl rfl
  · split at h
    · cases h
    · cases h
      exact .inr ⟨_, rfl⟩
    · obtain ⟨snapshot, -, h⟩ := Option.map_eq_some_iff.mp h
      cases h
      exact .inr ⟨_, rfl⟩

theorem IsNumbered.occur (h : r.IsNumbered) (o : Occurrence) : (r.occur o).IsNumbered := by
  cases o with
  | act a => exact h.act a
  | pass board m =>
    rw [Relay.occur, broadcast]
    split
    · exact h
    · exact h.changeRoom fun room => by simp [Room.numbers, Room.post, Function.comp_def]
  | send s now =>
    rw [Relay.occur]
    split
    · next hnext =>
      obtain rfl | ⟨box, rfl⟩ := next?_relay hnext
      · exact h
      · exact h.setMailbox s.receiver box
    · exact h

theorem IsNumbered.occurAll (h : r.IsNumbered) (os : List Occurrence) :
    (r.occurAll os).IsNumbered := by
  induction os generalizing r with
  | nil => exact h
  | cons o os ih => exact ih (h.occur o)

/-- A message that is passed on goes to the receivers of its board. -/
theorem mailbox?_broadcast (who : Receiver) (board : String) (m : ServerMessage) (r : Relay) :
    (r.broadcast board m).2.mailbox? who =
      if who.board = board then (r.mailbox? who).map (·.post m) else r.mailbox? who := by
  rw [broadcast]
  split
  · next hroom =>
    split
    · next hboard =>
      subst hboard
      rw [mailbox?_eq_bind, hroom]
      rfl
    · rfl
  · rw [mailbox?_eq_bind, room?_changeRoom, mailbox?_eq_bind]
    split
    · cases r.room? who.board with
      | none => rfl
      | some room => exact room.mailbox?_post who.number m
    · rfl

/-- **What others do** is posted to a mailbox that is left to its socket. -/
theorem mailbox?_occur {who : Receiver} {box : Mailbox} (h : r.mailbox? who = some box)
    {o : Occurrence} (hspares : o.Spares who) :
    (r.occur o).mailbox? who = some (box.postAll (r.postsBy who.board o)) := by
  cases o with
  | act a =>
    have hstay : a ≠ .leave who := by
      rintro rfl
      exact hspares rfl
    obtain ⟨rfl, -⟩ | ⟨-, hbox⟩ := mailbox?_act h hstay
    · exact absurd rfl hspares
    · exact hbox
  | pass board m =>
    obtain ⟨room, hroom, -⟩ := Option.bind_eq_some_iff.mp h
    rw [occur, mailbox?_broadcast, postsBy, h]
    by_cases hboard : who.board = board
    · subst hboard
      simp [hroom]
    · simp [hboard, Ne.symm hboard]
  | send s now =>
    rw [occur]
    split
    · next hnext =>
      obtain rfl | ⟨box', rfl⟩ := next?_relay hnext
      · exact h
      · exact (mailbox?_setMailbox_of_ne hspares box' r).trans h
    · exact h

end Relay

/-! ### Joining -/

namespace Relay

variable {r₀ r : Relay}

/-- Who joins a board is told the board as it is. -/
theorem snapshot?_of_join {board now : String} {token : Option String} {snapshot : Snapshot}
    {who : Receiver} (h : r₀.join board token now = .ok (snapshot, who, r)) :
    r₀.snapshot? who.board now = some snapshot := by
  rw [join] at h
  split at h
  · split at h
    · cases h
    · next hroom =>
      cases h
      rw [snapshot?, hroom]
      rfl
  · cases h

/-- A socket that is accepted is one for the board that its target names. -/
theorem accept_eq_joined {target client now : String} {socket : SyncSocket}
    (h : r₀.accept target client now = .joined socket r) :
    ∃ board token, r₀.welcome board token client now = .joined socket r := by
  simp only [accept] at h
  split at h
  · split at h
    · exact ⟨_, _, h⟩
    · cases h
  · cases h

end Relay

/-! ### Frames of a client -/

namespace Frame

/-- The message that a frame carries, if it carries one. -/
def message? : Frame → Option ClientMessage
  | .text s => (ClientMessage.decode s).toOption
  | _ => none

/-- The frame ends the connection, or says that it has ended. -/
def Ends : Frame → Prop
  | .close _ => True
  | .failed => True
  | .ended => True
  | _ => False

/-- The frame is a text that is no message, or is not a text at all. -/
def SaysNothing (f : Frame) : Prop := f.message? = none ∧ ¬f.Ends

instance (f : Frame) : Decidable f.Ends :=
  match f with
  | .close _ => .isTrue trivial
  | .failed => .isTrue trivial
  | .ended => .isTrue trivial
  | .text _ => .isFalse id
  | .other => .isFalse id

end Frame

/-- The reply to a message of a client, if there is one. -/
def ClientMessage.reply? : ClientMessage → Option ServerMessage
  | .heartbeat id => some (.heartbeatAck id)
  | _ => none

/-! ### Visits -/

/-- The connection of a client, from the relay's end. -/
structure Visit where
  relay : Relay
  socket : SyncSocket
  isOpen : Bool
  /-- The texts that the client was sent, the first one first. -/
  sent : List String

namespace Visit

/-- What happens next. -/
inductive Turn
  | occur (o : Relay.Occurrence)
  /-- A frame comes from the client. A task that it makes gets an id. -/
  | hear (f : Frame) (id now : String)
  /-- The client is sent the next message. -/
  | send (now : String)

/-- The visit of a socket that was just accepted. -/
def opened (socket : SyncSocket) (relay : Relay) : Visit := ⟨relay, socket, true, []⟩

/-- A frame comes from the client. -/
def hear (f : Frame) (id now : String) (v : Visit) : Visit :=
  match f with
  | .text s =>
    let (socket, relay) := v.socket.hear s id now v.relay
    { v with socket, relay }
  | .other => v
  | _ => { v with relay := v.relay.leave v.socket.receiver, isOpen := false }

/-- The client is sent the next message. -/
def send (now : String) (v : Visit) : Visit :=
  match v.socket.next? now v.relay with
  | none => v
  | some (m, socket, relay) => { v with socket, relay, sent := v.sent ++ [m.encode] }

/-- The visit after a turn. The socket of a visit that has ended neither hears nor sends. -/
def turn (t : Turn) (v : Visit) : Visit :=
  match t with
  | .occur o => { v with relay := v.relay.occur o }
  | .hear f id now => if v.isOpen then v.hear f id now else v
  | .send now => if v.isOpen then v.send now else v

/-- The visit after several turns, the first one first. -/
def run (turns : List Turn) (v : Visit) : Visit := turns.foldl (fun v t => v.turn t) v

/-- The reply that a turn leads to, if it leads to one. -/
def Turn.reply? : Turn → Option ServerMessage
  | .hear f _ _ => f.message?.bind ClientMessage.reply?
  | _ => none

/-- The turn ends the visit. -/
def Turn.Ends : Turn → Prop
  | .hear f _ _ => f.Ends
  | _ => False

/-- The message that a turn posts to the receivers of the board, if it posts any. -/
def postsOf (t : Turn) (v : Visit) : List ServerMessage :=
  let board := v.socket.receiver.board
  match t with
  | .occur o => v.relay.postsBy board o
  | .hear f id now =>
    if v.isOpen then
      match f.message?.bind fun m => m.operation? v.socket.client id with
      | some op => op.posts board now v.relay
      | none => []
    else []
  | .send _ => []

/-- The messages that are posted to the receivers of the board in a run. -/
def posts : List Turn → Visit → List ServerMessage
  | [], _ => []
  | t :: turns, v => v.postsOf t ++ posts turns (v.turn t)

/-- The number of messages that are left to send. -/
def pending (v : Visit) : Nat :=
  v.socket.replies.length +
    ((v.relay.mailbox? v.socket.receiver).map (·.unread.length)).getD 0

/-- The receiver of the visit lags when messages are lost from its mailbox. -/
def NoLag (v : Visit) : Prop :=
  ∀ box ∈ v.relay.mailbox? v.socket.receiver, box.lost = 0

/-- A turn is admitted when it leaves the mailbox of the visit to its socket. -/
def AdmitsOne (v : Visit) : Turn → Prop
  | .occur o => o.Spares v.socket.receiver
  | _ => True

/-- All turns of a run are admitted where they happen, and the receiver does not lag. -/
def Admits (v : Visit) : List Turn → Prop
  | [] => True
  | t :: turns => v.AdmitsOne t ∧ (v.turn t).NoLag ∧ (v.turn t).Admits turns

section Decidable

variable (v : Visit)

instance : Decidable v.NoLag :=
  inferInstanceAs (Decidable (∀ box ∈ v.relay.mailbox? v.socket.receiver, box.lost = 0))

instance (t : Turn) : Decidable (v.AdmitsOne t) :=
  match t with
  | .occur o => inferInstanceAs (Decidable (o.Spares v.socket.receiver))
  | .hear _ _ _ => .isTrue trivial
  | .send _ => .isTrue trivial

instance decidableAdmits : ∀ (turns : List Turn) (v : Visit), Decidable (v.Admits turns)
  | [], _ => .isTrue trivial
  | t :: turns, v =>
    have := decidableAdmits turns (v.turn t)
    inferInstanceAs (Decidable (_ ∧ _ ∧ _))

instance (t : Turn) : Decidable t.Ends :=
  match t with
  | .hear f _ _ => inferInstanceAs (Decidable f.Ends)
  | .occur _ => .isFalse id
  | .send _ => .isFalse id

end Decidable

variable {v : Visit}

theorem run_cons (t : Turn) (turns : List Turn) (v : Visit) :
    v.run (t :: turns) = (v.turn t).run turns := rfl

/-! ### Open visits -/

theorem isOpen_send (now : String) (v : Visit) : (v.send now).isOpen = v.isOpen := by
  rw [send]
  split <;> rfl

theorem isOpen_hear (f : Frame) (id now : String) (v : Visit) :
    (v.hear f id now).isOpen = true ↔ v.isOpen = true ∧ ¬f.Ends := by
  cases f with
  | text _ | other => exact ⟨fun h => ⟨h, fun hends => hends⟩, fun h => h.1⟩
  | close _ | failed | ended => exact ⟨nofun, fun h => (h.2 trivial).elim⟩

theorem isOpen_turn (t : Turn) (v : Visit) :
    (v.turn t).isOpen = true ↔ v.isOpen = true ∧ ¬t.Ends := by
  cases t with
  | occur o => exact ⟨fun h => ⟨h, fun hends => hends⟩, fun h => h.1⟩
  | hear f id now =>
    rw [turn]
    split
    · exact isOpen_hear f id now v
    · next hclosed => exact ⟨fun h => absurd h hclosed, fun h => absurd h.1 hclosed⟩
  | send now =>
    rw [turn]
    split
    · rw [isOpen_send]
      exact ⟨fun h => ⟨h, fun hends => hends⟩, fun h => h.1⟩
    · exact ⟨fun h => ⟨h, fun hends => hends⟩, fun h => h.1⟩

/-- Nothing but a frame that ends a visit ends it. -/
theorem isOpen_run (turns : List Turn) (v : Visit) :
    (v.run turns).isOpen = true ↔ v.isOpen = true ∧ ∀ t ∈ turns, ¬t.Ends := by
  induction turns generalizing v with
  | nil => simp [run]
  | cons t turns ih =>
    rw [run_cons, ih, isOpen_turn, List.forall_mem_cons, and_assoc]

/-- Who has left is sent nothing more. -/
theorem sent_turn_of_closed (h : v.isOpen = false) (t : Turn) : (v.turn t).sent = v.sent := by
  cases t <;> simp [turn, h]

/-- A frame that says nothing changes nothing. -/
theorem hear_of_saysNothing {f : Frame} (h : f.SaysNothing) (id now : String) (v : Visit) :
    v.turn (.hear f id now) = v := by
  rw [turn]
  split
  · cases f with
    | text s =>
      cases hdecode : ClientMessage.decode s with
      | error e => simp [hear, SyncSocket.hear, hdecode]
      | ok m => simp [Frame.SaysNothing, Frame.message?, hdecode, Except.toOption] at h
    | other => rfl
    | close code => exact absurd trivial h.2
    | failed => exact absurd trivial h.2
    | ended => exact absurd trivial h.2
  · rfl

/-- What becomes of an open visit that hears a message. -/
theorem hear_of_message {f : Frame} {m : ClientMessage} (hf : f.message? = some m) (id now : String)
    (v : Visit) :
    v.hear f id now =
      { v with socket := (v.socket.heed m id now v.relay).1
               relay := (v.socket.heed m id now v.relay).2 } := by
  cases f with
  | text s =>
    cases hdecode : ClientMessage.decode s with
    | error e => simp [Frame.message?, hdecode, Except.toOption] at hf
    | ok m' =>
      obtain rfl : m' = m := by simpa [Frame.message?, hdecode, Except.toOption] using hf
      simp [hear, SyncSocket.hear, hdecode]
  | _ => cases hf

/-- Heartbeats leave the relay alone. -/
theorem relay_turn_of_heartbeat {f : Frame} {i : Option String}
    (hf : f.message? = some (.heartbeat i)) (id now : String) (v : Visit) :
    (v.turn (.hear f id now)).relay = v.relay := by
  rw [turn]
  split
  · rw [hear_of_message hf]
    rfl
  · rfl

/-! ### Visits in order -/

/-- A client is sent `first`, and what is sent after it is made of the other `replies` and of the
`posts`. -/
inductive HasSent (first : ServerMessage) :
    List ServerMessage → List ServerMessage → List ServerMessage → Prop
  | nothing : HasSent first [] [] []
  | more {told heard rest : List ServerMessage} :
    Interleaves told heard rest → HasSent first (first :: told) heard (first :: rest)

namespace HasSent

variable {first m : ServerMessage} {told heard ms replies acks : List ServerMessage}

/-- The next reply is sent. -/
theorem reply (h : HasSent first told heard ms) (hreplies : first :: acks = told ++ m :: replies) :
    HasSent first (told ++ [m]) heard (ms ++ [m]) := by
  cases h with
  | nothing =>
    obtain rfl : first = m := (List.cons.inj hreplies).1
    exact .more .nil
  | more h => exact .more (h.concat_left m)

/-- After the replies, the next message from the mailbox is sent. -/
theorem post (h : HasSent first told heard ms) (hreplies : first :: acks = told ++ [])
    (m : ServerMessage) : HasSent first told (heard ++ [m]) (ms ++ [m]) := by
  cases h with
  | nothing => cases hreplies
  | more h => exact .more (h.concat_right m)

end HasSent

/-- What an open visit has sent and what it has left to send are together `first`, the other
replies and what was posted. -/
def InOrder (first : ServerMessage) (acks posts : List ServerMessage) (v : Visit) : Prop :=
  ∃ told heard ms unread, HasSent first told heard ms ∧ v.sent = ms.map ServerMessage.encode ∧
    first :: acks = told ++ v.socket.replies ∧ posts = heard ++ unread ∧
    v.relay.mailbox? v.socket.receiver = some ⟨unread, 0⟩

namespace InOrder

variable {first : ServerMessage} {acks posts : List ServerMessage}

/-- The mailbox takes what is posted. -/
theorem post (h : v.InOrder first acks posts) {r : Relay} {ms : List ServerMessage}
    (hbox : ∀ box, v.relay.mailbox? v.socket.receiver = some box →
      r.mailbox? v.socket.receiver = some (box.postAll ms))
    (hlag : { v with relay := r }.NoLag) :
    { v with relay := r }.InOrder first acks (posts ++ ms) := by
  obtain ⟨told, heard, sent, unread, hhas, hsent, hreplies, rfl, hmailbox⟩ := h
  have hmailbox' := hbox _ hmailbox
  rw [Mailbox.postAll_eq (hlag _ hmailbox')] at hmailbox'
  exact ⟨told, heard, sent, unread ++ ms, hhas, hsent, hreplies, List.append_assoc .., hmailbox'⟩

/-- A reply goes to the end of the replies. -/
theorem reply (h : v.InOrder first acks posts) (m : ServerMessage) :
    { v with socket := { v.socket with replies := v.socket.replies ++ [m] } }.InOrder
      first (acks ++ [m]) posts := by
  obtain ⟨told, heard, sent, unread, hhas, hsent, hreplies, hposts, hmailbox⟩ := h
  refine ⟨told, heard, sent, unread, hhas, hsent, ?_, hposts, hmailbox⟩
  rw [← List.cons_append, hreplies, List.append_assoc]

/-- The next message is sent, if there is one. -/
theorem send (h : v.InOrder first acks posts) (now : String) :
    (v.send now).InOrder first acks posts := by
  obtain ⟨told, heard, sent, unread, hhas, hsent, hreplies, rfl, hmailbox⟩ := h
  have hsent' (m : ServerMessage) :
      v.sent ++ [m.encode] = (sent ++ [m]).map ServerMessage.encode := by
    rw [hsent, List.map_append, List.map_singleton]
  rw [Visit.send]
  cases hqueue : v.socket.replies with
  | cons m replies =>
    rw [SyncSocket.next?_of_replies hqueue]
    rw [hqueue] at hreplies
    exact ⟨told ++ [m], heard, sent ++ [m], unread, hhas.reply hreplies, hsent' m,
      by rw [hreplies, List.append_assoc]; rfl, rfl, hmailbox⟩
  | nil =>
    cases unread with
    | nil =>
      rw [SyncSocket.next?_of_empty hqueue hmailbox]
      exact ⟨told, heard, sent, [], hhas, hsent, hreplies, rfl, hmailbox⟩
    | cons m unread =>
      rw [SyncSocket.next?_of_unread hqueue hmailbox]
      exact ⟨told, heard ++ [m], sent ++ [m], unread, hhas.post (hqueue ▸ hreplies) m, hsent' m,
        hreplies, by simp, SyncSocket.mailbox?_setMailbox hmailbox⟩

/-- A visit that hears a message replies to it, or the relay carries it out. -/
theorem heed (h : v.InOrder first acks posts) {f : Frame} {m : ClientMessage}
    (hf : f.message? = some m) (hopen : v.isOpen = true) (id now : String)
    (hlag : (v.hear f id now).NoLag) :
    (v.hear f id now).InOrder first (acks ++ (Turn.hear f id now).reply?.toList)
      (posts ++ v.postsOf (.hear f id now)) := by
  rw [Turn.reply?, postsOf, if_pos hopen, hf, Option.bind_some, Option.bind_some]
  rw [hear_of_message hf] at hlag ⊢
  cases hop : m.operation? v.socket.client id with
  | some op =>
    rw [SyncSocket.heed_of_operation? hop] at hlag ⊢
    have hreply : m.reply?.toList = [] := by cases m <;> first | rfl | cases hop
    rw [hreply, List.append_nil]
    refine h.post (fun box hbox => ?_) hlag
    rw [Relay.mailbox?_perform, hbox]
    rfl
  | none =>
    obtain ⟨i, rfl, hheed⟩ := SyncSocket.heed_of_none hop now v.relay
    rw [hheed, List.append_nil]
    exact h.reply (.heartbeatAck i)

/-- **A visit stays in order.** What is replied and what is posted on a turn is left to send. -/
theorem turn (h : v.InOrder first acks posts) {t : Turn} (ht : v.AdmitsOne t)
    (hopen : v.isOpen = true) (hends : ¬t.Ends) (hlag : (v.turn t).NoLag) :
    (v.turn t).InOrder first (acks ++ t.reply?.toList) (posts ++ v.postsOf t) := by
  cases t with
  | occur o =>
    have hoccur := h.post (fun box hbox => Relay.mailbox?_occur hbox ht) hlag
    rwa [← List.append_nil acks] at hoccur
  | hear f id now =>
    cases hf : f.message? with
    | some m =>
      rw [Visit.turn, if_pos hopen] at hlag ⊢
      exact h.heed hf hopen id now hlag
    | none =>
      rw [hear_of_saysNothing ⟨hf, hends⟩, Turn.reply?, postsOf, if_pos hopen, hf, Option.bind_none,
        Option.bind_none, Option.toList_none, List.append_nil, List.append_nil]
      exact h
  | send now =>
    have hsend := h.send now
    rw [← List.append_nil acks, ← List.append_nil posts] at hsend
    rwa [Visit.turn, if_pos hopen]

theorem run (h : v.InOrder first acks posts) {turns : List Turn} (hturns : v.Admits turns)
    (hopen : v.isOpen = true) (hends : ∀ t ∈ turns, ¬t.Ends) :
    (v.run turns).InOrder first (acks ++ turns.filterMap Turn.reply?)
      (posts ++ v.posts turns) := by
  induction turns generalizing v acks posts with
  | nil =>
    rw [List.filterMap_nil, Visit.posts, List.append_nil, List.append_nil]
    exact h
  | cons t turns ih =>
    obtain ⟨ht, hlag, hturns⟩ := hturns
    obtain ⟨hend, hends⟩ := List.forall_mem_cons.mp hends
    have hrest := ih (h.turn ht hopen hend hlag) hturns ((isOpen_turn t v).mpr ⟨hopen, hend⟩) hends
    rw [List.append_assoc, List.append_assoc] at hrest
    rw [run_cons, Visit.posts]
    cases hreply : t.reply? <;> simpa [hreply] using hrest

/-! ### What is sent in the end -/

/-- What was sent so far. -/
theorem sent (h : v.InOrder first acks posts) :
    v.sent = [] ∨ ∃ told heard rest, Interleaves told heard rest ∧ told <+: acks ∧
      heard <+: posts ∧ v.sent = (first :: rest).map ServerMessage.encode := by
  obtain ⟨told, heard, ms, unread, hhas, hsent, hreplies, hposts, -⟩ := h
  cases hhas with
  | nothing => exact .inl hsent
  | more hinterleaves =>
    exact .inr ⟨_, heard, _, hinterleaves, ⟨_, (List.cons.inj hreplies).2.symm⟩,
      ⟨unread, hposts.symm⟩, hsent⟩

/-- When nothing is left to send, all was sent. -/
theorem sent_of_pending (h : v.InOrder first acks posts) (hpending : v.pending = 0) :
    ∃ rest, Interleaves acks posts rest ∧ v.sent = (first :: rest).map ServerMessage.encode := by
  obtain ⟨told, heard, ms, unread, hhas, hsent, hreplies, rfl, hmailbox⟩ := h
  rw [Visit.pending, hmailbox] at hpending
  obtain ⟨hqueue, hunread⟩ : v.socket.replies = [] ∧ unread = [] := by simpa using hpending
  rw [hqueue, List.append_nil] at hreplies
  rw [hunread, List.append_nil]
  cases hhas with
  | nothing => cases hreplies
  | more hinterleaves => exact ⟨_, (List.cons.inj hreplies).2 ▸ hinterleaves, hsent⟩

/-- A message that is sent is left to send no more. -/
theorem pending_send (h : v.InOrder first acks posts) (now : String) :
    (v.send now).pending = v.pending - 1 := by
  obtain ⟨told, heard, ms, unread, -, -, -, -, hmailbox⟩ := h
  rw [Visit.send]
  cases hqueue : v.socket.replies with
  | cons m replies =>
    rw [SyncSocket.next?_of_replies hqueue]
    simp only [Visit.pending, hqueue, List.length_cons]
    omega
  | nil =>
    cases unread with
    | nil =>
      rw [SyncSocket.next?_of_empty hqueue hmailbox]
      simp [Visit.pending, hqueue, hmailbox]
    | cons m unread =>
      rw [SyncSocket.next?_of_unread hqueue hmailbox]
      simp [Visit.pending, hqueue, hmailbox, SyncSocket.mailbox?_setMailbox hmailbox]

/-- Nothing but time is needed to send what is left. -/
theorem settle (h : v.InOrder first acks posts) (hopen : v.isOpen = true) (later : String) :
    (v.run (List.replicate v.pending (.send later))).InOrder first acks posts ∧
      (v.run (List.replicate v.pending (.send later))).pending = 0 := by
  induction hn : v.pending generalizing v with
  | zero => exact ⟨h, hn⟩
  | succ n ih =>
    have hturn : v.turn (.send later) = v.send later := by rw [Visit.turn, if_pos hopen]
    rw [List.replicate_succ, run_cons, hturn]
    refine ih (h.send later) ((isOpen_send later v).trans hopen) ?_
    rw [h.pending_send, hn, Nat.add_sub_cancel]

end InOrder

/-! ### From the beginning -/

/-- The visit of a socket that was just accepted is in order: it has the board to send. -/
theorem inOrder_opened {r₀ r : Relay} (h : r₀.IsNumbered) {target client now : String}
    {socket : SyncSocket} (haccept : r₀.accept target client now = .joined socket r) :
    ∃ snapshot, r₀.snapshot? socket.receiver.board now = some snapshot ∧
      (opened socket r).InOrder (.boardState snapshot) [] [] := by
  obtain ⟨board, token, hwelcome⟩ := Relay.accept_eq_joined haccept
  obtain ⟨snapshot, hjoin, hsocket⟩ := Relay.welcome_eq_joined hwelcome
  refine ⟨snapshot, Relay.snapshot?_of_join hjoin, [], [], [], [], .nothing, rfl, ?_, rfl,
    Relay.mailbox?_join h hjoin⟩
  rw [hsocket]
  rfl

/-- **What a client is sent.** A client connects to a relay with any history, and afterwards it says
what it likes, the relay sends when it gets to it, and others do what they like to the relay. As
long as nothing ends it, the visit is open. The client is sent nothing at first, then the board as
it was when the client joined, and then an interleaving of the first replies to its heartbeats with
the first messages that were posted on the board since; after a few more turns, all replies and all
messages have been sent, and there is nothing left to send. Who has left is sent nothing more. What
carries no message has no effect, and a heartbeat has none but the reply. -/
theorem sends_in_order {tokens : List String} {before : List Relay.Occurrence} {r₀ r : Relay}
    (hbefore : (Relay.ofTokens tokens).occurAll before = r₀) {target client now : String}
    {socket : SyncSocket} (haccept : r₀.accept target client now = .joined socket r)
    {turns : List Turn} (hturns : (opened socket r).Admits turns)
    (hv : (opened socket r).run turns = v) :
    ∃ snapshot, r₀.snapshot? socket.receiver.board now = some snapshot ∧
      (v.isOpen = true ↔ ∀ t ∈ turns, ¬t.Ends) ∧
      (v.isOpen = true →
        let acks := turns.filterMap Turn.reply?
        let posts := (opened socket r).posts turns
        (v.sent = [] ∨ ∃ told heard rest, Interleaves told heard rest ∧ told <+: acks ∧
          heard <+: posts ∧ v.sent = (.boardState snapshot :: rest).map ServerMessage.encode) ∧
        ∀ later, ∃ n, let done := v.run (List.replicate n (.send later))
          done.pending = 0 ∧ ∃ rest, Interleaves acks posts rest ∧
            done.sent = (.boardState snapshot :: rest).map ServerMessage.encode) ∧
      (v.isOpen = false → ∀ t, (v.turn t).sent = v.sent) ∧
      (∀ f id later, f.SaysNothing → v.turn (.hear f id later) = v) ∧
      (∀ f i id later, f.message? = some (.heartbeat i) →
        (v.turn (.hear f id later)).relay = v.relay) := by
  subst hv
  have hnumbered : r₀.IsNumbered := hbefore ▸ (Relay.isNumbered_ofTokens tokens).occurAll before
  obtain ⟨snapshot, hsnapshot, hopened⟩ := inOrder_opened hnumbered haccept
  have hopen := isOpen_run turns (opened socket r)
  refine ⟨snapshot, hsnapshot, hopen.trans (and_iff_right rfl), fun hvisit => ?_,
    sent_turn_of_closed, fun f id later hf => hear_of_saysNothing hf id later _,
    fun f i id later hf => relay_turn_of_heartbeat hf id later _⟩
  have hin := hopened.run hturns rfl (hopen.mp hvisit).2
  refine ⟨hin.sent, fun later => ⟨_, (hin.settle hvisit later).2, ?_⟩⟩
  exact (hin.settle hvisit later).1.sent_of_pending (hin.settle hvisit later).2

/-- A client sends a heartbeat, something that is no message and a new task. Before the client is
sent anything, somebody else moves a task. Later on a message that looks like a reply is passed on
to everybody. -/
theorem sends_in_order_of_heartbeat :
    let task := Relay.newTask "b" "Plan" .inbox none none "1" "t0"
    let before : List Relay.Occurrence := [.act (.operate "b" (.put [task]) "t0")]
    let r₀ := (Relay.ofTokens []).occurAll before
    let snapshot : Snapshot := ⟨[task], "t1"⟩
    let socket : SyncSocket := ⟨⟨"b", 0⟩, "c", [.boardState snapshot]⟩
    let r : Relay := ⟨[], [("b", ⟨[task], [(0, .empty)]⟩)], 1⟩
    let turns : List Turn :=
      [.hear (.text (ClientMessage.heartbeat (some "1")).encode) "2" "t2",
        .occur (.act (.operate "b" (.move "1" .done none) "t3")), .send "t4",
        .hear (.text "task.move") "3" "t5", .hear .other "4" "t6",
        .occur (.pass "b" (.heartbeatAck (some "5"))), .send "t7",
        .hear (.text (ClientMessage.taskCreate "Do" .inbox none).encode) "6" "t8"]
    let v := (opened socket r).run turns
    r₀.accept "/ws/board/b/sync?token=k" "c" "t1" = .joined socket r ∧
      (opened socket r).Admits turns ∧ v.isOpen = true ∧
      turns.filterMap Turn.reply? = [.heartbeatAck (some "1")] ∧
      ((opened socket r).posts turns).map (·.kind) =
        ["task.updated", "heartbeat_ack", "task.created"] ∧
      ∃ n rest, Interleaves [.heartbeatAck (some "1")] ((opened socket r).posts turns) rest ∧
        (v.run (List.replicate n (.send "t9"))).sent =
          (.boardState snapshot :: rest).map ServerMessage.encode := by
  intro task before r₀ snapshot socket r turns v
  have haccept : r₀.accept "/ws/board/b/sync?token=k" "c" "t1" = .joined socket r := by
    decide +kernel
  obtain ⟨hturns, hopen, hreplies, hposts, hsnapshot⟩ : (opened socket r).Admits turns ∧
      v.isOpen = true ∧ turns.filterMap Turn.reply? = [.heartbeatAck (some "1")] ∧
      ((opened socket r).posts turns).map (·.kind) =
        ["task.updated", "heartbeat_ack", "task.created"] ∧
      r₀.snapshot? "b" "t1" = some snapshot := by decide +kernel
  obtain ⟨joined, hjoined, -, hvisit, -⟩ :=
    sends_in_order (show _ = r₀ from rfl) haccept hturns (show _ = v from rfl)
  obtain rfl : joined = snapshot := Option.some.inj (hjoined.symm.trans hsnapshot)
  obtain ⟨-, hsettles⟩ := hvisit hopen
  obtain ⟨n, -, rest, hrest, hsent⟩ := hsettles "t9"
  rw [hreplies] at hrest
  exact ⟨haccept, hturns, hopen, hreplies, hposts, n, rest, hrest, hsent⟩

end Visit

end LiveBoard
