import LiveBoard.Proofs.Message.RoundTrip
import LiveBoard.Proofs.Relay.Mailbox
import LiveBoard.Relay.Socket

/-!
# What a socket sends and hears

A socket sends its client the replies first. After them comes what is in the mailbox, the oldest
message first; where messages were lost, the board of the moment takes their place, and the
messages that were retained stay where they are.

What it hears is an operation on its board, or a heartbeat that it replies to.

## Main definitions

* `ClientMessage.operation?`: what the relay does when it hears a message.

## Main results

* `Relay.welcome_eq_joined`: a new socket has the board to send.
* `SyncSocket.next?_of_replies`, `next?_of_unread`, `next?_of_lost`, `next?_of_empty`: what a
  socket sends next.
* `SyncSocket.flush_of_joined`, `SyncSocket.flush_of_posted`: all that a socket sends.
* `SyncSocket.hear_encode`, `SyncSocket.snd_hear`: what follows from a text that a socket hears.
-/

namespace LiveBoard

/-- A new socket has the board to send, and its receiver has joined. -/
theorem Relay.welcome_eq_joined {board client now : String} {token : Option String}
    {r r' : Relay} {socket : SyncSocket}
    (h : r.welcome board token client now = .joined socket r') :
    ∃ snapshot, r.join board token now = .ok (snapshot, socket.receiver, r') ∧
      socket = ⟨socket.receiver, client, [.boardState snapshot]⟩ := by
  rw [welcome] at h
  split at h
  · next snapshot who r'' hjoin =>
    cases h
    exact ⟨snapshot, hjoin, rfl⟩
  · cases h
  · cases h

namespace SyncSocket

variable {now : String} {r : Relay} {s : SyncSocket}

theorem next?_of_replies {m : ServerMessage} {ms : List ServerMessage} (h : s.replies = m :: ms) :
    s.next? now r = some (m, { s with replies := ms }, r) := by
  rw [next?, h]

theorem next?_of_unread (h : s.replies = []) {m : ServerMessage} {ms : List ServerMessage}
    (hbox : r.mailbox? s.receiver = some ⟨m :: ms, 0⟩) :
    s.next? now r = some (m, s, r.setMailbox s.receiver ⟨ms, 0⟩) := by
  rw [next?, h, hbox]
  rfl

theorem next?_of_empty (h : s.replies = []) (hbox : r.mailbox? s.receiver = some ⟨[], 0⟩) :
    s.next? now r = none := by
  rw [next?, h, hbox]
  rfl

/-- Where messages were lost, the board of the moment is sent, and what was retained stays. -/
theorem next?_of_lost (h : s.replies = []) {box : Mailbox}
    (hbox : r.mailbox? s.receiver = some box) (hlost : box.lost ≠ 0) {ts : List Task}
    (hts : r.tasks? s.receiver.board = some ts) :
    s.next? now r =
      some (.boardState ⟨ts, now⟩, s, r.setMailbox s.receiver ⟨box.unread, 0⟩) := by
  obtain ⟨room, hroom, rfl⟩ := Option.map_eq_some_iff.mp hts
  simp only [next?, h, hbox, Option.bind_some, Mailbox.take?, if_neg hlost, Relay.snapshot?,
    hroom, Option.map_some]
  rfl

/-- A socket that has nothing to send has lost nothing and has nothing left. -/
theorem eq_nil_of_next?_eq_none {box : Mailbox} (hbox : r.mailbox? s.receiver = some box)
    {ts : List Task} (hts : r.tasks? s.receiver.board = some ts) (h : s.next? now r = none) :
    s.replies = [] ∧ box = .empty := by
  cases hreplies : s.replies with
  | cons m ms =>
    rw [next?_of_replies hreplies] at h
    cases h
  | nil =>
    refine ⟨rfl, ?_⟩
    by_cases hlost : box.lost = 0
    · obtain ⟨_ | ⟨m, ms⟩, lost⟩ := box
      · exact congrArg (Mailbox.mk []) hlost
      · obtain rfl : lost = 0 := hlost
        rw [next?_of_unread hreplies hbox] at h
        cases h
    · rw [next?_of_lost hreplies hbox hlost hts] at h
      cases h

/-- A socket stays with its receiver. -/
theorem receiver_of_next? {m : ServerMessage} {s' : SyncSocket} {r' : Relay}
    (h : s.next? now r = some (m, s', r')) : s'.receiver = s.receiver := by
  rw [next?] at h
  split at h
  · cases h; rfl
  · split at h
    · cases h
    · cases h; rfl
    · obtain ⟨snapshot, -, h⟩ := Option.map_eq_some_iff.mp h
      cases h
      rfl

theorem mailbox?_setMailbox {box box' : Mailbox} (hbox : r.mailbox? s.receiver = some box) :
    (r.setMailbox s.receiver box').mailbox? s.receiver = some box' := by
  rw [Relay.mailbox?_setMailbox_self, hbox]
  rfl

/-! ### All that there is to send -/

theorem flushIn_of_some {m : ServerMessage} {s' : SyncSocket} {r' : Relay}
    (h : s.next? now r = some (m, s', r')) (fuel : Nat) :
    s.flushIn now (fuel + 1) r = (m :: (s'.flushIn now fuel r').1, (s'.flushIn now fuel r').2) := by
  rw [flushIn, h]

theorem flushIn_of_none (h : s.next? now r = none) (fuel : Nat) :
    s.flushIn now fuel r = ([], s, r) := by
  cases fuel with
  | zero => rfl
  | succ fuel => rw [flushIn, h]

/-- A new socket has the board to send, and no more. -/
theorem flush_of_joined {m : ServerMessage} {who : Receiver} (client now : String)
    (hbox : r.mailbox? who = some .empty) :
    flush now r ⟨who, client, [m]⟩ = ([m], ⟨who, client, []⟩, r) := by
  rw [flush, flushIn_of_some (next?_of_replies rfl), flushIn_of_none (next?_of_empty rfl hbox)]

/-- A socket sends what was posted to it. -/
theorem flush_of_posted {m : ServerMessage} (hreplies : s.replies = [])
    (hbox : r.mailbox? s.receiver = some ⟨[m], 0⟩) :
    s.flush now r = ([m], s, r.setMailbox s.receiver .empty) := by
  rw [flush, flushIn_of_some (next?_of_unread hreplies hbox),
    flushIn_of_none (next?_of_empty hreplies (mailbox?_setMailbox hbox))]
  rfl

end SyncSocket

/-! ### What a socket hears -/

namespace ClientMessage

/-- What a relay does when it hears a message of a client. A task that it makes gets an id. -/
def operation? (client id : String) : ClientMessage → Option Relay.Operation
  | .taskMove task status => some (.move task status (some client))
  | .taskCreate title status assignee => some (.create title status assignee (some client) id)
  | .heartbeat _ => none

theorem isFresh_of_operation? {m : ClientMessage} {client id : String} {op : Relay.Operation}
    (h : m.operation? client id = some op) {used : List String} (hid : id ∉ used) :
    op.IsFresh used := by
  cases m with
  | taskMove task status => cases h; trivial
  | taskCreate title status assignee => cases h; exact hid
  | heartbeat i => cases h

end ClientMessage

namespace SyncSocket

variable {id now : String} {r : Relay} {s : SyncSocket}

theorem heed_of_operation? {m : ClientMessage} {op : Relay.Operation}
    (h : m.operation? s.client id = some op) :
    s.heed m id now r = (s, r.perform op s.receiver.board now) := by
  cases m <;> cases h <;> rfl

theorem heed_of_none {m : ClientMessage} (h : m.operation? s.client id = none) (now : String)
    (r : Relay) :
    ∃ i, m = .heartbeat i ∧
      s.heed m id now r = ({ s with replies := s.replies ++ [.heartbeatAck i] }, r) := by
  cases m with
  | heartbeat i => exact ⟨i, rfl, rfl⟩
  | _ => cases h

/-- A text that a client has written is heeded. -/
theorem hear_encode (m : ClientMessage) : s.hear m.encode id now r = s.heed m id now r := by
  rw [hear, ClientMessage.decode_encode]

/-- Whatever text a socket hears, the relay is left alone or carries out an operation. -/
theorem snd_hear (text id now : String) (r : Relay) (s : SyncSocket) :
    (s.hear text id now r).2 = r ∨
      ∃ m op, ClientMessage.operation? s.client id m = some op ∧
        (s.hear text id now r).2 = r.perform op s.receiver.board now := by
  rw [hear]
  split
  · next m _ =>
    cases hop : m.operation? s.client id with
    | none =>
      obtain ⟨i, -, hheed⟩ := heed_of_none hop now r
      exact .inl (by rw [hheed])
    | some op => exact .inr ⟨m, op, hop, by rw [heed_of_operation? hop]⟩
  · exact .inl rfl

/-- A socket stays with its receiver. -/
theorem receiver_hear (text : String) : (s.hear text id now r).1.receiver = s.receiver := by
  rw [hear]
  split
  · next m _ => cases m <;> rfl
  · rfl

end SyncSocket

end LiveBoard
