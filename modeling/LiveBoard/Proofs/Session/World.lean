import LiveBoard.Proofs.Relay.History
import LiveBoard.Proofs.Session.Step
import LiveBoard.Relay.Socket
import Mathlib.Data.Fintype.Basic

/-!
# Sessions around a relay

Any number of sessions keep up with boards of one relay. Each has at most one channel to it: a
socket at the relay, the texts that are on their way up, and those on their way down. Both ways
deliver in order, and as late as they like.

A session that loses its connection leaves its channel. What was on its way down is never read, and
what was on its way up may still be heard. When it connects again it gets a new channel, whose
socket has the board to send first.

## Main definitions

* `Channel`: a connection between a session and a relay, with `Channel.send` and `Channel.hear`.
* `Client`: a session with its channel, and the channels that it has left.
* `World`: a relay and its clients.
* `World.Event`, `World.step`, `World.run`: what can happen, in any order.
* `World.Admits`: new ids are fresh, and nobody falls behind.
-/

namespace LiveBoard

open Relay

/-- A connection between a session and a relay. -/
structure Channel where
  /-- The end at the relay. -/
  socket : SyncSocket
  /-- The texts that the client has sent, the oldest first. -/
  up : List String
  /-- The texts that the relay has sent, the oldest first. -/
  down : List String

namespace Channel

/-- The relay sends the next message. -/
def send (now : String) (r : Relay) (ch : Channel) : Channel × Relay :=
  match ch.socket.next? now r with
  | none => (ch, r)
  | some (m, socket, r) => ({ ch with socket, down := ch.down ++ [m.encode] }, r)

/-- The relay hears the next text. A task that it makes gets an id. -/
def hear (id now : String) (r : Relay) (ch : Channel) : Channel × Relay :=
  match ch.up with
  | [] => (ch, r)
  | text :: up =>
    let (socket, r) := ch.socket.hear text id now r
    ({ ch with socket, up }, r)

/-- Nothing is on its way, and the relay has nothing left to send. -/
def IsIdle (r : Relay) (ch : Channel) : Prop :=
  ch.up = [] ∧ ch.down = [] ∧ ch.socket.replies = [] ∧
    ∀ box ∈ r.mailbox? ch.socket.receiver, box.unread = []

instance (r : Relay) (ch : Channel) : Decidable (ch.IsIdle r) :=
  inferInstanceAs (Decidable (_ ∧ _ ∧ _ ∧ ∀ box ∈ r.mailbox? ch.socket.receiver, box.unread = []))

end Channel

/-- A session with its channel, and the channels that it has left. -/
structure Client where
  session : Session
  channel : Option Channel
  left : List Channel

namespace Client

/-- A client whose session has done something. What it has sent is on its way up; without a socket
the channel is left. -/
def after (done : Session × List Act) (c : Client) : Client :=
  let channel := c.channel.map fun ch => { ch with up := ch.up ++ Session.sent done.2 }
  if done.1.transport.socket then { c with session := done.1, channel }
  else { session := done.1, channel := none, left := channel.toList ++ c.left }

end Client

/-- A relay and its clients. -/
structure World (ι : Type) where
  relay : Relay
  clients : ι → Client

namespace World

/-- What can happen. -/
inductive Event (ι : Type)
  /-- A session is seeded with tasks. -/
  | seed (i : ι) (tasks : List Task)
  /-- A session moves a task. -/
  | move (i : ι) (id : String) (status : Status) (taken : Bool)
  /-- A session asks for a new task. -/
  | create (i : ι) (title : String) (status : Status) (assignee : Option String) (taken : Bool)
  /-- A session is woken by its owner, by a timer, or because its connection is lost. -/
  | wake (i : ι) (w : Wake)
  /-- A session that tries to connect joins its board. -/
  | join (i : ι) (token : Option String) (client now : String)
  /-- The relay sends a session the next message. -/
  | send (i : ι) (now : String)
  /-- A session reads the next text. -/
  | read (i : ι)
  /-- The relay hears the next text of a session. -/
  | hear (i : ι) (id now : String)
  /-- The relay hears the next text on a channel that a session has left. -/
  | hearLeft (i : ι) (n : Nat) (id now : String)
  /-- Something happens at the relay. -/
  | act (a : Action)

variable {ι : Type} [DecidableEq ι]

/-- Nothing has happened yet. -/
def start (tokens : List String) (sessions : ι → Session) : World ι where
  relay := ofTokens tokens
  clients i := ⟨sessions i, none, []⟩

/-- The world with another client in the place of one. -/
def put (i : ι) (c : Client) (w : World ι) : World ι :=
  { w with clients := fun j => if j = i then c else w.clients j }

/-- The world after an event. Where the event is not possible, nothing happens. -/
def step (e : Event ι) (w : World ι) : World ι :=
  match e with
  | .seed i tasks =>
    let c := w.clients i
    w.put i { c with session := (c.session.seed tasks).2 }
  | .move i id status taken =>
    let c := w.clients i
    w.put i (c.after (c.session.moveTask id status taken).2)
  | .create i title status assignee taken =>
    let c := w.clients i
    w.put i (c.after (c.session.createTask title status assignee taken))
  | .wake i wake =>
    let c := w.clients i
    w.put i (c.after (c.session.wake wake))
  | .join i token client now =>
    let c := w.clients i
    if c.session.transport.isPossible (.handshake .opened) then
      match w.relay.welcome c.session.boardId token client now with
      | .joined socket relay =>
        { w with relay }.put i
          ({ c with channel := some ⟨socket, [], []⟩ }.after (c.session.wake (.handshake .opened)))
      | _ => w
    else w
  | .send i now =>
    let c := w.clients i
    match c.channel with
    | none => w
    | some ch =>
      let (ch, relay) := ch.send now w.relay
      { w with relay }.put i { c with channel := some ch }
  | .read i =>
    let c := w.clients i
    match c.channel with
    | none => w
    | some ch =>
      match ch.down with
      | [] => w
      | text :: down =>
        w.put i ({ c with channel := some { ch with down } }.after
          (c.session.wake (.frame (.text text))))
  | .hear i id now =>
    let c := w.clients i
    match c.channel with
    | none => w
    | some ch =>
      let (ch, relay) := ch.hear id now w.relay
      { w with relay }.put i { c with channel := some ch }
  | .hearLeft i n id now =>
    let c := w.clients i
    match c.left[n]? with
    | none => w
    | some ch =>
      let (ch, relay) := ch.hear id now w.relay
      { w with relay }.put i { c with left := c.left.set n ch }
  | .act a => { w with relay := w.relay.act a }

/-- The world after several events, the first one first. -/
def run (events : List (Event ι)) (w : World ι) : World ι :=
  events.foldl (fun w e => w.step e) w

/-- A client falls behind when messages are lost from the mailbox of its channel. -/
def NoLag (w : World ι) : Prop :=
  ∀ i, ∀ ch ∈ (w.clients i).channel, ∀ box ∈ w.relay.mailbox? ch.socket.receiver, box.lost = 0

/-- No client has a channel with this receiver. -/
def IsFree (w : World ι) (who : Receiver) : Prop :=
  ∀ i, ∀ ch ∈ (w.clients i).channel, who ≠ ch.socket.receiver

/-- An event is admitted when new tasks get ids that their boards do not have, and the mailbox of a
channel is left to its socket. Texts and new sockets come from the relay alone. -/
def AdmitsOne (w : World ι) : Event ι → Prop
  | .wake _ wake => wake.isOwn = true
  | .hear i id _ => ∀ ch ∈ (w.clients i).channel, id ∉ w.relay.idsOf ch.socket.receiver.board
  | .hearLeft i n id _ =>
    ∀ ch ∈ (w.clients i).left[n]?, id ∉ w.relay.idsOf ch.socket.receiver.board
  | .act (.operate board op _) => op.IsFresh (w.relay.idsOf board)
  | .act (.leave who) => w.IsFree who
  | .act (.drain who) => w.IsFree who
  | _ => True

/-- All events of a run are admitted where they happen, and nobody falls behind. -/
def Admits (w : World ι) : List (Event ι) → Prop
  | [] => True
  | e :: events => w.AdmitsOne e ∧ (w.step e).NoLag ∧ (w.step e).Admits events

/-! ### Deciding what is admitted -/

section Decidable

variable [Fintype ι] (w : World ι)

instance : Decidable w.NoLag :=
  inferInstanceAs (Decidable (∀ i, ∀ ch ∈ (w.clients i).channel,
    ∀ box ∈ w.relay.mailbox? ch.socket.receiver, box.lost = 0))

instance (who : Receiver) : Decidable (w.IsFree who) :=
  inferInstanceAs (Decidable (∀ i, ∀ ch ∈ (w.clients i).channel, who ≠ ch.socket.receiver))

instance (e : Event ι) : Decidable (w.AdmitsOne e) :=
  match e with
  | .wake _ wake => inferInstanceAs (Decidable (wake.isOwn = true))
  | .hear i id _ => inferInstanceAs (Decidable (∀ ch ∈ (w.clients i).channel,
      id ∉ w.relay.idsOf ch.socket.receiver.board))
  | .hearLeft i n id _ => inferInstanceAs (Decidable (∀ ch ∈ (w.clients i).left[n]?,
      id ∉ w.relay.idsOf ch.socket.receiver.board))
  | .act (.operate board op _) => inferInstanceAs (Decidable (op.IsFresh (w.relay.idsOf board)))
  | .act (.leave who) => inferInstanceAs (Decidable (w.IsFree who))
  | .act (.drain who) => inferInstanceAs (Decidable (w.IsFree who))
  | .act (.join _ _ _) => .isTrue trivial
  | .seed _ _ => .isTrue trivial
  | .move _ _ _ _ => .isTrue trivial
  | .create _ _ _ _ _ => .isTrue trivial
  | .join _ _ _ _ => .isTrue trivial
  | .send _ _ => .isTrue trivial
  | .read _ => .isTrue trivial

instance decidableAdmits : ∀ (events : List (Event ι)) (w : World ι), Decidable (w.Admits events)
  | [], _ => .isTrue trivial
  | e :: events, w =>
    have := decidableAdmits events (w.step e)
    inferInstanceAs (Decidable (_ ∧ _ ∧ _))

end Decidable

/-! ### Clients -/

@[simp] theorem clients_put_self (i : ι) (c : Client) (w : World ι) :
    (w.put i c).clients i = c := if_pos rfl

theorem clients_put_of_ne {i j : ι} (h : j ≠ i) (c : Client) (w : World ι) :
    (w.put i c).clients j = w.clients j := if_neg h

/-- Where a client has no other receiver than before, nobody falls behind. -/
theorem NoLag.put {w : World ι} (h : w.NoLag) {i : ι} {c : Client}
    (hreceiver : ∀ ch, c.channel = some ch →
      ∃ k, (w.clients i).channel = some k ∧ ch.socket.receiver = k.socket.receiver) :
    (w.put i c).NoLag := by
  intro j ch hch
  by_cases hj : j = i
  · subst hj
    rw [clients_put_self] at hch
    obtain ⟨k, hk, hsame⟩ := hreceiver ch hch
    rw [hsame]
    exact h j k hk
  · rw [clients_put_of_ne hj] at hch
    exact h j ch hch

/-! ### Runs -/

theorem run_append (es fs : List (Event ι)) (w : World ι) :
    w.run (es ++ fs) = (w.run es).run fs := List.foldl_append

/-- A run is admitted when its beginning is, and what follows on it. -/
theorem admits_append {es fs : List (Event ι)} {w : World ι} :
    w.Admits (es ++ fs) ↔ w.Admits es ∧ (w.run es).Admits fs := by
  induction es generalizing w with
  | nil => exact ⟨fun h => ⟨trivial, h⟩, And.right⟩
  | cons e es ih =>
    rw [List.cons_append, Admits, ih, Admits, and_assoc, and_assoc]
    rfl

/-- Nobody falls behind in an admitted run. -/
theorem NoLag.run {events : List (Event ι)} {w : World ι} (h : w.NoLag)
    (hevents : w.Admits events) : (w.run events).NoLag := by
  induction events generalizing w with
  | nil => exact h
  | cons e events ih => exact ih hevents.2.1 hevents.2.2

end World

end LiveBoard
