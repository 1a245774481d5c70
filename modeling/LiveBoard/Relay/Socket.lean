import LiveBoard.Connection.State
import LiveBoard.Relay.Router

/-!
# Sockets of a relay

A client that keeps up with a board has a socket at the relay. It is sent the board first, then
answers to its own heartbeats and everything that is posted to its mailbox, answers before posts.
When messages were lost it is sent the board anew. What it says is carried out on the board; frames
that say nothing are passed over.

## Main definitions

* `Relay.accept`: a client opens a socket.
* `SyncSocket.next?`, `SyncSocket.flush`: what the client is sent.
* `SyncSocket.hear`: what the client says.
-/

namespace LiveBoard

/-- The socket of a client at a relay. -/
structure SyncSocket where
  receiver : Receiver
  /-- The name under which the client acts. -/
  client : String
  /-- What only this client is told, the oldest first. -/
  replies : List ServerMessage
  deriving Repr, DecidableEq

/-- What becomes of a socket that a client opens. -/
inductive Welcome
  /-- The request is refused with a status. -/
  | refused (status : UInt16)
  /-- The socket is closed at once. -/
  | closed (code : UInt16) (reason : String)
  | joined (socket : SyncSocket) (relay : Relay)
  deriving Repr, DecidableEq

/-- The token in the query of a request, unless it is given twice. -/
def queryToken (query : List Char) : Option (Option String) :=
  match (Url.formPairs query).filter fun f => f.1 == "token" with
  | [] => some none
  | [f] => some (some f.2)
  | _ => none

namespace Relay

/-- A client opens a socket for a board. -/
def welcome (board : String) (token : Option String) (client now : String) (r : Relay) :
    Welcome :=
  match r.join board token now with
  | .ok (snapshot, receiver, r) => .joined ⟨receiver, client, [.boardState snapshot]⟩ r
  | .error .unauthorized => .closed CloseCode.unauthorized.code "unauthorized"
  | .error .boardNotFound => .closed CloseCode.boardNotFound.code "board not found"

/-- A client opens a socket at a target. Where there are no sockets it is answered like any other
request. -/
def accept (target client now : String) (r : Relay) : Welcome :=
  let q : Http.Request := ⟨"GET", target, [], ""⟩
  match Route.ofPath? q.path with
  | some (.sync board) =>
    match Route.decodeSegment? board, queryToken q.query with
    | some board, some token => r.welcome board token client now
    | _, _ => .refused 400
  | _ => .refused (r.respond q client now).1.status.toUInt16

end Relay

namespace SyncSocket

/-- The next message that the client is sent, if there is any. -/
def next? (now : String) (r : Relay) (s : SyncSocket) :
    Option (ServerMessage × SyncSocket × Relay) :=
  match s.replies with
  | m :: replies => some (m, { s with replies }, r)
  | [] =>
    match (r.mailbox? s.receiver).bind Mailbox.take? with
    | none => none
    | some (.message m, b) => some (m, s, r.setMailbox s.receiver b)
    | some (.lagged _, b) =>
      (r.snapshot? s.receiver.board now).map fun snapshot =>
        (.boardState snapshot, s, r.setMailbox s.receiver b)

/-- The messages that the client is sent until there are no more, as far as a number of them
goes. -/
def flushIn (now : String) : Nat → Relay → SyncSocket → List ServerMessage × SyncSocket × Relay
  | 0, r, s => ([], s, r)
  | fuel + 1, r, s =>
    match s.next? now r with
    | none => ([], s, r)
    | some (m, s, r) =>
      let (ms, s, r) := flushIn now fuel r s
      (m :: ms, s, r)

/-- All the messages that the client is sent now. -/
def flush (now : String) (r : Relay) (s : SyncSocket) : List ServerMessage × SyncSocket × Relay :=
  flushIn now (s.replies.length + Mailbox.capacity + 1) r s

/-- The client says something. -/
def heed (m : ClientMessage) (id now : String) (r : Relay) (s : SyncSocket) :
    SyncSocket × Relay :=
  match m with
  | .taskMove task status =>
    (s, (r.moveTask s.receiver.board task status (some s.client) now).2)
  | .taskCreate title status assignee =>
    (s, (r.createTask s.receiver.board title status assignee (some s.client) id now).2)
  | .heartbeat id => ({ s with replies := s.replies ++ [.heartbeatAck id] }, r)

/-- The client sends a text. One that is no message is passed over. -/
def hear (text : String) (id now : String) (r : Relay) (s : SyncSocket) : SyncSocket × Relay :=
  match ClientMessage.decode text with
  | .ok m => s.heed m id now r
  | .error _ => (s, r)

end SyncSocket

end LiveBoard
