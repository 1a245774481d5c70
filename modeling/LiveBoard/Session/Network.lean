import LiveBoard.Relay.Socket
import LiveBoard.Session.Basic

/-!
# Sessions on a network

A session and a relay, with a network between them that delivers everything at once, or nothing at
all. Timers do not fire here: a session whose attempt has failed goes on waiting for the next one.

## Main definitions

* `Network`: a relay at a server, and `Network.isReachedAt`, where it is reached.
* `Link`: a session on a network, with its socket at the relay.
* `Link.run`: the acts of a session and what follows from them.
* `Link.deliver`: the session is sent what its socket has for it.
* `Link.isSettled`: the session does not wait for anything.
-/

namespace LiveBoard

/-- A relay on a network. -/
structure Network where
  /-- Where the relay takes connections. -/
  server : Url.Server
  relay : Relay
  /-- The relay can be reached. -/
  reachable : Bool
  deriving Repr, DecidableEq

/-- A session on a network. -/
structure Link where
  network : Network
  session : Session
  /-- The socket of the session at the relay. -/
  socket : Option SyncSocket
  deriving Repr, DecidableEq

/-- The time, the id of what is made now, and the name under which a client acts. -/
structure Moment where
  now : String
  id : String
  client : String
  deriving Repr, DecidableEq

namespace Network

/-- An address leads to the relay, and the relay can be reached. -/
def isReachedAt (address : Url.Address) (n : Network) : Bool :=
  n.reachable && address.server? = some n.server

/-- Asks the relay at an address, if it is reached there. -/
def ask (m : Moment) (address : Url.Address) (q : Http.Request) (n : Network) :
    Option Http.Response :=
  if n.isReachedAt address then
    some (n.relay.respond q m.id m.now).1
  else none

end Network

namespace Link

/-- The link with another relay behind its network. -/
def withRelay (r : Relay) (l : Link) : Link := { l with network := { l.network with relay := r } }

/-- A socket is asked for at an address. The attempt fails if the relay is not reached there. -/
def dial (m : Moment) (address : Url.Address) (l : Link) : Link × List Wake :=
  if l.network.isReachedAt address then
    match l.network.relay.accept (String.ofList address.target) m.client m.now with
    | .refused status => (l, [.handshake (.refused status)])
    | .closed code _ => (l, [.handshake .opened, .frame (.close (some code))])
    | .joined socket r => ({ l.withRelay r with socket := some socket }, [.handshake .opened])
  else (l, [.handshake .failed])

/-- What an act of the session does on the network, and what it wakes the session with. -/
def act (m : Moment) (a : Act) (l : Link) : Link × List Wake :=
  match a, l.socket with
  | .tell _, _ => (l, [])
  | .dial address, _ => l.dial m address
  | .transmit text, some socket =>
    let (socket, r) := socket.hear text m.id m.now l.network.relay
    ({ l.withRelay r with socket := some socket }, [])
  | .hangUp, some socket =>
    ({ l.withRelay (l.network.relay.leave socket.receiver) with socket := none }, [])
  | .transmit _, none => (l, [])
  | .hangUp, none => (l, [])

/-- The session is woken several times. -/
def wakeAll : List Wake → Link → Link × List Act
  | [], l => (l, [])
  | w :: ws, l =>
    let (session, acts) := l.session.wake w
    let (l, more) := wakeAll ws { l with session }
    (l, acts ++ more)

/-- The acts of a session and what follows from them, as far as a number of acts goes. -/
def runIn (m : Moment) : Nat → List Act → Link → Link
  | 0, _, l => l
  | _, [], l => l
  | fuel + 1, a :: as, l =>
    let (l, wakes) := l.act m a
    let (l, more) := l.wakeAll wakes
    runIn m fuel (as ++ more) l

/-- The acts of a session and what follows from them. An act leads to at most two wake-ups, and
these to a handful of acts that lead to nothing more. -/
def run (m : Moment) (acts : List Act) (l : Link) : Link := l.runIn m (16 * acts.length) acts

/-- The session is sent what its socket has for it. -/
def deliver (m : Moment) (l : Link) : Link :=
  match l.socket with
  | none => l
  | some socket =>
    let (messages, socket, r) := socket.flush m.now l.network.relay
    let (l, acts) := { l.withRelay r with socket := some socket }.wakeAll
      (messages.map fun (message : ServerMessage) => .frame (.text message.encode))
    l.run m acts

/-- The session neither tries to connect nor waits to try again. -/
def isSettled (l : Link) : Bool :=
  l.session.transport.pending.isNone && l.session.transport.timer.isNone

/-- A session begins on a network. -/
def start (m : Moment) (settings : Settings) (initial : Option (List Task)) (n : Network) :
    Except SettingsError Link := do
  let (session, acts) ← Session.start settings initial
  let l : Link := ⟨n, session, none⟩
  return (l.run m acts).deliver m

/-- A command is given to the transport of the session. -/
def command (m : Moment) (c : Command) (l : Link) : Link :=
  let (session, acts) := l.session.wake (.command c true)
  ({ l with session }.run m acts).deliver m

/-- The session moves a task. -/
def moveTask (m : Moment) (id : String) (status : Status) (l : Link) : Bool × Link :=
  let (changed, session, acts) := l.session.moveTask id status true
  (changed, ({ l with session }.run m acts).deliver m)

/-- The session asks for a new task. -/
def createTask (m : Moment) (title : String) (status : Status) (assignee : Option String)
    (l : Link) : Link :=
  let (session, acts) := l.session.createTask title status assignee true
  ({ l with session }.run m acts).deliver m

end Link

end LiveBoard
