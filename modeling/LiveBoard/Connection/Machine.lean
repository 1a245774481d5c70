import LiveBoard.Backoff.Policy
import LiveBoard.Connection.State

/-!
# The connection machine

The life of a connection as a pure state machine. It touches neither sockets nor clocks: it takes
events and answers with the effects that somebody else has to carry out.

Every attempt to open a socket gets a new epoch. Events of another epoch come from a socket or a
timer that has been replaced, and nothing follows from them. After `shutdown` nothing follows from
any event.

## Main definitions

* `Connection.Event`, `Connection.Effect`: what happens and what is to be done.
* `Connection.Machine`: the machine, with `Machine.handle`.
-/

namespace LiveBoard.Connection

/-- What happens to a connection. -/
inductive Event
  /-- Somebody asks for a connection. -/
  | connect
  /-- The socket of an epoch has finished its handshake. -/
  | opened (epoch : UInt64)
  /-- The socket of an epoch has closed, or failed to open. -/
  | closed (epoch : UInt64) (code : UInt16)
  /-- The reconnect timer of an epoch has fired. -/
  | reconnectDue (epoch : UInt64)
  /-- Somebody asks to disconnect. A connection may be asked for again. -/
  | disconnect
  /-- The owner goes away. -/
  | shutdown
  deriving Repr, DecidableEq

/-- What is to be done about a connection. -/
inductive Effect
  | openSocket (epoch : UInt64)
  | closeSocket
  | startHeartbeat
  | stopHeartbeat
  | scheduleReconnect (epoch : UInt64) (delayMs : Nat)
  | cancelReconnect
  | stateChanged (state : ConnectionState)
  deriving Repr, DecidableEq

/-- The connection machine. -/
structure Machine where
  state : ConnectionState
  policy : BackoffPolicy
  /-- The session is enabled and has a token. Otherwise it never connects. -/
  active : Bool
  /-- There was no shutdown. -/
  alive : Bool
  /-- The attempts to reconnect since the last success. -/
  attempt : UInt32
  epoch : UInt64
  heartbeatLive : Bool
  reconnectPending : Bool
  deriving Repr, DecidableEq

namespace Machine

/-- A machine at rest. -/
def start (policy : BackoffPolicy) (active : Bool) : Machine where
  state := .disconnected
  policy
  active
  alive := true
  attempt := 0
  epoch := 0
  heartbeatLive := false
  reconnectPending := false

/-- The delay that the next transient close would schedule. -/
def nextDelay (m : Machine) : Nat := m.policy.delay (m.attempt + 1)

/-- A step of the machine: a new state and the effects on the way, in order. -/
abbrev Step := Machine → Machine × List Effect

/-- One step after the other. -/
def andThen (first second : Step) : Step := fun m =>
  let (m₁, before) := first m
  let (m₂, after) := second m₁
  (m₂, before ++ after)

/-- A step without effects. -/
def quietly (f : Machine → Machine) : Step := fun m => (f m, [])

/-- A step that only has an effect. -/
def emit (e : Machine → Effect) : Step := fun m => (m, [e m])

/-- Nothing follows. -/
def ignore : Step := fun m => (m, [])

/-- Stops the timers that run. -/
def stopTimers : Step := fun m =>
  ({ m with heartbeatLive := false, reconnectPending := false },
    (if m.heartbeatLive then [.stopHeartbeat] else [])
      ++ (if m.reconnectPending then [.cancelReconnect] else []))

/-- Goes over to a state, and says so if it is another one. -/
def transition (next : ConnectionState) : Step := fun m =>
  if m.state = next then (m, []) else ({ m with state := next }, [.stateChanged next])

/-- Opens the socket of a new epoch. -/
def beginConnect : Step :=
  andThen stopTimers <|
  andThen (quietly fun m => { m with epoch := m.epoch + 1 }) <|
  andThen (transition .connecting) <|
  emit fun m => .openSocket m.epoch

/-- A socket is opening or open. -/
def hasSocket (m : Machine) : Bool :=
  m.state = .connecting || m.state = .connected

/-- A connection is asked for. -/
def onConnect : Step := fun m =>
  if m.active && m.state = .disconnected then
    andThen (quietly fun m => { m with attempt := 0 }) beginConnect m
  else ignore m

/-- A socket has opened. -/
def onOpened (epoch : UInt64) : Step := fun m =>
  if epoch = m.epoch && m.state = .connecting then
    (andThen (quietly fun m => { m with attempt := 0 }) <|
      andThen (transition .connected) <|
      andThen stopTimers <|
      andThen (quietly fun m => { m with heartbeatLive := true }) <|
      emit fun _ => .startHeartbeat) m
  else ignore m

/-- Goes to wait for the next attempt. -/
def scheduleReconnect : Step := fun m =>
  let delay := m.nextDelay
  (andThen (transition .reconnecting) <|
    andThen (quietly fun m => { m with reconnectPending := true }) <|
    emit fun m => .scheduleReconnect m.epoch delay) m

/-- A socket has closed. A rejection is final, anything else is tried again. -/
def onClosed (epoch : UInt64) (code : UInt16) : Step := fun m =>
  if epoch = m.epoch && m.hasSocket then
    andThen stopTimers
      (if (CloseCode.ofCode code).isTerminal then transition .disconnected else scheduleReconnect)
      m
  else ignore m

/-- A reconnect timer has fired. Attempts are counted as far as 32 bits go. -/
def onReconnectDue (epoch : UInt64) : Step := fun m =>
  if epoch = m.epoch && m.state = .reconnecting && m.reconnectPending then
    andThen
      (quietly fun m =>
        { m with
          reconnectPending := false
          attempt := if m.attempt = 0xFFFFFFFF then m.attempt else m.attempt + 1 })
      beginConnect m
  else ignore m

/-- A disconnection is asked for. -/
def onDisconnect : Step :=
  andThen stopTimers <|
  andThen (fun m => (m, if m.hasSocket then [.closeSocket] else [])) <|
  andThen (quietly fun m => { m with epoch := m.epoch + 1, attempt := 0 }) <|
  transition .disconnected

/-- What follows from an event. -/
def handle (m : Machine) (event : Event) : Machine × List Effect :=
  if m.alive then
    match event with
    | .connect => onConnect m
    | .opened epoch => onOpened epoch m
    | .closed epoch code => onClosed epoch code m
    | .reconnectDue epoch => onReconnectDue epoch m
    | .disconnect => onDisconnect m
    | .shutdown => andThen onDisconnect (quietly fun m => { m with alive := false }) m
  else (m, [])

end Machine

end LiveBoard.Connection
