import LiveBoard.Board.Listener
import LiveBoard.Connection.Machine
import LiveBoard.Settings.Addresses

/-!
# The transport

What carries out the effects of the connection machine. The transport has four slots: for the
socket, for an attempt to open one, for the heartbeat and for the timer of the next attempt. It
sleeps until a command comes or one of the filled slots has something to say, and answers with
acts: what is to be done outside, and what its listener is told.

## Main definitions

* `Wake`: what can wake a transport, and `Transport.isPossible`, whether its slot is filled.
* `Act`: what a transport does.
* `Transport.spawn`, `Transport.step`: a transport, and one wake-up of it.
-/

namespace LiveBoard

open Connection

/-- What the owner of a transport asks of it. -/
inductive Command
  | connect
  | disconnect
  | send (m : ClientMessage)
  | shutdown
  deriving Repr, DecidableEq

/-- What comes out of a socket. -/
inductive Frame
  | text (s : String)
  /-- A closing frame, perhaps with a code. -/
  | close (code : Option UInt16)
  /-- A frame that carries no message. -/
  | other
  /-- The socket has failed. -/
  | failed
  /-- The stream has ended without a closing frame. -/
  | ended
  deriving Repr, DecidableEq

/-- How an attempt to open a socket ends. -/
inductive Handshake
  | opened
  /-- The other side has refused with a status. -/
  | refused (status : UInt16)
  /-- There was no answer. -/
  | failed
  deriving Repr, DecidableEq

/-- What can wake a transport. -/
inductive Wake
  /-- A command. `taken` says whether the socket takes what is sent on it. -/
  | command (c : Command) (taken : Bool)
  | frame (f : Frame)
  | handshake (h : Handshake)
  /-- A heartbeat is due, at the time that names it. -/
  | heartbeat (id : String) (taken : Bool)
  | reconnectDue
  deriving Repr, DecidableEq

/-- What a transport does. -/
inductive Act
  /-- Its listener is told something. -/
  | tell (n : Notice)
  /-- It tries to open a socket. -/
  | dial (address : Url.Address)
  /-- It sends a text. -/
  | transmit (text : String)
  /-- It closes its socket. -/
  | hangUp
  deriving Repr, DecidableEq

/-- A transport. -/
structure Transport where
  machine : Machine
  /-- The address of the socket, unless the settings forbid to connect. -/
  endpoint : Option Url.Address
  /-- The state of the connection, as its owner sees it. -/
  published : ConnectionState
  /-- The milliseconds between two heartbeats. -/
  heartbeatInterval : UInt64
  /-- There is a socket. -/
  socket : Bool
  /-- The epoch of the attempt that is under way. -/
  pending : Option UInt64
  /-- Heartbeats are sent. -/
  heartbeat : Bool
  /-- The epoch and the delay of the timer for the next attempt. -/
  timer : Option (UInt64 × Nat)
  running : Bool
  deriving Repr, DecidableEq

namespace Transport

/-- A transport at rest. Settings that forbid to connect give one that never does; otherwise
they must lead to an address. -/
def spawn (s : Settings) : Except SettingsError Transport := do
  let endpoint ← if s.isActive then s.socketAddress.map some else .ok none
  return {
    machine := .start s.backoff endpoint.isSome
    endpoint
    published := .disconnected
    heartbeatInterval := s.heartbeatInterval
    socket := false
    pending := none
    heartbeat := false
    timer := none
    running := true }

/-- A transport with what it has done. -/
abbrev Done := Transport × List Act

/-- Carries out an effect of the machine. -/
def execute (e : Effect) (t : Transport) : Done :=
  match e with
  | .openSocket epoch =>
    match t.endpoint with
    | some address => ({ t with socket := false, pending := some epoch }, [.dial address])
    | none => ({ t with socket := false }, [])
  | .closeSocket =>
    ({ t with socket := false, pending := none }, if t.socket then [.hangUp] else [])
  | .startHeartbeat => ({ t with heartbeat := true }, [])
  | .stopHeartbeat => ({ t with heartbeat := false }, [])
  | .scheduleReconnect epoch delay => ({ t with timer := some (epoch, delay) }, [])
  | .cancelReconnect => ({ t with timer := none }, [])
  | .stateChanged state => ({ t with published := state }, [.tell (.connectionState state)])

/-- Carries out effects, one after the other. -/
def executeAll : List Effect → Transport → Done
  | [], t => (t, [])
  | e :: es, t =>
    let (t, before) := execute e t
    let (t, after) := executeAll es t
    (t, before ++ after)

/-- Passes an event to the machine and carries out what follows. -/
def apply (event : Event) (t : Transport) : Done :=
  let (machine, effects) := t.machine.handle event
  executeAll effects { t with machine }

/-- The socket is gone. -/
def lose (code : UInt16) (t : Transport) : Done :=
  apply (.closed t.machine.epoch code) { t with socket := false }

/-- Sends a message, if there is a connection. A socket that does not take it is lost. -/
def send (m : ClientMessage) (taken : Bool) (t : Transport) : Done :=
  if t.machine.state = .connected && t.socket then
    if taken then (t, [.transmit m.encode]) else lose CloseCode.abnormal t
  else (t, [])

/-- Something comes out of the socket. -/
def onFrame (f : Frame) (t : Transport) : Done :=
  match f with
  | .text s =>
    match ServerMessage.decode s with
    | .ok m => (t, (Notice.ofMessage? m).toList.map .tell)
    | .error _ => (t, [])
  | .other => (t, [])
  | .close code => lose (code.getD CloseCode.abnormal) t
  | .failed => lose CloseCode.abnormal t
  | .ended => lose CloseCode.abnormal t

/-- An attempt to open a socket has ended. -/
def onHandshake (h : Handshake) (t : Transport) : Done :=
  match t.pending with
  | none => (t, [])
  | some epoch =>
    let t := { t with pending := none }
    match h with
    | .opened =>
      if epoch = t.machine.epoch then apply (.opened epoch) { t with socket := true } else (t, [])
    | .refused status => apply (.closed epoch (CloseCode.ofHandshakeStatus status).code) t
    | .failed => apply (.closed epoch CloseCode.abnormal) t

/-- A command comes. -/
def onCommand (c : Command) (taken : Bool) (t : Transport) : Done :=
  match c with
  | .connect => apply .connect t
  | .disconnect => apply .disconnect t
  | .send m => send m taken t
  | .shutdown =>
    let (t, acts) := apply .shutdown t
    ({ t with running := false }, acts)

/-- The slot that a wake-up comes from is filled. -/
def isPossible (w : Wake) (t : Transport) : Bool :=
  t.running &&
    match w with
    | .command _ _ => true
    | .frame _ => t.socket
    | .handshake _ => t.pending.isSome
    | .heartbeat _ _ => t.heartbeat
    | .reconnectDue => t.timer.isSome

/-- One wake-up. Nothing happens where the slot is empty. -/
def step (w : Wake) (t : Transport) : Done :=
  if t.isPossible w then
    match w with
    | .command c taken => onCommand c taken t
    | .frame f => onFrame f t
    | .handshake h => onHandshake h t
    | .heartbeat id taken => send (.heartbeat (some id)) taken t
    | .reconnectDue =>
      match t.timer with
      | none => (t, [])
      | some (epoch, _) => apply (.reconnectDue epoch) { t with timer := none }
  else (t, [])

/-- The owner wants a message sent. Without a connection it is dropped. -/
def offer (m : ClientMessage) (taken : Bool) (t : Transport) : Done :=
  if t.published = .connected then t.step (.command (.send m) taken) else (t, [])

end Transport

end LiveBoard
