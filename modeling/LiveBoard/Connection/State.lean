import LiveBoard.Json.Decoder

/-!
# Connection states and close codes

The states of a connection to a relay, and what the code of a closed connection means for it. The
codes that reject the session itself are terminal: there is no use in trying again.

## Main definitions

* `ConnectionState`: the states.
* `CloseCode`: the meaning of close codes, with `CloseCode.isTerminal`.
-/

namespace LiveBoard

open Json

/-- Connectivity of a session. -/
inductive ConnectionState
  | connecting
  | connected
  | reconnecting
  | disconnected
  deriving Repr, DecidableEq

namespace ConnectionState

/-- All states. -/
def all : List ConnectionState := [.connecting, .connected, .reconnecting, .disconnected]

/-- The name of a state. -/
def name : ConnectionState → String
  | .connecting => "connecting"
  | .connected => "connected"
  | .reconnecting => "reconnecting"
  | .disconnected => "disconnected"

/-- Reads a state by its name. -/
def decoder : Decoder ConnectionState :=
  Decoder.choice (all.map fun s => (s.name, s))

end ConnectionState

/-- What a close code means. -/
inductive CloseCode
  | unauthorized
  | boardNotFound
  | other (code : UInt16)
  deriving Repr, DecidableEq

namespace CloseCode

/-- The meaning of the code of a closed connection. -/
def ofCode (code : UInt16) : CloseCode :=
  if code = 4001 then .unauthorized
  else if code = 4004 then .boardNotFound
  else .other code

/-- The code of a connection that was lost without a closing frame. -/
def abnormal : UInt16 := 1006

/-- The meaning of the status with which a handshake was refused. -/
def ofHandshakeStatus (status : UInt16) : CloseCode :=
  if status = 401 ∨ status = 403 then .unauthorized
  else if status = 404 then .boardNotFound
  else .other abnormal

/-- The code of a meaning. -/
def code : CloseCode → UInt16
  | .unauthorized => 4001
  | .boardNotFound => 4004
  | .other code => code

/-- The session was rejected, so that connecting again is of no use. -/
def isTerminal : CloseCode → Bool
  | .unauthorized => true
  | .boardNotFound => true
  | .other _ => false

end CloseCode

end LiveBoard
