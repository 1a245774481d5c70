import LiveBoard.Suggestion.Basic
import LiveBoard.Task.Basic

/-!
# Messages

What a relay and its clients tell each other about a board.

## Main definitions

* `ServerMessage`: what the relay says.
* `ClientMessage`: what a client says.
-/

namespace LiveBoard

/-- The whole board at a moment. -/
structure Snapshot where
  tasks : List Task
  timestamp : String
  deriving Repr, DecidableEq

/-- A task has changed. -/
structure TaskUpdate where
  taskId : String
  changes : Patch
  updatedBy : Option String
  timestamp : String
  deriving Repr, DecidableEq

/-- A task is new. -/
structure TaskCreated where
  task : Task
  timestamp : String
  deriving Repr, DecidableEq

/-- A task is gone. -/
structure TaskDeleted where
  taskId : String
  timestamp : String
  deriving Repr, DecidableEq

/-- What the relay says to its clients. -/
inductive ServerMessage
  | boardState (snapshot : Snapshot)
  | taskUpdated (update : TaskUpdate)
  | taskCreated (created : TaskCreated)
  | taskDeleted (deleted : TaskDeleted)
  | suggestionNew (suggestion : Suggestion)
  | heartbeatAck (id : Option String)
  /-- A message of a type that this library does not know. -/
  | unknown
  deriving Repr, DecidableEq

/-- The name of a kind of message. -/
def ServerMessage.kind : ServerMessage → String
  | .boardState _ => "board.state"
  | .taskUpdated _ => "task.updated"
  | .taskCreated _ => "task.created"
  | .taskDeleted _ => "task.deleted"
  | .suggestionNew _ => "suggestion.new"
  | .heartbeatAck _ => "heartbeat_ack"
  | .unknown => "unknown"

/-- What a client says to the relay. -/
inductive ClientMessage
  | taskMove (taskId : String) (status : Status)
  | taskCreate (title : String) (status : Status) (assigneeId : Option String)
  | heartbeat (id : Option String)
  deriving Repr, DecidableEq

/-- The name of a kind of message. -/
def ClientMessage.kind : ClientMessage → String
  | .taskMove _ _ => "task.move"
  | .taskCreate _ _ _ => "task.create"
  | .heartbeat _ => "heartbeat"

end LiveBoard
