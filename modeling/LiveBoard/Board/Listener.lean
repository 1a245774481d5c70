import LiveBoard.Board.Store
import LiveBoard.Connection.State
import LiveBoard.Message.Wire

/-!
# Listening to a board

A listener of a connection is told what the relay says and how the connection fares, one notice
at a time. A board that is shared between its writers and those who watch it is such a listener;
who watches it is woken whenever an operation says that it has done something.

## Main definitions

* `Notice`: what a listener is told, and `Notice.ofMessage?`, where a message goes.
* `SharedBoard`: a board with the number of times its watchers were woken.
-/

namespace LiveBoard

open Json

/-- What a listener is told. -/
inductive Notice
  | boardState (snapshot : Snapshot)
  | taskUpdated (update : TaskUpdate)
  | taskCreated (created : TaskCreated)
  | taskDeleted (deleted : TaskDeleted)
  | suggestionNew (suggestion : Suggestion)
  | heartbeatAck (id : Option String)
  | connectionState (state : ConnectionState)
  deriving Repr, DecidableEq

namespace Notice

/-- The notice of a message, if it is of a known type. -/
def ofMessage? : ServerMessage → Option Notice
  | .boardState s => some (.boardState s)
  | .taskUpdated u => some (.taskUpdated u)
  | .taskCreated c => some (.taskCreated c)
  | .taskDeleted d => some (.taskDeleted d)
  | .suggestionNew s => some (.suggestionNew s)
  | .heartbeatAck id => some (.heartbeatAck id)
  | .unknown => none

/-- The name of a kind of notice. -/
def name : Notice → String
  | .boardState _ => "board_state"
  | .taskUpdated _ => "task_updated"
  | .taskCreated _ => "task_created"
  | .taskDeleted _ => "task_deleted"
  | .suggestionNew _ => "suggestion_new"
  | .heartbeatAck _ => "heartbeat_ack"
  | .connectionState _ => "connection_state"

/-- What a notice says, in written form. -/
def argument : Notice → Value
  | .boardState s => .object s.fields
  | .taskUpdated u => .object u.fields
  | .taskCreated c => .object c.fields
  | .taskDeleted d => .object d.fields
  | .suggestionNew s => s.toValue
  | .heartbeatAck id => .optionalString id
  | .connectionState state => .string state.name

end Notice

/-- A board and the number of times that those who watch it were woken. -/
structure SharedBoard where
  store : BoardStore
  wakes : Nat
  deriving Repr, DecidableEq

namespace SharedBoard

/-- A board that nobody was woken for yet. -/
def ofStore (store : BoardStore) : SharedBoard := ⟨store, 0⟩

/-- Carries out an operation. Watchers are woken when it says that it has done something. -/
def update (f : BoardStore → Bool × BoardStore) (b : SharedBoard) : Bool × SharedBoard :=
  let (changed, store) := f b.store
  (changed, ⟨store, if changed then b.wakes + 1 else b.wakes⟩)

/-- What a shared board does about a notice. -/
def hear (n : Notice) (b : SharedBoard) : SharedBoard :=
  match n with
  | .boardState s => (b.update (BoardStore.applySnapshot s)).2
  | .taskUpdated u => (b.update (BoardStore.applyUpdate u)).2
  | .taskCreated c => (b.update (BoardStore.applyCreated c.task)).2
  | .taskDeleted d => (b.update (BoardStore.applyDeleted d.taskId)).2
  | .suggestionNew s => (b.update (BoardStore.applySuggestion s)).2
  | .heartbeatAck _ => b
  | .connectionState _ => b

/-- What a shared board does about a message. -/
def receive (m : ServerMessage) (b : SharedBoard) : SharedBoard :=
  match Notice.ofMessage? m with
  | some n => b.hear n
  | none => b

end SharedBoard

end LiveBoard
