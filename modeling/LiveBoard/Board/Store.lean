import LiveBoard.Message.Basic
import LiveBoard.Suggestion.Buffer
import LiveBoard.Task.Columns

/-!
# The board of a client

What a client knows about a board. The tasks may be seeded from elsewhere until the relay sends a
snapshot; from then on only its messages and the client's own moves change them, and every new
snapshot replaces them all. No two tasks have the same id.

Every operation says whether it has done anything.

## Main definitions

* `dedupById`: a list of tasks with the first of every id.
* `BoardStore`: the board of a client, and its operations.
-/

namespace LiveBoard

/-- The tasks whose id is in neither `seen` nor an earlier task. -/
def dedupFrom (seen : List String) : List Task → List Task
  | [] => []
  | t :: ts =>
    if seen.contains t.id then dedupFrom seen ts else t :: dedupFrom (t.id :: seen) ts

/-- The first task of every id, in order. -/
def dedupById (tasks : List Task) : List Task := dedupFrom [] tasks

/-- The list with its first element that satisfies `p` replaced by `f` of it. -/
def updateFirst {α : Type} (p : α → Bool) (f : α → α) : List α → List α
  | [] => []
  | a :: as => if p a then f a :: as else a :: updateFirst p f as

/-- The board of a client. -/
structure BoardStore where
  tasks : List Task
  suggestions : SuggestionBuffer
  /-- The relay has sent a snapshot. -/
  authoritative : Bool
  /-- The time of the last snapshot. -/
  snapshotAt : Option String
  deriving Repr, DecidableEq

namespace BoardStore

/-- The board of a client that knows nothing. -/
def empty : BoardStore := ⟨[], .empty, false, none⟩

/-- The task with an id. -/
def task? (s : BoardStore) (id : String) : Option Task := s.tasks.find? fun t => t.id == id

/-- A task with this id is known. -/
def contains (s : BoardStore) (id : String) : Bool := (s.task? id).isSome

/-- The number of tasks of every status. -/
def counts (s : BoardStore) : List (Status × Nat) := countByStatus s.tasks

/-- Takes tasks from elsewhere, as long as the relay has not sent a snapshot. -/
def seed (tasks : List Task) (s : BoardStore) : Bool × BoardStore :=
  if s.authoritative then (false, s) else (true, { s with tasks := dedupById tasks })

/-- The board seeded with tasks from elsewhere. -/
def seeded (tasks : List Task) : BoardStore := (seed tasks empty).2

/-- The relay sends a snapshot: it replaces all tasks. -/
def applySnapshot (snapshot : Snapshot) (s : BoardStore) : Bool × BoardStore :=
  (true, { s with
    tasks := dedupById snapshot.tasks
    authoritative := true
    snapshotAt := some snapshot.timestamp })

/-- A task has changed: it is patched, if it is known. -/
def applyUpdate (u : TaskUpdate) (s : BoardStore) : Bool × BoardStore :=
  if s.contains u.taskId then
    (true, { s with
      tasks := updateFirst (fun t => t.id == u.taskId) (fun t => t.apply u.changes) s.tasks })
  else (false, s)

/-- A task is new: it goes to the front, unless its id is known. -/
def applyCreated (t : Task) (s : BoardStore) : Bool × BoardStore :=
  if s.contains t.id then (false, s) else (true, { s with tasks := t :: s.tasks })

/-- A task is gone. -/
def applyDeleted (id : String) (s : BoardStore) : Bool × BoardStore :=
  let kept := s.tasks.filter fun t => t.id != id
  (kept.length != s.tasks.length, { s with tasks := kept })

/-- An agent suggests something. -/
def applySuggestion (suggestion : Suggestion) (s : BoardStore) : Bool × BoardStore :=
  let (taken, suggestions) := s.suggestions.push suggestion
  (taken, { s with suggestions })

/-- The client moves a task before the relay has confirmed it. -/
def moveLocally (id : String) (status : Status) (s : BoardStore) : Bool × BoardStore :=
  match s.task? id with
  | some t =>
    if t.status = status then (false, s)
    else
      (true, { s with
        tasks := updateFirst (fun t => t.id == id) (fun t => { t with status }) s.tasks })
  | none => (false, s)

/-- The operation that a message of the relay asks for, if it asks for any. -/
def operation? : ServerMessage → Option (BoardStore → Bool × BoardStore)
  | .boardState snapshot => some (applySnapshot snapshot)
  | .taskUpdated u => some (applyUpdate u)
  | .taskCreated c => some (applyCreated c.task)
  | .taskDeleted d => some (applyDeleted d.taskId)
  | .suggestionNew suggestion => some (applySuggestion suggestion)
  | .heartbeatAck _ => none
  | .unknown => none

end BoardStore

end LiveBoard
