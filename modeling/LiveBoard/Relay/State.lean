import LiveBoard.Board.Store
import LiveBoard.Relay.Mailbox
import LiveBoard.Text.Blank

/-!
# The relay

A relay keeps boards in memory. Every board has its tasks and the mailboxes of those who have
joined it; whatever happens to the tasks is posted to all of them. Joining takes the board as it
is and a mailbox at once, so that no message is missed in between.

Operations that need the time or a new id are given them.

## Main definitions

* `Relay`: boards and accepted tokens.
* `Relay.join`: a receiver joins a board.
* `Relay.moveTask`, `createTask`, `deleteTask`, `pushSuggestion`, `broadcast`, `putBoard`: what
  can happen to a board.
-/

namespace LiveBoard

/-- A board of a relay. -/
structure Room where
  tasks : List Task
  /-- The mailboxes of those who have joined, by their numbers. -/
  mailboxes : List (Nat × Mailbox)
  deriving Repr, DecidableEq

namespace Room

/-- A board that nobody has joined. -/
def ofTasks (tasks : List Task) : Room := ⟨tasks, []⟩

/-- Posts a message to all who have joined. -/
def post (m : ServerMessage) (room : Room) : Room :=
  { room with mailboxes := room.mailboxes.map fun b => (b.1, b.2.post m) }

/-- The board as it is at a moment. -/
def snapshot (now : String) (room : Room) : Snapshot := ⟨room.tasks, now⟩

end Room

/-- A relay. -/
structure Relay where
  /-- The tokens that are accepted. With none, every token is. -/
  tokens : List String
  rooms : List (String × Room)
  /-- The number of the next receiver. -/
  nextReceiver : Nat
  deriving Repr, DecidableEq

/-- Somebody who has joined a board. -/
structure Receiver where
  board : String
  number : Nat
  deriving Repr, DecidableEq

/-- Why somebody may not join a board. -/
inductive JoinError
  | unauthorized
  | boardNotFound
  deriving Repr, DecidableEq

namespace Relay

/-- A relay without boards. -/
def ofTokens (tokens : List String) : Relay := ⟨tokens, [], 0⟩

/-- A token is accepted: it is not blank, and among the accepted ones if there are any. Blanks at
its ends do not count. -/
def isAuthorized (token : Option String) (r : Relay) : Bool :=
  match (token.map Text.trim).filter (· ≠ "") with
  | some t => r.tokens.isEmpty || r.tokens.contains t
  | none => false

/-- The board with an id. -/
def room? (board : String) (r : Relay) : Option Room :=
  (r.rooms.find? fun x => x.1 == board).map (·.2)

/-- Changes the board with an id. -/
def changeRoom (board : String) (f : Room → Room) (r : Relay) : Relay :=
  { r with rooms := updateFirst (fun x => x.1 == board) (fun x => (x.1, f x.2)) r.rooms }

/-- The tasks of a board. -/
def tasks? (board : String) (r : Relay) : Option (List Task) := (r.room? board).map (·.tasks)

/-- A board as it is at a moment. -/
def snapshot? (board : String) (now : String) (r : Relay) : Option Snapshot :=
  (r.room? board).map (·.snapshot now)

/-! ### What happens to boards -/

/-- Makes a board, or replaces the tasks of one that exists. Those who have joined it are sent
the new tasks. -/
def putBoard (board : String) (tasks : List Task) (now : String) (r : Relay) : Relay :=
  match r.room? board with
  | some _ =>
    r.changeRoom board fun room =>
      let room := { room with tasks }
      room.post (.boardState (room.snapshot now))
  | none => { r with rooms := r.rooms ++ [(board, .ofTasks tasks)] }

/-- The patch of a move. -/
def movePatch (t : Task) (status : Status) (now : String) : Patch :=
  { Patch.ofStatus status with previousStatus := some t.status, updatedAt := some now }

/-- Moves a task. Says whether the board has such a task. -/
def moveTask (board id : String) (status : Status) (mover : Option String) (now : String)
    (r : Relay) : Bool × Relay :=
  match (r.tasks? board).bind fun ts => ts.find? fun t => t.id == id with
  | none => (false, r)
  | some t =>
    let changes := movePatch t status now
    (true, r.changeRoom board fun room =>
      { room with
        tasks := updateFirst (fun t => t.id == id) (fun t => t.apply changes) room.tasks }.post
        (.taskUpdated ⟨id, changes, mover, now⟩))

/-- A new task. -/
def newTask (board title : String) (status : Status) (assignee creator : Option String)
    (id now : String) : Task where
  id
  boardId := board
  title
  description := none
  status
  priority := "medium"
  dueAt := none
  assignedAgentId := assignee
  createdByUserId := creator
  createdAt := now
  updatedAt := now

/-- Adds a task at the front of a board that exists. -/
def addTask (board : String) (t : Task) (now : String) (r : Relay) : Bool × Relay :=
  match r.room? board with
  | none => (false, r)
  | some _ =>
    (true, r.changeRoom board fun room =>
      { room with tasks := t :: room.tasks }.post (.taskCreated ⟨t, now⟩))

/-- Creates a task at the front of a board. -/
def createTask (board title : String) (status : Status) (assignee creator : Option String)
    (id now : String) (r : Relay) : Option Task × Relay :=
  let t := newTask board title status assignee creator id now
  match r.addTask board t now with
  | (true, r) => (some t, r)
  | (false, r) => (none, r)

/-- Deletes the tasks with an id. Says whether the board had one. -/
def deleteTask (board id : String) (now : String) (r : Relay) : Bool × Relay :=
  match r.tasks? board with
  | none => (false, r)
  | some tasks =>
    if tasks.any fun t => t.id == id then
      (true, r.changeRoom board fun room =>
        { room with tasks := room.tasks.filter fun t => t.id != id }.post (.taskDeleted ⟨id, now⟩))
    else (false, r)

/-- Posts any message to those who have joined a board. Gives their number. -/
def broadcast (board : String) (m : ServerMessage) (r : Relay) : Option Nat × Relay :=
  match r.room? board with
  | none => (none, r)
  | some room => (some room.mailboxes.length, r.changeRoom board (·.post m))

/-- Posts a suggestion to those who have joined a board. Says whether the board exists. -/
def pushSuggestion (board : String) (s : Suggestion) (r : Relay) : Bool × Relay :=
  let (count, r) := r.broadcast board (.suggestionNew s)
  (count.isSome, r)

/-! ### Receivers -/

/-- Somebody with a token joins a board: the board as it is, and a mailbox for what follows. -/
def join (board : String) (token : Option String) (now : String) (r : Relay) :
    Except JoinError (Snapshot × Receiver × Relay) :=
  if r.isAuthorized token then
    match r.room? board with
    | none => .error .boardNotFound
    | some room =>
      let number := r.nextReceiver
      .ok (room.snapshot now, ⟨board, number⟩,
        { r.changeRoom board (fun room =>
            { room with mailboxes := room.mailboxes ++ [(number, .empty)] }) with
          nextReceiver := number + 1 })
  else .error .unauthorized

/-- A receiver goes away. -/
def leave (who : Receiver) (r : Relay) : Relay :=
  r.changeRoom who.board fun room =>
    { room with mailboxes := room.mailboxes.filter fun b => b.1 != who.number }

/-- The mailbox of a receiver. -/
def mailbox? (who : Receiver) (r : Relay) : Option Mailbox :=
  (r.room? who.board).bind fun room =>
    (room.mailboxes.find? fun b => b.1 == who.number).map (·.2)

/-- Puts a mailbox in the place of a receiver's. -/
def setMailbox (who : Receiver) (b : Mailbox) (r : Relay) : Relay :=
  r.changeRoom who.board fun room =>
    { room with
      mailboxes := updateFirst (fun x => x.1 == who.number) (fun x => (x.1, b)) room.mailboxes }

/-- A receiver reads all that it was sent. -/
def drain (who : Receiver) (r : Relay) : List Delivery × Relay :=
  match r.mailbox? who with
  | none => ([], r)
  | some b => (b.drain, r.setMailbox who .empty)

/-! ### A board to try out -/

/-- A few tasks, some of every status. -/
def demoTasks (board now : String) : List Task :=
  [demo "demo-1" "Triage incoming alerts" .inbox "high",
    demo "demo-2" "Write onboarding guide" .inbox "low",
    demo "demo-3" "Migrate billing worker" .inProgress "high",
    demo "demo-4" "Review retry policy" .review "medium",
    demo "demo-5" "Rotate API keys" .done "medium"]
where
  /-- One of the tasks. -/
  demo (id title : String) (status : Status) (priority : String) : Task :=
    { newTask board title status none none id now with priority }

end Relay

end LiveBoard
