import LiveBoard.Connection.Transport

/-!
# Sessions

A session of a client with a board: a shared board that a transport keeps up to date. The client's
own moves show at once, before the relay has confirmed them; tasks that it wants created appear
when the relay says so. Nothing is sent without a connection, and nothing is taken back.

## Main definitions

* `Session`: a board with its transport.
* `Session.start`: a session that has begun to connect.
* `Session.wake`: something happens to the transport.
* `Session.moveTask`, `Session.createTask`: what the client wants.
-/

namespace LiveBoard

/-- A session with a board. -/
structure Session where
  boardId : String
  board : SharedBoard
  transport : Transport
  deriving Repr, DecidableEq

namespace Session

/-- The board hears what its transport tells it. -/
def hearAll (acts : List Act) (b : SharedBoard) : SharedBoard :=
  acts.foldl (fun b act =>
    match act with
    | .tell n => b.hear n
    | _ => b) b

/-- A session whose transport has done something. -/
def after (done : Transport.Done) (s : Session) : Session × List Act :=
  ({ s with transport := done.1, board := hearAll done.2 s.board }, done.2)

/-- Something wakes the transport. -/
def wake (w : Wake) (s : Session) : Session × List Act := s.after (s.transport.step w)

/-- A session that has begun to connect. Its tasks may be seeded from elsewhere. -/
def start (settings : Settings) (initial : Option (List Task)) :
    Except SettingsError (Session × List Act) := do
  let transport ← Transport.spawn settings
  let store := match initial with
    | some tasks => BoardStore.seeded tasks
    | none => .empty
  let s : Session := ⟨settings.boardId, .ofStore store, transport⟩
  return s.wake (.command .connect true)

/-- The state of the connection. -/
def state (s : Session) : ConnectionState := s.transport.published

/-- Changes the board of a session. -/
def update (f : BoardStore → Bool × BoardStore) (s : Session) : Bool × Session :=
  let (changed, board) := s.board.update f
  (changed, { s with board })

/-- Takes tasks from elsewhere, as long as the relay has not sent a snapshot. -/
def seed (tasks : List Task) (s : Session) : Bool × Session := s.update (BoardStore.seed tasks)

/-- Moves a task: on the board at once, and at the relay if there is a connection. Says whether
the board has changed. -/
def moveTask (id : String) (status : Status) (taken : Bool) (s : Session) :
    Bool × Session × List Act :=
  let (changed, s) := s.update (BoardStore.moveLocally id status)
  (changed, s.after (s.transport.offer (.taskMove id status) taken))

/-- Asks the relay for a new task. -/
def createTask (title : String) (status : Status) (assignee : Option String) (taken : Bool)
    (s : Session) : Session × List Act :=
  s.after (s.transport.offer (.taskCreate title status assignee) taken)

end Session

end LiveBoard
