import LiveBoard.CommandLine.Report
import LiveBoard.Session.Fetch
import LiveBoard.Task.Lookup
import LiveBoard.Terminal.TaskTable

/-!
# Commands on tasks

The tasks of a board are listed over HTTP. Moving and creating a task needs a session: the command
waits until the session has synced with the relay, says what it wants, and waits until the relay has
confirmed it. What it has said before the relay confirms is not taken back.

## Main definitions

* `CommandLine.listTasks`, `CommandLine.moveTask`, `CommandLine.createTask`: the commands.
* `CommandLine.sync`: a session that has synced.
-/

namespace LiveBoard.CommandLine

open Terminal

/-- What went wrong when tasks were fetched, followed by the reason if it has one. -/
def fetchChain : FetchError → List String
  | .settings e => e.chain
  | e => [e.message]

/-- Lists the tasks of the board. -/
def listTasks (settings : Settings) (s : Surroundings) : Report :=
  match settings.fetchTasks fun address q => s.network.ask s.moment address q with
  | .ok tasks => s.done (taskTable tasks)
  | .error e => s.failed (fetchChain e)

/-- What a command says that may not connect. -/
def notConfigured : String :=
  "Board sync is not configured. Set a token with --token or BOARDSYNC_TOKEN."

/-- The status that a word names. -/
def readStatus (word : String) : Except (List String) Status :=
  match Status.parse word with
  | some status => .ok status
  | none =>
    .error ["Unknown status '" ++ word ++ "'. Use inbox, in_progress, review or done."]

/-- The report of a command that ends its session. -/
def closing (l : Link) (lines : List Line) (ending : Ending) (waited : Nat) (s : Surroundings) :
    Report :=
  ⟨lines, ending, waited, (l.command s.moment .shutdown).network⟩

/-- The session has the tasks of the relay. -/
def hasSynced (l : Link) : Bool :=
  l.session.state = .connected && l.session.board.store.authoritative

/-- A session that has synced with the relay, or the report of a command that could not have one.
Without patience there is no time for an answer. -/
def sync (settings : Settings) (patience : Nat) (s : Surroundings) : Except Report Link :=
  if !settings.isActive then .error (s.failed [notConfigured])
  else
    match Link.start s.moment settings none s.network with
    | .error e => .error (s.failed e.chain)
    | .ok l =>
      if 0 < patience && hasSynced l then .ok l
      else
        let state := if patience = 0 then .connecting else l.session.state
        let text := "Could not sync board " ++ settings.boardId ++ " (state: " ++ state.name ++ ")"
        .error (closing l [] (.failed [text]) patience s)

/-- The mark of success. -/
def tick : Span := ⟨{ bold := true, colour := some .green }, "✓"⟩

/-- The relay has moved the task: the board shows it with the status, at another time than
before. -/
def isMoved (before : Task) (status : Status) (l : Link) : Bool :=
  match l.session.board.store.task? before.id with
  | some t => t.status = status && t.updatedAt != before.updatedAt
  | none => false

/-- Moves a task of a session that has synced. -/
def moveIn (l : Link) (id : String) (status : Status) (patience : Nat) (s : Surroundings) :
    Report :=
  match Task.resolve l.session.board.store.tasks id with
  | .error e => closing l [] (.failed [e.message]) 0 s
  | .ok before =>
    if before.status = status then
      closing l
        [spaced [tick, coloured .cyan before.id, plain ("is already " ++ status.name)]] .done 0 s
    else
      let (_, l) := l.moveTask s.moment before.id status
      if isMoved before status l then
        closing l
          [spaced [tick, plain "Moved", coloured .cyan before.id, plain "to", bold status.name]]
          .done 0 s
      else
        closing l []
          (.failed ["Move was not confirmed within " ++ toString patience ++ "s"]) patience s

/-- Moves a task. -/
def moveTask (settings : Settings) (id word : String) (patience : Nat) (s : Surroundings) :
    Report :=
  match readStatus word with
  | .error chain => s.failed chain
  | .ok status =>
    match sync settings patience s with
    | .error report => report
    | .ok l => moveIn l id status patience s

/-- The task that the relay has created: of this title, and not among those before. -/
def created? (before : List Task) (title : String) (l : Link) : Option Task :=
  l.session.board.store.tasks.find? fun t =>
    t.title == title && !(before.map fun b => b.id).contains t.id

/-- Creates a task in a session that has synced. -/
def createIn (l : Link) (title : String) (status : Status) (assignee : Option String)
    (patience : Nat) (s : Surroundings) : Report :=
  let before := l.session.board.store.tasks
  let l := l.createTask s.moment title status assignee
  match created? before title l with
  | some t =>
    closing l
      [[tick, plain " Created task: ", coloured .cyan t.title, plain " (", dim t.id, plain ")"]]
      .done 0 s
  | none =>
    closing l []
      (.failed ["Create was not confirmed within " ++ toString patience ++ "s"]) patience s

/-- Creates a task. -/
def createTask (settings : Settings) (title word : String) (assignee : Option String)
    (patience : Nat) (s : Surroundings) : Report :=
  match readStatus word with
  | .error chain => s.failed chain
  | .ok status =>
    match sync settings patience s with
    | .error report => report
    | .ok l => createIn l title status assignee patience s

end LiveBoard.CommandLine
