import LiveBoard.CommandLine.TaskCommands
import LiveBoard.Terminal.BoardView
import LiveBoard.Terminal.SettingsView

/-!
# Running a command

All commands resolve the settings first, even those that have no use for them. Two commands go on
until they are stopped: one that follows a board, and one that runs a relay.

## Main definitions

* `CommandLine.run`: what comes of what people ask for.
-/

namespace LiveBoard.CommandLine

open Terminal

/-! ### Following a board -/

/-- The tasks to begin with. If they cannot be fetched the board is empty at first. -/
def seedTasks (settings : Settings) (isSeeded : Bool) (s : Surroundings) : Option (List Task) :=
  if isSeeded then
    (settings.fetchTasks fun address q => s.network.ask s.moment address q).toOption
  else none

/-- The line above everything else that is shown of a board. -/
def watchTitle (boardId : String) : List Line :=
  [[plain "  ", ⟨{ bold := true, colour := some .cyan }, "boardsync"⟩, plain " ", bold boardId,
    plain "  ", dim "Ctrl+C to stop"], line ""]

/-- What a session shows when it begins: its connection, and the board once it has synced. -/
def watchLines (settings : Settings) (l : Link) : List Line :=
  watchTitle settings.boardId ++ [connectionLine settings.boardId l.session.state]
    ++ if l.session.board.store.authoritative then
        line "" :: boardView l.session.board.store ++ [line ""]
      else []

/-- Follows a board. -/
def watch (settings : Settings) (isSeeded : Bool) (s : Surroundings) : Report :=
  if !settings.isActive then s.failed [notConfigured]
  else
    match Link.start s.moment settings (seedTasks settings isSeeded s) s.network with
    | .error e => s.failed e.chain
    | .ok l => ⟨watchLines settings l, .following, 0, l.network⟩

/-! ### Running a relay -/

/-- The relay that is asked for. -/
def ServeRequest.relay (r : ServeRequest) (m : Moment) : Relay :=
  let tasks (board : String) : List Task :=
    if r.hasDemoTasks then Relay.demoTasks board m.now else []
  r.boards.foldl (fun relay board => relay.putBoard board (tasks board) m.now)
    (.ofTokens r.tokens)

/-- What is shown when a relay begins. -/
def ServeRequest.lines (r : ServeRequest) (address : ListenAddress) : List Line :=
  [line "",
    [plain "  ", ⟨{ bold := true, colour := some .cyan }, "boardsync"⟩, plain " ", bold "Relay"],
    line "",
    [plain "  ", coloured .green "API", plain ("       http://" ++ address.print ++ "/api/v1")]]
  ++ r.boards.map (fun board =>
    [plain "  ", coloured .green "Board",
      plain ("      ws://" ++ address.print ++ "/ws/board/" ++ board ++ "/sync")])
  ++ (if r.tokens.isEmpty then
      [[plain "  ", coloured .yellow "Any non-empty token is accepted"]]
    else [])
  ++ [line "", [plain "  ", dim "Ctrl+C to stop"], line ""]

/-- Runs a relay. -/
def serve (r : ServeRequest) (s : Surroundings) : Report :=
  match ListenHost.read? r.host.toList with
  | none =>
    s.failed ["Invalid listen address " ++ r.host ++ ":" ++ toString r.port,
      "invalid socket address syntax"]
  | some host =>
    let address : ListenAddress := ⟨host, r.port⟩
    ⟨r.lines address, .serving (r.relay s.moment) address, 0, s.network⟩

/-! ### Showing settings -/

/-- Shows the settings as a file would hold them, with the token masked. -/
def showToml (settings : Settings) (s : Surroundings) : Report :=
  match { settings with token := settings.token.map fun _ => "********" }.tomlLines? with
  | some lines => s.done (lines.map line)
  | none => s.failed ["out-of-range value for u64 type"]

/-- Shows the settings and where they were read. -/
def showSettings (settings : Settings) (named : Option String) (s : Surroundings) : Report :=
  s.done (settingsView settings (named.or (Settings.defaultFile s.environment s.files)))

/-- Shows where the user keeps the settings. -/
def showPath (s : Surroundings) : Report :=
  match Settings.defaultPath s.environment with
  | some path => s.done [line path]
  | none => s.failed ["No config directory on this platform"]

/-! ### All commands -/

/-- What comes of what people ask for, under their settings. -/
def Request.run (named : Option String) (settings : Settings) (s : Surroundings) :
    Request → Report
  | .watch isSeeded => CommandLine.watch settings isSeeded s
  | .listTasks => CommandLine.listTasks settings s
  | .moveTask id word patience => CommandLine.moveTask settings id word patience s
  | .createTask title word assignee patience =>
    CommandLine.createTask settings title word assignee patience s
  | .serve r => CommandLine.serve r s
  | .showSettings true => showToml settings s
  | .showSettings false => CommandLine.showSettings settings named s
  | .settingsPath => showPath s

/-- What comes of a command line. -/
def run (i : Invocation) (s : Surroundings) : Report :=
  match resolveSettings i.overrides s with
  | .error chain => s.failed chain
  | .ok settings => i.request.run i.overrides.config settings s

end LiveBoard.CommandLine
