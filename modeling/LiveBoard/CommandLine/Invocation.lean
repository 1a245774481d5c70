import LiveBoard.CommandLine.Reader

/-!
# What people ask the program for

The commands of the program: following a board, listing, moving and creating tasks, running a relay,
and showing settings. Some options are known to every command and say where the settings are read
and what overrides them.

## Main definitions

* `CommandLine.Overrides`: the options of every command.
* `CommandLine.Request`: what the program shall do.
* `CommandLine.Invocation.read`: what a command line asks for.
-/

namespace LiveBoard.CommandLine

/-- The options of every command. -/
structure Overrides where
  isVerbose : Bool
  /-- The file with the settings. -/
  config : Option String
  apiUrl : Option String
  token : Option String
  board : Option String
  /-- The file that the log is written to. -/
  logFile : Option String
deriving DecidableEq, Repr

/-- A relay to be run. -/
structure ServeRequest where
  host : String
  port : Nat
  boards : List String
  /-- The tokens that the relay accepts. With none it accepts any. -/
  tokens : List String
  /-- The boards begin with some tasks to try out. -/
  hasDemoTasks : Bool
deriving DecidableEq, Repr

/-- What the program shall do. -/
inductive Request
  | watch (isSeeded : Bool)
  | listTasks
  | moveTask (id status : String) (patience : Nat)
  | createTask (title status : String) (assignee : Option String) (patience : Nat)
  | serve (r : ServeRequest)
  | showSettings (asToml : Bool)
  | settingsPath
deriving DecidableEq, Repr

/-- What a command line asks for. -/
structure Invocation where
  overrides : Overrides
  request : Request
deriving DecidableEq, Repr

/-! ### The forms -/

/-- The options of every command. -/
def commonOptions : List OptionForm :=
  [⟨"verbose", some 'v', .flag⟩,
    ⟨"config", some 'c', .value .path⟩,
    ⟨"api-url", none, .value .text⟩,
    ⟨"token", none, .value .text⟩,
    ⟨"board", some 'b', .value .text⟩,
    ⟨"log-file", none, .value .path⟩,
    ⟨"help", some 'h', .help⟩,
    ⟨"version", some 'V', .version⟩]

/-- A command without commands in it. -/
def leaf (name : String) (positions : List String) (options : List OptionForm) : Form :=
  ⟨name, options ++ commonOptions, positions, []⟩

/-- A command that only holds commands. -/
def group (name : String) (commands : List Form) : Form := ⟨name, commonOptions, [], commands⟩

/-- How long to wait for a relay. -/
def timeoutOption : OptionForm := ⟨"timeout", none, .value .seconds⟩

/-- The commands on tasks. -/
def taskForm : Form :=
  group "task" [
    leaf "list" [] [],
    leaf "move" ["task-id", "to-status"] [timeoutOption],
    leaf "create" ["title"]
      [⟨"status", none, .value .text⟩, ⟨"assignee", none, .value .text⟩, timeoutOption]]

/-- The command that runs a relay. -/
def serveForm : Form :=
  leaf "serve" [] [
    ⟨"port", none, .value .port⟩,
    ⟨"host", none, .value .text⟩,
    ⟨"host-board", none, .values .text⟩,
    ⟨"accept-token", none, .values .text⟩,
    ⟨"seed-demo", none, .flag⟩]

/-- The commands on settings. -/
def configForm : Form :=
  group "config" [leaf "show" [] [⟨"toml", none, .flag⟩], leaf "path" [] []]

/-- The program. -/
def programForm : Form :=
  group "boardsync" [leaf "watch" [] [⟨"seed", none, .flag⟩], taskForm, serveForm, configForm]

/-! ### The requests -/

/-- The options of every command that a command line has given. -/
def Overrides.ofLevels (levels : List Level) : Overrides where
  isVerbose := isPresent "verbose" levels
  config := text? "config" levels
  apiUrl := text? "api-url" levels
  token := text? "token" levels
  board := text? "board" levels
  logFile := text? "log-file" levels

/-- The seconds that a command waits for a relay. -/
def patience (levels : List Level) : Nat := (number? "timeout" levels).getD 10

/-- The relay that a command line describes. -/
def ServeRequest.ofLevels (levels : List Level) : ServeRequest where
  host := (text? "host" levels).getD "127.0.0.1"
  port := (number? "port" levels).getD 8000
  boards := match texts "host-board" levels with
    | [] => ["demo"]
    | boards => boards
  tokens := texts "accept-token" levels
  hasDemoTasks := isPresent "seed-demo" levels

/-- What the commands of a command line ask for, the outermost command first. -/
def Request.ofNames (names : List String) (levels : List Level) : Option Request :=
  let argument (name : String) : String := (text? name levels).getD ""
  match names with
  | ["watch"] => some (.watch (isPresent "seed" levels))
  | ["task", "list"] => some .listTasks
  | ["task", "move"] =>
    some (.moveTask (argument "task-id") (argument "to-status") (patience levels))
  | ["task", "create"] =>
    some (.createTask (argument "title") ((text? "status" levels).getD "inbox")
      (text? "assignee" levels) (patience levels))
  | ["serve"] => some (.serve (.ofLevels levels))
  | ["config", "show"] => some (.showSettings (isPresent "toml" levels))
  | ["config", "path"] => some .settingsPath
  | _ => none

/-- Reads what a command line asks for. -/
def Invocation.read (arguments : List String) : Except UsageError Invocation := do
  let levels ← readLevels programForm arguments
  match Request.ofNames ((levels.map fun l => l.form.name).reverse.drop 1) levels with
  | some request => return ⟨.ofLevels levels, request⟩
  | none => throw .missingSubcommand

end LiveBoard.CommandLine
