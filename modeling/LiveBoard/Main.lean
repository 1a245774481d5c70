import LiveBoard.CommandLine.Run

/-!
# The program

The program reads its command line, its environment and the one file of settings that it needs, and
writes the report of its command. It has no sockets of its own: to its commands the network is one
on which no relay can be reached, and a relay that it runs has no guests.
-/

namespace LiveBoard.CommandLine

/-- The text of a usage error. -/
def UsageError.text : UsageError → String
  | .displayHelp | .helpOnMissing =>
    "Real-time board sync client\n\nCommands: watch, task, serve, config, help"
  | .displayVersion => "boardsync 0.3.0"
  | .missingSubcommand => "error: a subcommand is required"
  | .invalidSubcommand => "error: unrecognized subcommand"
  | .unknownArgument => "error: unexpected argument"
  | .missingArgument => "error: a required argument was not provided"
  | .invalidValue => "error: a value is required but none was supplied"
  | .badValue => "error: invalid value"
  | .tooManyValues => "error: unexpected value"
  | .conflict => "error: an argument cannot be used multiple times"

/-- The exit code of a usage error. -/
def UsageError.exitCode : UsageError → UInt32
  | .displayHelp | .displayVersion => 0
  | _ => 2

/-- The text of a failure: what went wrong, and the reasons below it. -/
def failureText : List String → String
  | [] => "Error"
  | [what] => "Error: " ++ what
  | what :: reasons =>
    "Error: " ++ what ++ "\n\nCaused by:" ++ String.join (reasons.map fun r => "\n    " ++ r)

/-- The files of a program that has looked at one path only. -/
def oneFile (path : String) (content : Except String String) (isThere : Bool) : Files where
  has p := p == path && isThere
  read p := if p == path then content else .error "No such file or directory (os error 2)"

/-- Reads the file at a path, and says whether anything is there. -/
def readPath (path : String) : IO (Except String String × Bool) := do
  try
    return (.ok (← IO.FS.readFile path), true)
  catch
    | .noFileOrDirectory .. => return (.error "No such file or directory (os error 2)", false)
    | e => return (.error (toString e), true)

/-- The environment of the program, as far as it matters. -/
def readEnvironment : IO Settings.Environment := do
  let names := ["HOME", "XDG_CONFIG_HOME", "BOARDSYNC_API_URL", "BOARDSYNC_TOKEN",
    "BOARDSYNC_BOARD"]
  let mut known := #[]
  for name in names do
    known := known.push (name, ← IO.getEnv name)
  return fun name => (known.find? fun v => v.1 == name).bind (·.2)

/-- What the command of the program sees. -/
def gather (i : Invocation) : IO Surroundings := do
  let environment ← readEnvironment
  let path := (i.overrides.config.or (Settings.defaultPath environment)).getD ""
  let (content, isThere) ← readPath path
  return {
    environment
    files := oneFile path content isThere
    network := ⟨⟨false, .domain [], 0⟩, .ofTokens [], false⟩
    moment := ⟨"", "", ""⟩ }

/-- Runs the command of a command line. -/
def execute (arguments : List String) : IO UInt32 := do
  match Invocation.read arguments with
  | .error e =>
    if e.exitCode = 0 then IO.println e.text else IO.eprintln e.text
    return e.exitCode
  | .ok i =>
    let report := run i (← gather i)
    let output ← IO.getStdout
    output.putStr (Terminal.render (← output.isTty) report.lines)
    output.flush
    match report.ending with
    | .failed chain =>
      IO.eprintln (failureText chain)
      return 1
    | .done => return 0
    | .following | .serving _ _ =>
      discard (← IO.getStdin).getLine
      return 0

end LiveBoard.CommandLine

/-- The program. -/
def main (arguments : List String) : IO UInt32 := LiveBoard.CommandLine.execute arguments
