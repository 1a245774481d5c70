import LiveBoard.CommandLine.Invocation
import LiveBoard.Relay.Listen
import LiveBoard.Session.Network
import LiveBoard.Settings.Location
import LiveBoard.Terminal.Style

/-!
# What comes of a command

A command sees its surroundings: the environment, the files, and a network with a relay. What comes
of it is a report: the lines that it writes, how it ends, how long it waited in vain, and the
network as it is afterwards.

## Main definitions

* `CommandLine.Surroundings`: what a command sees.
* `CommandLine.Ending`, `CommandLine.Report`: what comes of a command.
* `CommandLine.resolveSettings`: the settings of a command line.
-/

namespace LiveBoard.CommandLine

open Terminal

/-- What a command sees. -/
structure Surroundings where
  environment : Settings.Environment
  files : Files
  network : Network
  moment : Moment

/-- How a command ends. -/
inductive Ending
  | done
  /-- It fails: what went wrong, followed by the reason, if there is one, and so on. -/
  | failed (chain : List String)
  /-- It goes on showing what happens on a board. -/
  | following
  /-- It goes on running a relay. -/
  | serving (relay : Relay) (address : ListenAddress)
deriving DecidableEq, Repr

/-- What comes of a command. -/
structure Report where
  lines : List Line
  ending : Ending
  /-- The seconds for which something was waited for that did not come. -/
  waited : Nat
  network : Network
deriving DecidableEq, Repr

namespace Surroundings

/-- The report of a command that has done its work. -/
def done (lines : List Line) (s : Surroundings) : Report := ⟨lines, .done, 0, s.network⟩

/-- The report of a command that fails before it has done anything. -/
def failed (chain : List String) (s : Surroundings) : Report := ⟨[], .failed chain, 0, s.network⟩

end Surroundings

/-- Options of a command line override settings, even by empty texts. -/
def Overrides.apply (o : Overrides) (s : Settings) : Settings :=
  { s with
    apiUrl := o.apiUrl.getD s.apiUrl
    token := o.token.or s.token
    boardId := o.board.getD s.boardId }

/-- The settings of a command line: from a file, under the environment and the options. -/
def resolveSettings (o : Overrides) (s : Surroundings) : Except (List String) Settings :=
  match Settings.load s.environment s.files o.config with
  | .ok settings => .ok (o.apply settings)
  | .error e =>
    let context := match o.config with
      | some path => "Failed to load config from " ++ path
      | none => "Failed to load config"
    .error (context :: e.chain)

end LiveBoard.CommandLine
