import LiveBoard.Settings.Basic
import LiveBoard.Url.Parser

/-!
# The addresses of a board

Where a client finds its board: the address of the socket over which it is kept up to date, and
the address of its list of tasks. Both are built on the address of the relay, whose path they
prolong. The id of the board is one segment of the path, whatever it holds.

## Main definitions

* `Settings.socketAddress`: the address of the socket, with the token.
* `Settings.tasksAddress`: the address of the list of tasks.
-/

namespace LiveBoard.Settings

/-- The rest of a text behind a start that it has. -/
def after? (start : List Char) (cs : List Char) : Option (List Char) :=
  if start.isPrefixOf cs then some (cs.drop start.length) else none

/-- The address of the relay for sockets: without blanks and slashes at its end, and with the
scheme of sockets. -/
def socketBase (s : Settings) : Except SettingsError String :=
  let base := ((Text.trimChars s.apiUrl.toList).reverse.dropWhile (· == '/')).reverse
  match after? "https://".toList base, after? "http://".toList base with
  | some rest, _ => .ok (String.ofList ("wss://".toList ++ rest))
  | none, some rest => .ok (String.ofList ("ws://".toList ++ rest))
  | none, none => .error (.notWeb s.apiUrl)

/-- The address of the web that a text holds. -/
def webAddress (s : Settings) (text : String) : Except SettingsError Url.Address :=
  match Url.parse text with
  | .ok (.web a) => .ok a
  | .ok (.other _) => .error (.notWeb s.apiUrl)
  | .error e => .error (.address e)

/-- The client wants a board. -/
def requireBoard (s : Settings) : Except SettingsError Unit :=
  if Text.isBlankText s.boardId then .error .missingBoard else .ok ()

/-- The address of the socket over which the board is kept up to date. The token is the only field
of its query. -/
def socketAddress (s : Settings) : Except SettingsError Url.Address := do
  match s.bearerToken with
  | none => .error .missingToken
  | some token =>
    s.requireBoard
    let a ← s.webAddress (← s.socketBase)
    return (a.popIfEmpty.pushSegments ["ws", "board", s.boardId, "sync"]).withField "token" token

/-- The address of the list of tasks. -/
def tasksAddress (s : Settings) : Except SettingsError Url.Address := do
  s.requireBoard
  let a ← s.webAddress (Text.trim s.apiUrl)
  if a.scheme = "http" ∨ a.scheme = "https" then
    return a.popIfEmpty.pushSegments ["api", "v1", "boards", s.boardId, "tasks"]
  else .error (.notWeb s.apiUrl)

end LiveBoard.Settings
