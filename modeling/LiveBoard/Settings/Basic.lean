import LiveBoard.Backoff.Policy
import LiveBoard.Text.Blank
import LiveBoard.Url.Basic

/-!
# Settings

What a client has to know before it can connect to a board: where the relay is, which board it
wants, the token that admits it, and how patient it is. Settings are layered. Standard values come
first, then a file, then the variables of the environment, then whatever the command line says.

## Main definitions

* `Settings`: the settings, with `Settings.standard`.
* `Settings.check`: refuses timings with which a client would never rest.
* `Settings.override`: the settings under the variables of an environment.
* `SettingsError`: what can be wrong with settings, with `SettingsError.message`.
-/

namespace LiveBoard

/-- The settings of a client. -/
structure Settings where
  /-- The address of the relay, with `http` or `https`. -/
  apiUrl : String
  boardId : String
  /-- The token that admits the client. Without one it does not connect. -/
  token : Option String
  enabled : Bool
  /-- The milliseconds between two heartbeats. -/
  heartbeatMs : UInt64
  backoff : BackoffPolicy
  deriving Repr, DecidableEq

/-- Timings that a client cannot work with. -/
inductive TimingError
  | heartbeat
  | backoffBase
  | backoffLimit
  deriving Repr, DecidableEq

/-- The text of a timing that cannot be used. -/
def TimingError.message : TimingError → String
  | .heartbeat => "heartbeat_interval_ms must be greater than 0"
  | .backoffBase => "backoff.base_ms must be greater than 0"
  | .backoffLimit => "backoff.max_ms must not be below backoff.base_ms"

/-- What can be wrong with settings. -/
inductive SettingsError
  /-- The address of the relay is not one of the web. -/
  | notWeb (apiUrl : String)
  | missingToken
  | missingBoard
  | address (e : Url.ParseError)
  | timing (e : TimingError)
  /-- A file cannot be read, for the reason that the system gives. -/
  | unreadable (reason : String)
  /-- A file does not hold settings. -/
  | badFile
  deriving Repr, DecidableEq

/-- The text of what is wrong with settings. -/
def SettingsError.message : SettingsError → String
  | .notWeb apiUrl =>
    "Invalid API URL '" ++ apiUrl ++ "': expected an http:// or https:// URL"
  | .missingToken => "Missing bearer token"
  | .missingBoard => "Missing board id"
  | .address e => "URL error: " ++ e.message
  | .timing e => "Configuration error: " ++ e.message
  | .unreadable reason => "IO error: " ++ reason
  | .badFile => "Config file error"

namespace Settings

/-- The settings of a client that was told nothing. -/
def standard : Settings where
  apiUrl := "http://127.0.0.1:8000"
  boardId := ""
  token := none
  enabled := true
  heartbeatMs := 30000
  backoff := .standard

/-- Refuses timings with which heartbeats or attempts to reconnect would never rest. -/
def check (s : Settings) : Except TimingError Unit :=
  if s.heartbeatMs = 0 then .error .heartbeat
  else if s.backoff.baseMs = 0 then .error .backoffBase
  else if s.backoff.maxMs < s.backoff.baseMs then .error .backoffLimit
  else .ok ()

/-- The token that the client presents, if it has one: without the blanks at its ends, and not
empty. -/
def bearerToken (s : Settings) : Option String :=
  (s.token.map Text.trim).filter fun t => t ≠ ""

/-- The client may connect at all. -/
def isActive (s : Settings) : Bool := s.enabled && s.bearerToken.isSome

/-- The milliseconds between two heartbeats, at least one. -/
def heartbeatInterval (s : Settings) : UInt64 := max s.heartbeatMs 1

/-! ### Layers -/

/-- The variables of an environment. -/
abbrev Environment := String → Option String

/-- A variable that holds more than blanks. -/
def filled (env : Environment) (name : String) : Option String :=
  (env name).filter fun v => !Text.isBlankText v

/-- The settings under the variables of an environment. Variables that hold nothing but blanks
count as absent. -/
def override (env : Environment) (s : Settings) : Settings :=
  { s with
    apiUrl := (filled env "BOARDSYNC_API_URL").getD s.apiUrl
    token := (filled env "BOARDSYNC_TOKEN").or s.token
    boardId := (filled env "BOARDSYNC_BOARD").getD s.boardId }

end Settings

end LiveBoard
