import LiveBoard.Http.Basic
import LiveBoard.Settings.Addresses
import LiveBoard.Task.Wire

/-!
# Fetching the tasks of a board

The tasks of a board as the relay lists them over HTTP, without a session.

## Main definitions

* `Settings.tasksRequest`: the request for the tasks.
* `Settings.readTasks`: what a response to it says.
* `FetchError`: what can go wrong, with `FetchError.message`.
-/

namespace LiveBoard

open Http Json

/-- What can go wrong when tasks are fetched. -/
inductive FetchError
  | settings (e : SettingsError)
  /-- The request could not be made, or there was no response. -/
  | noResponse
  /-- The response does not hold tasks. -/
  | badBody
  /-- The relay did not grant the request. -/
  | status (url : String) (code : Nat)
  deriving Repr, DecidableEq

/-- The text of what went wrong. -/
def FetchError.message : FetchError → String
  | .settings e => e.message
  | .noResponse => "HTTP error"
  | .badBody => "HTTP error"
  | .status url code =>
    "Request to " ++ url ++ " failed with status " ++ String.ofList (Nat.toDigits 10 code)

namespace Settings

/-- A character that may stand in a header. -/
def isHeaderChar (c : Char) : Bool := c == '\t' || (0x20 ≤ c.toNat && c.toNat ≠ 0x7F)

/-- The headers of a request for tasks: the token, if there is one and it can be written. -/
def tasksHeaders (s : Settings) : Except FetchError (List (String × String)) :=
  match s.bearerToken with
  | none => .ok []
  | some token =>
    if token.toList.all isHeaderChar then .ok [("authorization", "Bearer " ++ token)]
    else .error .noResponse

/-- The request for the tasks of the board, and where it goes. -/
def tasksRequest (s : Settings) : Except FetchError (Url.Address × Request) :=
  match s.tasksAddress with
  | .error e => .error (.settings e)
  | .ok address => do
    let headers ← s.tasksHeaders
    return (address, ⟨"GET", String.ofList address.target, headers, ""⟩)

/-- What a response to a request for tasks says. -/
def readTasks (address : Url.Address) (a : Response) : Except FetchError (List Task) :=
  if a.isSuccess then
    match decodeText (.list Task.decoder) a.body with
    | .ok tasks => .ok tasks
    | .error _ => .error .badBody
  else .error (.status address.print a.status)

/-- Fetches the tasks of the board, where `ask` makes requests and says what was answered. -/
def fetchTasks (ask : Url.Address → Request → Option Response) (s : Settings) :
    Except FetchError (List Task) := do
  let (address, q) ← s.tasksRequest
  match ask address q with
  | none => .error .noResponse
  | some a => readTasks address a

end Settings

end LiveBoard
