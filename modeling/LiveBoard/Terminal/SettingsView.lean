import LiveBoard.Settings.Basic
import LiveBoard.Terminal.Style

/-!
# Settings on a terminal

The settings that are in effect, one a line, and where they were read. A token is a secret: of a
long one the first characters are shown, of a short one nothing.

## Main definitions

* `Settings.maskedToken`: what is shown of the token.
* `settingsView`: the lines of the settings.
-/

namespace LiveBoard

open Terminal

/-- What is shown of the token. -/
def Settings.maskedToken (s : Settings) : String :=
  match s.bearerToken with
  | some token =>
    if 4 < token.length then String.ofList (token.toList.take 4) ++ "…" else "****"
  | none => "(none)"

/-- The text of a number of milliseconds. -/
def milliseconds (n : UInt64) : String := toString n.toNat ++ " ms"

/-- The lines of settings that were read from a file, or from nowhere. -/
def settingsView (s : Settings) (source : Option String) : List Line :=
  let entry (name : String) (value : Span) : Line := [bold name, plain ": ", value]
  [ entry "Source" (dim (source.getD "(defaults)")),
    entry "API URL" (plain s.apiUrl),
    entry "Board" (plain s.boardId),
    entry "Token" (plain s.maskedToken),
    entry "Enabled" (plain (toString s.enabled)),
    entry "Heartbeat" (plain (milliseconds s.heartbeatMs)),
    entry "Backoff" (plain (milliseconds s.backoff.baseMs ++ " × "
      ++ toString s.backoff.multiplier.toNat ++ " (max "
      ++ milliseconds s.backoff.maxMs ++ ")")) ]

end LiveBoard
