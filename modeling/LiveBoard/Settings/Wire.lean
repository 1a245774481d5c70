import LiveBoard.Settings.Basic

/-!
# Settings in JSON

## Main definitions

* `Settings.decoder`: reading settings.
* `Settings.toValue`: writing them.
-/

namespace LiveBoard.Settings

open Json

/-- Settings in the making. -/
structure Draft where
  apiUrl : Option String := none
  boardId : Option String := none
  token : Option (Option String) := none
  enabled : Option Bool := none
  heartbeatMs : Option Nat := none
  backoff : Option BackoffPolicy := none

/-- The settings of a draft, completed by the standard ones. -/
def Draft.build (d : Draft) : Settings where
  apiUrl := d.apiUrl.getD standard.apiUrl
  boardId := d.boardId.getD standard.boardId
  token := d.token.getD standard.token
  enabled := d.enabled.getD standard.enabled
  heartbeatMs := (d.heartbeatMs.map Nat.toUInt64).getD standard.heartbeatMs
  backoff := d.backoff.getD standard.backoff

/-- The written shape of settings. -/
def shape : RecordShape Draft Settings where
  name := "struct SyncConfig"
  blank := {}
  build d := some d.build
  slots := [
    .of "api_url" false (·.apiUrl) (fun d x => { d with apiUrl := some x }) .string,
    .of "board_id" false (·.boardId) (fun d x => { d with boardId := some x }) .string,
    .of "token" false (·.token) (fun d x => { d with token := some x }) (.optional .string),
    .of "enabled" false (·.enabled) (fun d x => { d with enabled := some x }) .bool,
    .of "heartbeat_interval_ms" false (·.heartbeatMs)
      (fun d x => { d with heartbeatMs := some x }) (.unsigned 64),
    .of "backoff" false (·.backoff) (fun d x => { d with backoff := some x })
      BackoffPolicy.decoder]

/-- Reads settings. -/
def decoder : Decoder Settings := shape.decoder

/-- Settings from a JSON value. -/
def ofValue (v : Value) : Except ReadError Settings :=
  decoder { buffered := true, room := maxDepth } (Document.ofText v.print).root

/-- The written form of settings. -/
def toValue (s : Settings) : Value :=
  .object [
    ("api_url", .string s.apiUrl),
    ("board_id", .string s.boardId),
    ("token", .optionalString s.token),
    ("enabled", .bool s.enabled),
    ("heartbeat_interval_ms", .nat s.heartbeatMs.toNat),
    ("backoff", s.backoff.toValue)]

end LiveBoard.Settings
