import LiveBoard.Settings.Basic
import LiveBoard.Toml.Document

/-!
# Settings in files

A file of settings is a TOML document. What it does not mention has its standard value, and keys
that are not known are passed over. The timings of a backoff policy may also be given as an array.

## Main definitions

* `Settings.ofToml`: the settings in the text of a file.
* `Settings.tomlLines?`: the lines of a file with settings.
-/

namespace LiveBoard

open Toml

/-- The value of a key, as far as a reader accepts it; the default where the key is missing. -/
def Toml.field {α : Type} (ms : Members) (key : String) (default : α)
    (read : Item → Option α) : Option α :=
  match lookup key ms with
  | some item => read item
  | none => some default

/-- A string. -/
def Toml.Item.string? : Item → Option String
  | .string s => some s
  | _ => none

/-- A truth value. -/
def Toml.Item.boolean? : Item → Option Bool
  | .boolean b => some b
  | _ => none

/-- An integer that is not negative and below `2^bits`. -/
def Toml.Item.unsigned? (bits : Nat) : Item → Option Nat
  | .integer n => if 0 ≤ n ∧ n < Int.ofNat (Nat.pow 2 bits) then some n.toNat else none
  | _ => none

namespace BackoffPolicy

/-- A policy from a table, or from an array of its numbers. -/
def ofItem? : Item → Option BackoffPolicy
  | .table _ ms => do
    let base ← field ms "base_ms" standard.baseMs fun i => (i.unsigned? 64).map Nat.toUInt64
    let multiplier ← field ms "multiplier" standard.multiplier fun i =>
      (i.unsigned? 32).map Nat.toUInt32
    let max ← field ms "max_ms" standard.maxMs fun i => (i.unsigned? 64).map Nat.toUInt64
    return ⟨base, multiplier, max⟩
  | .array items => do
    let numbers ← (items.take 3).zip [64, 32, 64] |>.mapM fun (i, bits) => i.unsigned? bits
    return {
      baseMs := (numbers[0]?.map Nat.toUInt64).getD standard.baseMs
      multiplier := (numbers[1]?.map Nat.toUInt32).getD standard.multiplier
      maxMs := (numbers[2]?.map Nat.toUInt64).getD standard.maxMs }
  | .moment => some standard
  | _ => none

end BackoffPolicy

namespace Settings

/-- The settings of a document. -/
def ofMembers? (ms : Members) : Option Settings := do
  return {
    apiUrl := ← field ms "api_url" standard.apiUrl Item.string?
    boardId := ← field ms "board_id" standard.boardId Item.string?
    token := ← field ms "token" standard.token fun i => i.string?.map some
    enabled := ← field ms "enabled" standard.enabled Item.boolean?
    heartbeatMs := ← field ms "heartbeat_interval_ms" standard.heartbeatMs fun i =>
      (i.unsigned? 64).map Nat.toUInt64
    backoff := ← field ms "backoff" standard.backoff BackoffPolicy.ofItem? }

/-- The settings in the text of a file, with timings that can be used. -/
def ofToml (text : String) : Except SettingsError Settings :=
  match (read? text).bind ofMembers? with
  | none => .error .badFile
  | some s =>
    match s.check with
    | .ok () => .ok s
    | .error e => .error (.timing e)

/-- A line with a key and its written value. -/
def tomlLine (key : String) (written : List Char) : String :=
  key ++ " = " ++ String.ofList written

/-- An integer as it is written in TOML, which has integers of 64 bits with a sign. -/
def tomlInteger? (n : UInt64) : Option (List Char) :=
  if n.toNat < Nat.pow 2 63 then some (Nat.toDigits 10 n.toNat) else none

/-- The lines of a file with settings. A line breaks where a text in it does. Numbers of more than
63 bits cannot be written. -/
def tomlLines? (s : Settings) : Option (List String) := do
  let heartbeat ← tomlInteger? s.heartbeatMs
  let base ← tomlInteger? s.backoff.baseMs
  let max ← tomlInteger? s.backoff.maxMs
  return [tomlLine "api_url" (written s.apiUrl), tomlLine "board_id" (written s.boardId)]
    ++ (s.token.map fun token => tomlLine "token" (written token)).toList
    ++ [tomlLine "enabled" (if s.enabled then "true".toList else "false".toList),
      tomlLine "heartbeat_interval_ms" heartbeat,
      "",
      "[backoff]",
      tomlLine "base_ms" base,
      tomlLine "multiplier" (Nat.toDigits 10 s.backoff.multiplier.toNat),
      tomlLine "max_ms" max]

end Settings

end LiveBoard
