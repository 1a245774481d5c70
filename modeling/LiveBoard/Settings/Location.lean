import LiveBoard.Settings.File

/-!
# Where settings are read

Settings are read from a file that is named, or else from the file that the user keeps in the
directory for settings, if there is one. A named file has to exist.

## Main definitions

* `Settings.defaultPath`: the file that the user keeps.
* `Files`: the files that can be read.
* `Settings.load`: the settings from a file and the environment.
* `SettingsError.chain`: what is wrong with settings, and why.
-/

namespace LiveBoard

/-- A path below a directory. -/
def pathBelow (directory name : String) : String :=
  if directory = "" || directory.toList.getLast? = some '/' then directory ++ name
  else directory ++ "/" ++ name

/-- The files that can be read. -/
structure Files where
  /-- Something is there under this path. -/
  has : String → Bool
  /-- The text of a file, or the reason why it cannot be read. -/
  read : String → Except String String

namespace Settings

/-- The directory for settings: what the environment says, if that is an absolute path, and
otherwise a fixed place in the home of the user. -/
def directory (env : Environment) : Option String :=
  match (env "XDG_CONFIG_HOME").filter fun d => d.toList.head? = some '/' with
  | some d => some d
  | none => ((env "HOME").filter fun d => d ≠ "").map fun d => pathBelow d ".config"

/-- The file that the user keeps. -/
def defaultPath (env : Environment) : Option String :=
  (directory env).map fun d => pathBelow (pathBelow d "boardsync") "config.toml"

/-- The file that the user keeps, if there is one. -/
def defaultFile (env : Environment) (files : Files) : Option String :=
  (defaultPath env).filter files.has

/-- The settings in a file. -/
def ofFile (files : Files) (path : String) : Except SettingsError Settings :=
  match files.read path with
  | .ok text => ofToml text
  | .error reason => .error (.unreadable reason)

/-- The settings in the file that is named, or else in the file that the user keeps, under the
variables of the environment. -/
def load (env : Environment) (files : Files) (named : Option String) :
    Except SettingsError Settings := do
  let s ← match named.or (defaultFile env files) with
    | some path => ofFile files path
    | none => .ok standard
  return s.override env

end Settings

/-- What is wrong with settings, followed by the reason if it has one. -/
def SettingsError.chain (e : SettingsError) : List String :=
  e.message :: match e with
    | .unreadable reason => [reason]
    | .address e => [e.message]
    | _ => []

end LiveBoard
