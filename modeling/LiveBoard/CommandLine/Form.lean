/-!
# Forms of commands

A command line is read by forms. The form of a command says which options it knows, which arguments
it takes by position, and which commands it has in turn. An option stands for itself or takes a
value, and the value of one can be a text, a path or a number.

## Main definitions

* `CommandLine.ValueKind`: what a value has to be, with `ValueKind.read`.
* `CommandLine.OptionForm`, `CommandLine.Form`: the forms of options and of commands.
* `CommandLine.UsageError`: why arguments do not amount to a command.
-/

namespace LiveBoard.CommandLine

/-- Why arguments do not amount to a command. Help and versions are asked for, and shown instead of
doing anything. -/
inductive UsageError
  | displayHelp
  | displayVersion
  /-- Nothing is given to a command that has commands of its own. -/
  | helpOnMissing
  | missingSubcommand
  | invalidSubcommand
  | unknownArgument
  | missingArgument
  /-- A value is missing, or empty where it must not be. -/
  | invalidValue
  /-- A value is not of its kind. -/
  | badValue
  /-- A value is given to an option that takes none. -/
  | tooManyValues
  /-- An option is given twice. -/
  | conflict
deriving DecidableEq, Repr

/-- What a value has to be. -/
inductive ValueKind
  | text
  | path
  /-- A port, a number of 16 bits. -/
  | port
  /-- A number of seconds, of 64 bits. -/
  | seconds
deriving DecidableEq, Repr

/-- What is given for an option or by position. -/
inductive Given
  /-- The option stands for itself. -/
  | present
  | text (s : String)
  | number (n : Nat)
deriving DecidableEq, Repr

/-- The number that decimal digits spell, of which there is at least one. -/
def digits? (cs : List Char) : Option Nat :=
  if !cs.isEmpty && cs.all Char.isDigit then
    some (cs.foldl (fun n c => n * 10 + (c.toNat - '0'.toNat)) 0)
  else none

/-- A port: a number up to 65535, with or without a sign. -/
def port? : List Char → Option Nat
  | '-' :: cs => (digits? cs).filter (· = 0)
  | '+' :: cs => (digits? cs).filter (· < UInt16.size)
  | cs => (digits? cs).filter (· < UInt16.size)

/-- A number of seconds, perhaps with a plus sign. -/
def seconds? : List Char → Option Nat
  | '+' :: cs => (digits? cs).filter (· < UInt64.size)
  | cs => (digits? cs).filter (· < UInt64.size)

/-- Reads a value. -/
def ValueKind.read (s : String) : ValueKind → Except UsageError Given
  | text => .ok (.text s)
  | path => if s = "" then .error .invalidValue else .ok (.text s)
  | port =>
    match port? s.toList with
    | some n => .ok (.number n)
    | none => .error .badValue
  | seconds =>
    match seconds? s.toList with
    | some n => .ok (.number n)
    | none => .error .badValue

/-- What an option does. -/
inductive Effect
  /-- It stands for itself. -/
  | flag
  /-- It takes a value. -/
  | value (kind : ValueKind)
  /-- It takes a value and may be given several times. -/
  | values (kind : ValueKind)
  | help
  | version
deriving DecidableEq, Repr

/-- The form of an option: its name behind two hyphens, its letter behind one, and its effect. -/
structure OptionForm where
  name : String
  letter : Option Char := none
  effect : Effect
deriving DecidableEq, Repr

/-- An option may be given several times. -/
def OptionForm.isRepeatable (o : OptionForm) : Bool :=
  match o.effect with
  | .values _ => true
  | _ => false

/-- The kind of the value that an option takes, if it takes one. -/
def OptionForm.kind? (o : OptionForm) : Option ValueKind :=
  match o.effect with
  | .value k | .values k => some k
  | _ => none

/-- The form of a command. Arguments by position are texts and must be given. -/
structure Form where
  name : String
  options : List OptionForm
  positions : List String
  commands : List Form

namespace Form

/-- The option of a name. -/
def option? (name : String) (f : Form) : Option OptionForm :=
  f.options.find? fun o => o.name == name

/-- The option of a letter. -/
def letter? (letter : Char) (f : Form) : Option OptionForm :=
  f.options.find? fun o => o.letter == some letter

/-- The command has commands of its own. -/
def isGroup (f : Form) : Bool := !f.commands.isEmpty

/-- The command that explains commands, which every group has. -/
def help : Form := ⟨"help", [], [], []⟩

/-- The command of a name in a group. -/
def command? (name : String) (f : Form) : Option Form :=
  if f.isGroup && name == "help" then some help
  else f.commands.find? fun c => c.name == name

/-- What is shown when the commands of a path are to be explained. -/
def explain : List String → Form → UsageError
  | [], _ => .displayHelp
  | name :: names, f =>
    match f.command? name with
    | some c => c.explain names
    | none => .invalidSubcommand

end Form

end LiveBoard.CommandLine
