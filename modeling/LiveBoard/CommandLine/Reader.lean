import LiveBoard.CommandLine.Form

/-!
# Reading a command line

Arguments are read from left to right by the form of a command, until the name of a command in it
makes its form take over. Options may be given in any order, with their value behind them or
attached to them. The value of an option is looked at when the next thing begins, an attached one at
once; behind two hyphens everything is an argument by position.

## Main definitions

* `CommandLine.Level`: what has been read by one form.
* `CommandLine.Level.step`: one more argument.
* `CommandLine.readLevels`: reads a command line.
* `CommandLine.option?`, `CommandLine.texts`: what has been given for an option.
-/

namespace LiveBoard.CommandLine

/-- An option that waits, for its value or for what follows it. -/
structure Pending where
  option : OptionForm
  value : Option String
deriving DecidableEq, Repr

/-- What has been read by one form. -/
structure Level where
  form : Form
  /-- What is given, in the order of the arguments. -/
  given : List (String × Given)
  pending : Option Pending
  /-- The next argument is the value of the option that waits, if it is not an option. -/
  isAwaiting : Bool
  /-- The number of arguments by position. -/
  placed : Nat
  /-- Everything from here on is an argument by position. -/
  isTrailing : Bool

namespace Level

/-- Nothing has been read. -/
def begin (form : Form) : Level := ⟨form, [], none, false, 0, false⟩

/-- Something is given for this name. -/
def isGiven (name : String) (l : Level) : Bool := l.given.any fun g => g.1 == name

/-- Something is given for an option. -/
def give (o : OptionForm) (g : Given) (l : Level) : Except UsageError Level :=
  if l.isGiven o.name && !o.isRepeatable then .error .conflict
  else .ok { l with given := l.given ++ [(o.name, g)] }

/-- A value is given for an option. -/
def giveValue (o : OptionForm) (value : String) (l : Level) : Except UsageError Level := do
  if l.isGiven o.name && !o.isRepeatable then throw .conflict
  let g ← (o.kind?.getD .text).read value
  l.give o g

/-- The option that waits is given, if there is one. -/
def settle (l : Level) : Except UsageError Level :=
  match l.pending with
  | none => .ok l
  | some ⟨_, none⟩ => .error .invalidValue
  | some ⟨o, some value⟩ => { l with pending := none }.giveValue o value

/-- An option that takes no value is met. -/
def meet (o : OptionForm) (l : Level) : Except UsageError Level := do
  let l ← l.settle
  match o.effect with
  | .help => throw .displayHelp
  | .version => throw .displayVersion
  | _ => return { ← l.give o .present with isAwaiting := false }

/-- An option that takes a value is met, perhaps with its value attached. -/
def meetValued (o : OptionForm) (attached : Option String) (l : Level) :
    Except UsageError Level := do
  let l ← l.settle
  match attached with
  | some value => return { ← l.giveValue o value with isAwaiting := false }
  | none => return { l with pending := some ⟨o, none⟩, isAwaiting := true }

/-- An option behind two hyphens. -/
def readLong (argument : List Char) (l : Level) : Except UsageError Level :=
  let name := argument.takeWhile (· != '=')
  let attached := match argument.dropWhile (· != '=') with
    | _ :: value => some (String.ofList value)
    | [] => none
  match l.form.option? (String.ofList name) with
  | none => .error .unknownArgument
  | some o =>
    if o.kind?.isSome then l.meetValued o attached
    else if attached.isSome then .error .tooManyValues
    else l.meet o

/-- Letters behind one hyphen. What follows the letter of an option that takes a value is the
value, perhaps with an equals sign between the two. -/
def readShort : List Char → Level → Except UsageError Level
  | [], l => .ok l
  | c :: rest, l =>
    match l.form.letter? c with
    | none => .error .unknownArgument
    | some o =>
      if o.kind?.isSome then
        match rest with
        | [] => l.meetValued o none
        | '=' :: value => l.meetValued o (some (String.ofList value))
        | value => l.meetValued o (some (String.ofList value))
      else do readShort rest (← l.meet o)

/-- An argument by position. -/
def place (argument : String) (l : Level) : Except UsageError Level :=
  match l.form.positions[l.placed]? with
  | some name => do
    let l ← l.settle
    return { l with
      pending := some ⟨⟨name, none, .value .text⟩, some argument⟩
      isAwaiting := false
      placed := l.placed + 1 }
  | none =>
    if !l.form.isGroup || l.isTrailing && (l.form.command? argument).isSome then
      .error .unknownArgument
    else .error .invalidSubcommand

/-- One more argument that is not the name of a command. -/
def step (argument : String) (l : Level) : Except UsageError Level :=
  if l.isTrailing then l.place argument
  else
    match argument.toList with
    | ['-', '-'] => .ok { l with isTrailing := true }
    | '-' :: '-' :: rest => l.readLong rest
    | '-' :: c :: rest => l.readShort (c :: rest)
    | _ =>
      match l.isAwaiting, l.pending with
      | true, some p =>
        .ok { l with pending := some { p with value := some argument }, isAwaiting := false }
      | _, _ => l.place argument

/-- The command that an argument names. -/
def command? (argument : String) (l : Level) : Option Form :=
  if l.isTrailing || l.isAwaiting then none else l.form.command? argument

/-- The command line ends in this command. -/
def finish (l : Level) : Except UsageError Level := do
  let l ← l.settle
  if l.form.isGroup then
    throw (if l.given.isEmpty then .helpOnMissing else .missingSubcommand)
  if l.placed < l.form.positions.length then throw .missingArgument
  return l

end Level

/-- Reads arguments by the innermost of some forms: `outer` are the levels around it, the nearest
first. The levels of a command line are listed in the same order. -/
def readFrom (outer : List Level) (l : Level) : List String → Except UsageError (List Level)
  | [] => do
    let l ← l.finish
    return l :: (← outer.mapM Level.settle)
  | argument :: arguments =>
    match l.command? argument with
    | some form =>
      if argument == "help" then .error (l.form.explain arguments)
      else readFrom (l :: outer) (.begin form) arguments
    | none => do readFrom outer (← l.step argument) arguments

/-- Reads a command line. -/
def readLevels (form : Form) (arguments : List String) : Except UsageError (List Level) :=
  readFrom [] (.begin form) arguments

/-- What has been given for an option, by the innermost command that was given it. -/
def option? (name : String) (levels : List Level) : Option Given :=
  levels.findSome? fun l => (l.given.find? fun g => g.1 == name).map (·.2)

/-- An option that stands for itself has been given. -/
def isPresent (name : String) (levels : List Level) : Bool := (option? name levels).isSome

/-- The text that has been given for an option. -/
def text? (name : String) (levels : List Level) : Option String :=
  match option? name levels with
  | some (.text s) => some s
  | _ => none

/-- The number that has been given for an option. -/
def number? (name : String) (levels : List Level) : Option Nat :=
  match option? name levels with
  | some (.number n) => some n
  | _ => none

/-- All texts that have been given for an option that may be repeated. -/
def texts (name : String) (levels : List Level) : List String :=
  levels.flatMap fun l => l.given.filterMap fun g =>
    match g with
    | (key, .text s) => if key == name then some s else none
    | _ => none

end LiveBoard.CommandLine
