import LiveBoard.Text.Blank

/-!
# Task statuses

A board has four columns, and the status of a task says in which one it stands.

## Main definitions

* `Status`: the statuses, and `Status.all`, the columns in board order.
* `Status.name`: the name on the wire.
* `Status.parse`: what people may type for a status.
-/

namespace LiveBoard

/-- The column in which a task stands. -/
inductive Status
  | inbox
  | inProgress
  | review
  | done
  deriving Repr, DecidableEq

namespace Status

/-- All statuses in board order. -/
def all : List Status := [.inbox, .inProgress, .review, .done]

/-- The name of a status on the wire. -/
def name : Status → String
  | .inbox => "inbox"
  | .inProgress => "in_progress"
  | .review => "review"
  | .done => "done"

/-- The statuses under their names. -/
def named : List (String × Status) := all.map fun s => (s.name, s)

/-- A character in the spelling that statuses are compared in: letters in lower case, and an
underscore for a hyphen. Letters beyond ASCII can be left alone, as the lower case of none of them
is made of letters that a status has. -/
def plainChar (c : Char) : Char :=
  if c = '-' then '_' else c.toLower

/-- The status that a typed text names, with blanks around it, capitals and hyphens forgiven. -/
def parse (s : String) : Option Status :=
  match String.ofList ((Text.trimChars s.toList).map plainChar) with
  | "inbox" => some .inbox
  | "in_progress" => some .inProgress
  | "inprogress" => some .inProgress
  | "doing" => some .inProgress
  | "review" => some .review
  | "done" => some .done
  | _ => none

end Status

end LiveBoard
