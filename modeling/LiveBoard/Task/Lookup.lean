import LiveBoard.Task.Basic

/-!
# Finding a task by its id

People name a task by its id or by the beginning of it. An id that is spelled out always wins; the
beginning of one has to belong to a single task. A board shows the first eight characters.

## Main definitions

* `Task.shortId`: what a board shows of an id.
* `Task.resolve`: the task that people mean.
* `LookupError`: why no task is meant, with `LookupError.message`.
-/

namespace LiveBoard

/-- The first eight characters of an id. -/
def Task.shortId (t : Task) : String := String.ofList (t.id.toList.take 8)

/-- Why an argument names no task. -/
inductive LookupError
  | ambiguous (given : String)
  | notFound (given : String)
  deriving Repr, DecidableEq

/-- The text of an argument that names no task. -/
def LookupError.message : LookupError → String
  | .ambiguous given => "Task id '" ++ given ++ "' is ambiguous, use more characters"
  | .notFound given => "Task not found: " ++ given

/-- The id of the task begins with the given characters. -/
def Task.idBegins (given : String) (t : Task) : Bool := given.toList.isPrefixOf t.id.toList

/-- The task with the given id, or else the only task whose id begins with what is given, which
must not be empty. -/
def Task.resolve (tasks : List Task) (given : String) : Except LookupError Task :=
  match tasks.find? fun t => t.id == given with
  | some t => .ok t
  | none =>
    if given = "" then .error (.notFound given)
    else
      match tasks.filter (Task.idBegins given) with
      | [t] => .ok t
      | [] => .error (.notFound given)
      | _ => .error (.ambiguous given)

end LiveBoard
