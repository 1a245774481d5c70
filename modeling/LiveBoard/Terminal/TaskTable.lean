import LiveBoard.Task.Status
import LiveBoard.Task.Basic
import LiveBoard.Terminal.Cell
import LiveBoard.Terminal.Style

/-!
# Tables of tasks

A list of tasks as a table, one task a row. The ids are shown in full, as people type them. The
titles share what is left of the terminal, within limits, and are cut to it.

## Main definitions

* `Status.colour`, `Status.label`: how a status is shown.
* `TaskTable`: the widths of the columns, with `TaskTable.ofTasks` and `TaskTable.row`.
* `taskTable`: the lines of the table.
-/

namespace LiveBoard

open Terminal

/-- The colour of a status. -/
def Status.colour : Status → Colour
  | .inbox => .blue
  | .inProgress => .yellow
  | .review => .magenta
  | .done => .green

/-- The name of a status in its colour, with blanks behind it up to a number of characters. -/
def Status.label (s : Status) (length : Nat) : Span :=
  coloured s.colour (paddedByLength length s.name)

/-- The widths of the columns of a table that depend on the tasks. -/
structure TaskTable where
  idWidth : Nat
  titleWidth : Nat
deriving DecidableEq, Repr

namespace TaskTable

/-- The widths for a list of tasks: all ids fit, and the titles take the rest of the terminal,
within limits. -/
def ofTasks (tasks : List Task) : TaskTable :=
  let idWidth := (tasks.map fun t => Text.width t.id).foldl max 2
  ⟨idWidth, clamp 16 60 (screenWidth - (idWidth + 30))⟩

/-- The cells of the first two columns. -/
def cells (w : TaskTable) (id title : String) : List Span :=
  [plain (padded w.idWidth id), plain (padded w.titleWidth (clipped w.titleWidth title))]

/-- The line of the headings. -/
def header (w : TaskTable) : Line :=
  spaced <| w.cells "ID" "Title"
    ++ [plain (paddedByLength 12 "Status"), plain (paddedByLength 8 "Priority")]

/-- The line below the headings. -/
def rule (w : TaskTable) : Line :=
  line (String.ofList (List.replicate (w.idWidth + w.titleWidth + 24) '─'))

/-- The line of a task. -/
def row (w : TaskTable) (t : Task) : Line :=
  spaced (w.cells t.id t.title ++ [t.status.label 12, plain (paddedByLength 8 t.priority)])

end TaskTable

/-- The lines of a table of tasks, with their number below. -/
def taskTable (tasks : List Task) : List Line :=
  if tasks.isEmpty then [[dim "No tasks found."]]
  else
    let w := TaskTable.ofTasks tasks
    w.header :: w.rule :: tasks.map w.row
      ++ [line "", line (toString tasks.length ++ " task(s) total")]

end LiveBoard
