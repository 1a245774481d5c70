import LiveBoard.Task.Basic

/-!
# Columns

A board shows its tasks in columns, one for each status, and counts them.

## Main definitions

* `columns`: the tasks of every status, in the order of the list.
* `countByStatus`: how many tasks every status has.
-/

namespace LiveBoard

/-- The columns of a board: for every status, in board order, its tasks in the order of the
list. -/
def columns (tasks : List Task) : List (Status × List Task) :=
  Status.all.map fun s => (s, tasks.filter fun t => t.status = s)

/-- The number of tasks of every status, in board order. -/
def countByStatus (tasks : List Task) : List (Status × Nat) :=
  Status.all.map fun s => (s, tasks.countP fun t => t.status = s)

end LiveBoard
