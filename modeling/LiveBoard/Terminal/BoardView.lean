import LiveBoard.Board.Store
import LiveBoard.Connection.State
import LiveBoard.Decimal.Rounded
import LiveBoard.Task.Lookup
import LiveBoard.Terminal.TaskTable

/-!
# The board on a terminal

A board is shown column by column, with the columns that hold no task left out. Below it stand how
far the work has got and what agents suggest. A change of the connection takes a line of its own.

## Main definitions

* `boardView`: the lines of a board.
* `suggestionLines`: the lines of the suggestions.
* `connectionLine`: the line of a connection state.
-/

namespace LiveBoard

open Terminal

namespace BoardView

/-- The mark of a priority. -/
def priorityMark : String → Span
  | "urgent" | "critical" => ⟨{ bold := true, colour := some .red }, "!!"⟩
  | "high" => coloured .yellow "! "
  | "medium" => dim "· "
  | _ => plain "  "

/-- How titles look in a column. -/
def titleStyle : Status → Style
  | .inbox => .normal
  | .inProgress => { colour := some .yellow }
  | .review => { colour := some .magenta }
  | .done => { dim := true, colour := some .green }

/-- The width of a title beside `taken` columns of other things. -/
def titleWidth (taken : Nat) : Nat := clamp 16 72 (Terminal.screenWidth - taken)

/-- The line above the tasks of a column. -/
def heading (s : Status) (count : Nat) : Line :=
  plain " " :: spaced [dim "▸", ⟨{ bold := true, colour := some s.colour }, s.name⟩,
    dim (toString count)]

/-- The line of a task in a column. -/
def taskLine (s : Status) (t : Task) : Line :=
  plain "   " :: spaced [priorityMark t.priority,
    ⟨titleStyle s, clipped (titleWidth 16) t.title⟩, dim t.shortId]

/-- The lines of a column. Without tasks it has none. -/
def columnLines (s : Status) (tasks : List Task) : List Line :=
  if tasks.isEmpty then [] else heading s tasks.length :: tasks.map (taskLine s)

/-- The line that says how many tasks are done. -/
def progressLine (total done : Nat) : Line :=
  plain " " :: spaced [coloured .cyan "■", bold (toString total), plain "tasks", dim "·",
    coloured .green (toString done), plain ("done (" ++ toString (done * 100 / total) ++ "%)")]

/-- The share of a confidence in percent. -/
def percent (confidence : Float) : String :=
  String.ofList (Decimal.rounded (confidence * 100)) ++ "%"

/-- The line of a suggestion. -/
def suggestionLine (s : Suggestion) : Line :=
  plain "  " :: spaced [coloured .cyan "✦", plain (clipped (titleWidth 20) s.title),
    dim (percent s.confidence)]

end BoardView

/-- The lines of suggestions, with a heading. -/
def suggestionLines (suggestions : List Suggestion) : List Line :=
  [bold "Suggestions"] :: suggestions.map BoardView.suggestionLine

/-- The lines of a board. -/
def boardView (store : BoardStore) : List Line :=
  let tasks := store.tasks
  let body :=
    if tasks.isEmpty then [[dim "No tasks on this board."]]
    else
      (columns tasks).flatMap (fun (s, column) => BoardView.columnLines s column)
        ++ [BoardView.progressLine tasks.length (tasks.countP fun t => t.status = .done)]
  let suggestions := store.suggestions.items
  body ++ if suggestions.isEmpty then [] else line "" :: suggestionLines suggestions

/-- A connection state as it is shown. -/
def ConnectionState.label (s : ConnectionState) : Span :=
  match s with
  | .connected => ⟨{ bold := true, colour := some .green }, s.name⟩
  | .connecting => coloured .yellow s.name
  | .reconnecting => ⟨{ bold := true, colour := some .yellow }, s.name⟩
  | .disconnected => coloured .red s.name

/-- The line of a connection state. -/
def connectionLine (boardId : String) (s : ConnectionState) : Line :=
  spaced [dim "●", coloured .cyan boardId, s.label]

end LiveBoard
