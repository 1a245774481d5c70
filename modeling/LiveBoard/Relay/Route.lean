import LiveBoard.Http.Basic
import LiveBoard.Url.Percent

/-!
# The routes of a relay

Which resource of a relay a path leads to. The segments that name boards and tasks may be any
text; they are compared and cut in their encoded form, and decoded afterwards.

## Main definitions

* `Route`: the resources, with their methods.
* `Route.ofPath?`: where a path leads.
-/

namespace LiveBoard

/-- A resource of a relay. Boards and tasks are named by segments of the path, as they stand
there. -/
inductive Route
  | tasks (board : String)
  | task (board id : String)
  | suggestions (board : String)
  | sync (board : String)
  | notify (board : String)
  deriving Repr, DecidableEq

namespace Route

/-- The resource at the end of a list of segments. The name of a board may be empty, that of a
task may not. -/
def ofSegments? : List String → Option Route
  | ["", "api", "v1", "boards", board, "tasks"] => some (.tasks board)
  | ["", "api", "v1", "boards", board, "tasks", id] =>
    if id = "" then none else some (.task board id)
  | ["", "api", "v1", "boards", board, "suggestions"] => some (.suggestions board)
  | ["", "ws", "board", board, "sync"] => some (.sync board)
  | ["", "internal", "boards", board, "notify"] => some (.notify board)
  | _ => none

/-- Where a path leads. -/
def ofPath? (path : List Char) : Option Route :=
  ofSegments? ((Url.splitOn '/' path).map String.ofList)

/-- The methods of a resource, as they are listed. -/
def methods : Route → String
  | .tasks _ => "GET,HEAD"
  | .task _ _ => "DELETE"
  | .suggestions _ => "POST"
  | .sync _ => "GET,HEAD"
  | .notify _ => "POST"

/-- A resource has a method. -/
def allows (route : Route) (method : String) : Bool :=
  match route with
  | .tasks _ => method = "GET" || method = "HEAD"
  | .task _ _ => method = "DELETE"
  | .suggestions _ => method = "POST"
  | .sync _ => method = "GET" || method = "HEAD"
  | .notify _ => method = "POST"

/-- The text of a segment. -/
def decodeSegment? (s : String) : Option String :=
  (Utf8.decode? (Url.percentDecode (Utf8.encode s.toList))).map String.ofList

/-- The name of the part of a path that is no text, if there is one. -/
def badPart? : Route → Option String
  | .task board id =>
    if (decodeSegment? board).isNone then some "board_id"
    else if (decodeSegment? id).isNone then some "task_id"
    else none
  | .tasks board => if (decodeSegment? board).isNone then some "board_id" else none
  | .suggestions board => if (decodeSegment? board).isNone then some "board_id" else none
  | .sync board => if (decodeSegment? board).isNone then some "board_id" else none
  | .notify board => if (decodeSegment? board).isNone then some "board_id" else none

/-- A resource with the texts that its segments stand for. -/
def decoded : Route → Route
  | .tasks board => .tasks (text board)
  | .task board id => .task (text board) (text id)
  | .suggestions board => .suggestions (text board)
  | .sync board => .sync (text board)
  | .notify board => .notify (text board)
where
  /-- The text of a segment that is one. -/
  text (s : String) : String := (decodeSegment? s).getD s

end Route

end LiveBoard
