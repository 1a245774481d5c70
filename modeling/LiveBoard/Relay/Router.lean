import LiveBoard.Message.Wire
import LiveBoard.Relay.Route
import LiveBoard.Relay.State

/-!
# The relay over HTTP

How a relay answers requests. A request is first led to a resource; then its path and its body are
read, and only then its token is looked at. Requests that ask which methods are allowed are granted
everywhere.

## Main definitions

* `SuggestionRequest`: what agents ask to suggest.
* `Relay.respond`: the response to a request, and the relay after it.
-/

namespace LiveBoard

open Http Json

/-- What an agent asks to suggest. -/
structure SuggestionRequest where
  title : String
  description : Option String
  kind : Option String
  priority : Option String
  confidence : Option Float
  payload : Option Value
  deriving Repr, DecidableEq

namespace SuggestionRequest

/-- A request in the making. -/
structure Draft where
  title : Option String := none
  description : Option (Option String) := none
  kind : Option (Option String) := none
  priority : Option (Option String) := none
  confidence : Option (Option Float) := none
  payload : Option (Option Value) := none

/-- The request of a draft that has a title. -/
def Draft.build (d : Draft) : Option SuggestionRequest := do
  return {
    title := ← d.title
    description := d.description.join
    kind := d.kind.join
    priority := d.priority.join
    confidence := d.confidence.join
    payload := d.payload.join }

/-- A field that may be left out of an object, but not of an array. -/
def optionalSlot {α : Type} (key : String) (get : Draft → Option (Option α))
    (set : Draft → Option α → Draft) (d : Decoder α) : Slot Draft :=
  { Slot.of key false get set (.optional d) with expected := true }

/-- The written shape of a request. -/
def shape : RecordShape Draft SuggestionRequest where
  name := "struct CreateSuggestionRequest"
  blank := {}
  build := Draft.build
  slots := [
    .of "title" true (·.title) (fun d x => { d with title := some x }) .string,
    optionalSlot "description" (·.description) (fun d x => { d with description := some x })
      .string,
    optionalSlot "suggestion_type" (·.kind) (fun d x => { d with kind := some x }) .string,
    optionalSlot "priority" (·.priority) (fun d x => { d with priority := some x }) .string,
    optionalSlot "confidence" (·.confidence) (fun d x => { d with confidence := some x }) .double,
    optionalSlot "payload" (·.payload) (fun d x => { d with payload := some x }) .kept]

/-- How confident the agent is, halfway unless it says so. -/
def confidenceOrHalf (r : SuggestionRequest) : Float := r.confidence.getD 0.5

/-- The confidence is one: it lies between nothing and certainty. -/
def isConfident (r : SuggestionRequest) : Bool :=
  0.0 ≤ r.confidenceOrHalf && r.confidenceOrHalf ≤ 1.0

/-- The suggestion that is asked for. -/
def suggestion (r : SuggestionRequest) (id now : String) : Suggestion where
  id
  title := r.title
  description := r.description
  kind := r.kind.getD "task"
  priority := r.priority.getD "medium"
  confidence := r.confidenceOrHalf
  status := "pending"
  payload := r.payload
  createdAt := now

end SuggestionRequest

namespace Relay

/-- The token of a request: what follows `Bearer` in the header for authorization. -/
def requestToken (q : Request) : Option String :=
  (q.headerText? "authorization").bind fun v =>
    if "Bearer ".toList.isPrefixOf v.toList then some (String.ofList (v.toList.drop 7)) else none

/-- Reads the body of a request as JSON. -/
def requestBody {α : Type} (d : Decoder α) (q : Request) : Except Response α :=
  if ((q.headerText? "content-type").map isJson).getD false then
    match decodeText d q.body with
    | .ok a => .ok a
    | .error (.mismatch _) =>
      .error (.text 422 "Failed to deserialize the JSON body into the target type")
    | .error (.fault _) => .error (.text 400 "Failed to parse the request body as JSON")
  else .error (.text 415 "Expected request with \x60Content-Type: application/json\x60")

/-- The response to a token that is not accepted. -/
def refusal : Response := .text 401 "Invalid or missing token"

/-- The response where there is no such board. -/
def noBoard (board : String) : Response := .text 404 ("Board not found: " ++ board)

/-- Lists the tasks of a board. -/
def listTasks (board : String) (q : Request) (r : Relay) : Response :=
  if r.isAuthorized (requestToken q) then
    match r.tasks? board with
    | some tasks => .json 200 (Value.array (tasks.map Task.toValue)).print
    | none => noBoard board
  else refusal

/-- Deletes a task. -/
def removeTask (board id : String) (q : Request) (now : String) (r : Relay) : Response × Relay :=
  if r.isAuthorized (requestToken q) then
    match r.tasks? board with
    | none => (noBoard board, r)
    | some _ =>
      match r.deleteTask board id now with
      | (true, r) => (.bare 204, r)
      | (false, r) => (.text 404 ("Task not found: " ++ id), r)
  else (refusal, r)

/-- Publishes a suggestion to those who have joined a board. -/
def suggest (board : String) (q : Request) (id now : String) (r : Relay) : Response × Relay :=
  match requestBody SuggestionRequest.shape.decoder q with
  | .error response => (response, r)
  | .ok wanted =>
    if !r.isAuthorized (requestToken q) then (refusal, r)
    else if !wanted.isConfident then (.text 422 "confidence must be between 0 and 1", r)
    else
      let s := wanted.suggestion id now
      match r.pushSuggestion board s with
      | (true, r) => (.json 201 s.toValue.print, r)
      | (false, r) => (noBoard board, r)

/-- Passes a message on to those who have joined a board. -/
def notify (board : String) (q : Request) (r : Relay) : Response × Relay :=
  match requestBody ServerMessage.decoder q with
  | .error response => (response, r)
  | .ok m =>
    match r.broadcast board m with
    | (some _, r) => (.bare 200, r)
    | (none, r) => (.bare 404, r)

/-- The header has a value, in whatever case. -/
def headerIs (q : Request) (name value : String) : Bool :=
  ((q.header? name).map fun v => lower v == value.toList).getD false

/-- A text has another one as a part. -/
def hasPart (part : List Char) : List Char → Bool
  | [] => part.isEmpty
  | c :: cs => part.isPrefixOf (c :: cs) || hasPart part cs

/-- The header for connections speaks of an upgrade. -/
def asksForUpgrade (q : Request) : Bool :=
  ((q.header? "connection").map fun v => hasPart "upgrade".toList (lower v)).getD false

/-- The response to a request for a socket that is not on a connection that can become one. -/
def refuseSocket (q : Request) : Response :=
  if q.method ≠ "GET" then .text 405 "Request method must be \x60GET\x60"
  else if !asksForUpgrade q then .text 400 "Connection header did not include 'upgrade'"
  else if !headerIs q "upgrade" "websocket" then
    .text 400 "\x60Upgrade\x60 header did not include 'websocket'"
  else if (q.header? "sec-websocket-key").isNone then
    .text 400 "\x60Sec-WebSocket-Key\x60 header missing"
  else if !headerIs q "sec-websocket-version" "13" then
    .text 400 "\x60Sec-WebSocket-Version\x60 header did not include '13'"
  else .text 426 "WebSocket request couldn't be upgraded since no upgrade state was present"

/-- What a resource answers to a request with one of its methods. -/
def respondAt (route : Route) (q : Request) (id now : String) (r : Relay) : Response × Relay :=
  match route with
  | .tasks board => (r.listTasks board q, r)
  | .task board task => r.removeTask board task q now
  | .suggestions board => r.suggest board q id now
  | .sync _ => (refuseSocket q, r)
  | .notify board => r.notify board q

/-- The resource is a socket. -/
def isSync : Route → Bool
  | .sync _ => true
  | _ => false

/-- The response to a request, and the relay after it. -/
def respond (q : Request) (id now : String) (r : Relay) : Response × Relay :=
  if q.method = "OPTIONS" then (.bare 200, r)
  else
    match Route.ofPath? q.path with
    | none => (.bare 404, r)
    | some route =>
      if !route.allows q.method then ({ Response.bare 405 with allow := some route.methods }, r)
      else
        let (response, r) : Response × Relay :=
          match if isSync route then none else route.badPart? with
          | some part => (.text 400 ("Invalid URL: Invalid UTF-8 in \x60" ++ part ++ "\x60"), r)
          | none => r.respondAt route.decoded q id now
        (if q.method = "HEAD" then { response with body := "" } else response, r)

end Relay

end LiveBoard
