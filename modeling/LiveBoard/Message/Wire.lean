import LiveBoard.Message.Basic
import LiveBoard.Task.Wire

/-!
# Messages on the wire

A message is an object with a member `type` that names its kind, or an array that begins with
that name. The whole message is read, and every part of it kept, before its fields are looked at.
A kind of server message that is not known is not an error, a kind of client message is.

## Main definitions

* `Json.Tagged`: a document with its tag taken out.
* `ServerMessage.decode`, `ServerMessage.encode`: reading and writing server messages.
* `ClientMessage.decode`, `ClientMessage.encode`: reading and writing client messages.
-/

namespace LiveBoard

namespace Json

/-- A tagged document: its tag, and the rest of it as a sound document. -/
structure Tagged (τ : Type) where
  tag : τ
  content : Node

namespace Tagged

variable {τ : Type}

/-- The name of the member that holds the tag. -/
def key : String := "type"

/-- Reads a tag: a string that `known` accepts. -/
def readTag (known : String → Except ReadError τ) : Node → Except ReadError τ
  | .string s => do known (← fromFault s)
  | n => .error (unexpected "variant identifier" n)

/-- Takes the tag out of the members of an object and keeps the others. -/
def fromMembers (known : String → Except ReadError τ) (room : Nat) :
    Option τ → List (Key × Node) → Except ReadError (Option τ × List (Key × Node))
  | tag, [] => .ok (tag, [])
  | tag, (k, n) :: ms => do
    let name ← fromFault k
    if name = key then
      if tag.isSome then .error (.mismatch (.duplicateField key))
      else
        let t ← readTag known n
        fromMembers known room (some t) ms
    else
      let _ ← fromFault (n.keep room)
      let (tag, rest) ← fromMembers known room tag ms
      return (tag, (k, n) :: rest)

/-- A document that lacks its tag. -/
def missing : ReadError := .mismatch (.missingField key)

/-- Reads a tagged document, its fields still untouched. -/
def read (name : String) (known : String → Except ReadError τ) (ctx : Context) :
    Node → Except ReadError (Tagged τ)
  | .object ms ending => do
    let inner ← ctx.inside
    let (tag, rest) ← fromMembers known inner.room none ms
    fromFault ending.kept
    match tag with
    | some tag => return ⟨tag, .object rest .closed⟩
    | none => .error missing
  | .array [] ending => do
    let _ ← ctx.inside
    fromFault ending.kept
    .error missing
  | .array (n :: ns) ending => do
    let inner ← ctx.inside
    let tag ← readTag known n
    let _ ← fromFault (keepItems inner.room ns)
    fromFault ending.kept
    return ⟨tag, .array ns .closed⟩
  | n => .error (unexpected ("internally tagged enum " ++ name) n)

end Tagged

/-- Reads nothing from a document that has only a tag. Elements behind the tag are refused. -/
def Decoder.nothing : Decoder Unit := fun _ n =>
  match n with
  | .array (n :: ns) _ =>
    .error (.mismatch (.invalidLength (n :: ns).length (elements 0 ++ " in sequence")))
  | _ => .ok ()

/-- The written form of a tagged record. -/
def Value.tagged (tag : String) (fields : List (String × Value)) : Value :=
  .object ((Tagged.key, .string tag) :: fields)

end Json

open Json

/-! ### Server messages -/

namespace Snapshot

/-- A snapshot in the making. -/
structure Draft where
  tasks : Option (List Task) := none
  timestamp : Option String := none

/-- The written shape of a snapshot. -/
def shape : RecordShape Draft Snapshot where
  name := "struct BoardSnapshot"
  blank := {}
  build d := do return { tasks := ← d.tasks, timestamp := d.timestamp.getD "" }
  slots := [
    .of "tasks" true (·.tasks) (fun d x => { d with tasks := some x }) (.list Task.decoder),
    .of "timestamp" false (·.timestamp) (fun d x => { d with timestamp := some x }) .string]

/-- The fields of a written snapshot. -/
def fields (s : Snapshot) : List (String × Value) :=
  field "tasks" (.array (s.tasks.map Task.toValue)) ++ field "timestamp" (.string s.timestamp)

end Snapshot

namespace TaskUpdate

/-- An update in the making. -/
structure Draft where
  taskId : Option String := none
  changes : Option Patch := none
  updatedBy : Option (Option String) := none
  timestamp : Option String := none

/-- The written shape of an update. -/
def shape : RecordShape Draft TaskUpdate where
  name := "struct TaskUpdate"
  blank := {}
  build d := do
    return {
      taskId := ← d.taskId
      changes := ← d.changes
      updatedBy := d.updatedBy.join
      timestamp := d.timestamp.getD "" }
  slots := [
    .of "task_id" true (·.taskId) (fun d x => { d with taskId := some x }) .string,
    .of "changes" true (·.changes) (fun d x => { d with changes := some x }) Patch.decoder,
    .of "updated_by" false (·.updatedBy) (fun d x => { d with updatedBy := some x })
      (.optional .string),
    .of "timestamp" false (·.timestamp) (fun d x => { d with timestamp := some x }) .string]

/-- The fields of a written update. -/
def fields (u : TaskUpdate) : List (String × Value) :=
  field "task_id" (.string u.taskId) ++ field "changes" u.changes.toValue
    ++ fieldIfAny "updated_by" .string u.updatedBy ++ field "timestamp" (.string u.timestamp)

end TaskUpdate

namespace TaskCreated

/-- News of a task in the making. -/
structure Draft where
  task : Option Task := none
  timestamp : Option String := none

/-- The written shape of the news of a task. -/
def shape : RecordShape Draft TaskCreated where
  name := "struct TaskCreated"
  blank := {}
  build d := do return { task := ← d.task, timestamp := d.timestamp.getD "" }
  slots := [
    .of "task" true (·.task) (fun d x => { d with task := some x }) Task.decoder,
    .of "timestamp" false (·.timestamp) (fun d x => { d with timestamp := some x }) .string]

/-- The fields of the written news of a task. -/
def fields (c : TaskCreated) : List (String × Value) :=
  field "task" c.task.toValue ++ field "timestamp" (.string c.timestamp)

end TaskCreated

namespace TaskDeleted

/-- A deletion in the making. -/
structure Draft where
  taskId : Option String := none
  timestamp : Option String := none

/-- The written shape of a deletion. -/
def shape : RecordShape Draft TaskDeleted where
  name := "struct TaskDeleted"
  blank := {}
  build d := do return { taskId := ← d.taskId, timestamp := d.timestamp.getD "" }
  slots := [
    .of "task_id" true (·.taskId) (fun d x => { d with taskId := some x }) .string,
    .of "timestamp" false (·.timestamp) (fun d x => { d with timestamp := some x }) .string]

/-- The fields of a written deletion. -/
def fields (d : TaskDeleted) : List (String × Value) :=
  field "task_id" (.string d.taskId) ++ field "timestamp" (.string d.timestamp)

end TaskDeleted

namespace ServerMessage

/-- The written shape of the content of a new suggestion. -/
def suggestionShape : RecordShape (Option Suggestion) Suggestion where
  name := "struct variant ServerMessage::SuggestionNew"
  blank := none
  build d := d
  slots := [.of "suggestion" true (fun d => d) (fun _ x => some x) Suggestion.decoder]

/-- The written shape of the content of a heartbeat acknowledgement. -/
def heartbeatAckShape : RecordShape (Option (Option String)) (Option String) where
  name := "struct variant ServerMessage::HeartbeatAck"
  blank := none
  build d := some d.join
  slots := [.of "id" false (fun d => d) (fun _ x => some x) (.optional .string)]

/-- The kinds of server messages that are known. -/
inductive Kind
  | boardState
  | taskUpdated
  | taskCreated
  | taskDeleted
  | suggestionNew
  | heartbeatAck
  | unknown

/-- The kind with a given name. -/
def Kind.ofName : String → Kind
  | "board.state" => .boardState
  | "task.updated" => .taskUpdated
  | "task.created" => .taskCreated
  | "task.deleted" => .taskDeleted
  | "suggestion.new" => .suggestionNew
  | "heartbeat_ack" => .heartbeatAck
  | _ => .unknown

/-- Reads the content of a message of a known kind. -/
def content : Kind → Decoder ServerMessage
  | .boardState => fun ctx n => (Snapshot.shape.decoder ctx n).map .boardState
  | .taskUpdated => fun ctx n => (TaskUpdate.shape.decoder ctx n).map .taskUpdated
  | .taskCreated => fun ctx n => (TaskCreated.shape.decoder ctx n).map .taskCreated
  | .taskDeleted => fun ctx n => (TaskDeleted.shape.decoder ctx n).map .taskDeleted
  | .suggestionNew => fun ctx n => (suggestionShape.decoder ctx n).map .suggestionNew
  | .heartbeatAck => fun ctx n => (heartbeatAckShape.decoder ctx n).map .heartbeatAck
  | .unknown => fun ctx n => (Decoder.nothing ctx n).map fun _ => .unknown

/-- Reads a server message. -/
def decoder : Decoder ServerMessage := fun ctx n => do
  let tagged ← Tagged.read "ServerMessage" (fun name => .ok (Kind.ofName name)) ctx n
  content tagged.tag { ctx with buffered := true } tagged.content

/-- Reads a frame from the relay. -/
def decode (text : String) : Except ReadError ServerMessage := decodeText decoder text

/-- The written form of a server message. -/
def toValue : ServerMessage → Value
  | .boardState s => .tagged "board.state" s.fields
  | .taskUpdated u => .tagged "task.updated" u.fields
  | .taskCreated c => .tagged "task.created" c.fields
  | .taskDeleted d => .tagged "task.deleted" d.fields
  | .suggestionNew s => .tagged "suggestion.new" (field "suggestion" s.toValue)
  | .heartbeatAck id => .tagged "heartbeat_ack" (fieldIfAny "id" .string id)
  | .unknown => .tagged "Unknown" []

/-- The frame of a server message. -/
def encode (m : ServerMessage) : String := m.toValue.print

end ServerMessage

/-! ### Client messages -/

namespace ClientMessage

/-- A move in the making. -/
structure MoveDraft where
  taskId : Option String := none
  status : Option Status := none

/-- The written shape of the content of a move. -/
def moveShape : RecordShape MoveDraft ClientMessage where
  name := "struct variant ClientMessage::TaskMove"
  blank := {}
  build d := do return .taskMove (← d.taskId) (← d.status)
  slots := [
    .of "task_id" true (·.taskId) (fun d x => { d with taskId := some x }) .string,
    .of "status" true (·.status) (fun d x => { d with status := some x }) Status.decoder]

/-- A creation in the making. -/
structure CreateDraft where
  title : Option String := none
  status : Option Status := none
  assigneeId : Option (Option String) := none

/-- The written shape of the content of a creation. -/
def createShape : RecordShape CreateDraft ClientMessage where
  name := "struct variant ClientMessage::TaskCreate"
  blank := {}
  build d := do return .taskCreate (← d.title) (← d.status) d.assigneeId.join
  slots := [
    .of "title" true (·.title) (fun d x => { d with title := some x }) .string,
    .of "status" true (·.status) (fun d x => { d with status := some x }) Status.decoder,
    .of "assignee_id" false (·.assigneeId) (fun d x => { d with assigneeId := some x })
      (.optional .string)]

/-- The written shape of the content of a heartbeat. -/
def heartbeatShape : RecordShape (Option (Option String)) ClientMessage where
  name := "struct variant ClientMessage::Heartbeat"
  blank := none
  build d := some (.heartbeat d.join)
  slots := [.of "id" false (fun d => d) (fun _ x => some x) (.optional .string)]

/-- The decoders of the contents of client messages under their names. -/
def contents : List (String × Decoder ClientMessage) := [
  ("task.move", moveShape.decoder),
  ("task.create", createShape.decoder),
  ("heartbeat", heartbeatShape.decoder)]

/-- Reads a client message. -/
def decoder : Decoder ClientMessage := fun ctx n => do
  let tagged ← Tagged.read "ClientMessage" (Decoder.named contents) ctx n
  tagged.tag { ctx with buffered := true } tagged.content

/-- Reads a frame from a client. -/
def decode (text : String) : Except ReadError ClientMessage := decodeText decoder text

/-- The written form of a client message. -/
def toValue : ClientMessage → Value
  | .taskMove id status =>
    .tagged "task.move" (field "task_id" (.string id) ++ field "status" status.toValue)
  | .taskCreate title status assignee =>
    .tagged "task.create" (field "title" (.string title) ++ field "status" status.toValue
      ++ fieldIfAny "assignee_id" .string assignee)
  | .heartbeat id => .tagged "heartbeat" (fieldIfAny "id" .string id)

/-- The frame of a client message. -/
def encode (m : ClientMessage) : String := m.toValue.print

end ClientMessage

end LiveBoard
